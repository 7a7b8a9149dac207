/-
The ladder of locales under which a provider is looked for.

A system locale is generalised step by step: the tag itself when it has
both a region and a variant, then language and region, then the bare
language. An English system locale passes through `en-US` and `en-GB`
on the way and stops there; any other goes on to the extra locales that
the host was configured with. A locale keeps its first place only.
-/
import SpellSessions.Locale

namespace SpellSessions.Locale

/-- American English. -/
def enUS : Locale := ⟨"en", some "US", none⟩

/-- British English. -/
def enGB : Locale := ⟨"en", some "GB", none⟩

/-- The locale itself, when neither its region nor its variant is
absent: the one rung that keeps a variant. -/
def fullRung (l : Locale) : List Locale :=
  if l.region.isSome && l.variant.isSome then [l] else []

/-- The rungs that the system locale alone gives, from the most to the
least specific, repetitions included. -/
def ownRungs (system : Locale) : List Locale :=
  if system.isEnglish then
    system.fullRung
      ++ [system.withoutVariant?.getD system.bareLanguage, enUS, enGB,
        system.bareLanguage]
  else
    system.fullRung ++ system.withoutVariant?.toList
      ++ [system.bareLanguage]

/-- The ladder for a system locale: its own rungs, then, unless it is
English, the extra locales, each locale at its first place. -/
def ladder (system : Locale) (extra : List Locale) : List Locale :=
  (system.ownRungs ++ if system.isEnglish then [] else extra).eraseDups

end SpellSessions.Locale
