/-
Selection: which provider is the default, and which of its subtypes.

Both are decided by what is known alone. A provider is taken by name if
one is preferred and known; else by the ladder of the system locale, a
higher rung before an earlier place in the order of discovery; else the
first of all. A subtype is taken by its stored hash; an automatic one by
the candidate locale, an equal locale before a tag that the candidate's
tag begins with.
-/
import SpellSessions.Locale.Ladder
import SpellSessions.Registry

namespace SpellSessions

/-- How a default provider is chosen. -/
structure DefaultRule where
  /-- The locales that the ladder of a system locale that is not English
  ends with. -/
  fallbacks : List Locale
deriving DecidableEq, Repr

namespace DefaultRule

/-- The locales that tags stand for. A tag that stands for none is
passed over with a notice. -/
def readFallbacks : List String → Logged (List Locale)
  | [] => ⟨[], []⟩
  | tag :: tags =>
    let rest := readFallbacks tags
    match Locale.parse tag with
    | .ok l => ⟨l :: rest.value, rest.notices⟩
    | .error fault => ⟨rest.value, .invalidFallback fault :: rest.notices⟩

/-- The rule with the fallbacks of the given tags. -/
def ofTags (tags : List String) : Logged DefaultRule :=
  let read := readFallbacks tags
  ⟨⟨read.value⟩, read.notices⟩

-- ======================================================= the candidates

/-- The provider that a preference names: by id, else the first of a
package. An absent or empty preference names none. -/
def preferred? (r : Registry) : Option String → Option Provider
  | none => none
  | some wanted =>
    if wanted.isEmpty then none
    else (r.get? wanted).or (r.providers.find? (·.package = wanted))

/-- The first provider that declares a locale of the ladder, on the
highest rung that any provider declares. -/
def matching? (r : Registry) (ladder : List Locale) : Option Provider :=
  ladder.findSome? fun rung => r.providers.find? (·.declares rung)

/-- The default provider: the preferred one, else one that matches the
ladder, else the first. -/
def choose (rule : DefaultRule) (r : Registry)
    (preference : Option String) (system : Locale) :
    Logged (Option Provider) :=
  if r.isEmpty then ⟨none, [.noProviders]⟩
  else
    match preferred? r preference with
    | some p => ⟨some p, []⟩
    | none =>
      match matching? r (system.ladder rule.fallbacks) with
      | some p => ⟨some p, []⟩
      | none =>
        ⟨r.providers.head?, if 1 < r.size then [.pickingFirst r.size] else []⟩

end DefaultRule

-- ============================================================= subtypes

/-- Whether a declared tag can stand in for a candidate: both have two
bytes at least, and the candidate begins with it. -/
def tagCovers (declared candidate : String) : Bool :=
  2 ≤ candidate.utf8ByteSize && 2 ≤ declared.utf8ByteSize
    && declared.toList.isPrefixOf candidate.toList

/-- One pass over subtypes for a candidate's tag. A subtype with that very
tag ends it; of the ones before whose tag covers the candidate's, the first
is remembered, and is the answer if nothing ends the pass. -/
def scanSubtypes (candidate : String) :
    Option ProviderSubtype → List ProviderSubtype → Option ProviderSubtype
  | remembered, [] => remembered
  | remembered, s :: rest =>
    let declared := s.locale.render
    if declared = candidate then some s
    else if remembered.isNone && tagCovers declared candidate then
      scanSubtypes candidate (some s) rest
    else scanSubtypes candidate remembered rest

/-- The subtype for a candidate locale, found in one pass. -/
def automaticSubtype? (subtypes : List ProviderSubtype)
    (candidate : Locale) : Option ProviderSubtype :=
  scanSubtypes candidate.render none subtypes

/-- The subtype to use with a provider. Nothing stored means no subtype,
unless an implicit choice is allowed; then, and when the stored choice
is automatic, the input locale decides, or the system locale when there
is none. Any other stored hash names a subtype or nothing. -/
def selectSubtype (provider : Option Provider) (stored : SubtypeHash)
    (allowImplicit : Bool) (input : Option Locale) (system : Locale) :
    Option ProviderSubtype :=
  match provider with
  | none => none
  | some p =>
    if stored = .unset && !allowImplicit then none
    else if stored = .automatic || stored = .unset then
      automaticSubtype? p.subtypes (input.getD system)
    else p.subtype? stored

end SpellSessions
