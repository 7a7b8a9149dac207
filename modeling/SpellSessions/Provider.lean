/-
Providers: backends that check spelling, each for the language variants
it declares.
-/
import SpellSessions.Identity
import SpellSessions.Locale
import SpellSessions.Provider.SubtypeHash

namespace SpellSessions

/-- A language variant that a provider declares, with a value of the
provider's own. -/
structure ProviderSubtype where
  locale : Locale
  extra : String
deriving DecidableEq, Repr

/-- The number by which a selection names the subtype. -/
def ProviderSubtype.hash (s : ProviderSubtype) : SubtypeHash :=
  SubtypeHash.of s.locale.render s.extra

/-- A provider that may be connected to. -/
structure Provider where
  id : ProviderId
  /-- The package that ships it. -/
  package : String
  /-- Whether it is part of the system image. -/
  system : Bool
  /-- What it declares, in the order of declaration. -/
  subtypes : List ProviderSubtype
deriving DecidableEq, Repr

namespace Provider

/-- The first declared subtype with a given hash. -/
def subtype? (p : Provider) (hash : SubtypeHash) : Option ProviderSubtype :=
  p.subtypes.find? (·.hash = hash)

/-- Whether some declared subtype has exactly the given locale. -/
def declares (p : Provider) (l : Locale) : Bool :=
  p.subtypes.any (·.locale = l)

end Provider

end SpellSessions
