/-
Descriptors: providers as discovery describes them, before anything is
checked.

A descriptor becomes a provider when its id is not blank, it asks its
binder for the bind permission, and it declares at least one subtype and
only subtypes whose locale tags can be read. The first rule that is
broken, in that order, is the fault that is reported.
-/
import SpellSessions.Json.Fields
import SpellSessions.Json.Writer
import SpellSessions.Provider

namespace SpellSessions

/-- A subtype as a provider describes it. -/
structure SubtypeDescription where
  locale : String
  extra : String
deriving DecidableEq, Repr

/-- A provider as discovery describes it. -/
structure Descriptor where
  id : String
  package : String
  permission : Option String
  system : Bool
  subtypes : List SubtypeDescription
deriving DecidableEq, Repr

/-- The permission that a provider must ask of its binder. -/
def requiredPermission : String :=
  "speller.permission.BIND_TEXT_SERVICE"

/-- Why a descriptor makes no provider. -/
inductive DescriptorFault where
  | emptyId (package : String)
  | missingPermission (id : String)
  | noSubtypes (id : String)
  | invalidSubtype (id : String) (source : LocaleError)
deriving DecidableEq, Repr

/-- The fault in words. -/
def DescriptorFault.message : DescriptorFault → String
  | .emptyId package =>
    "descriptor from package '" ++ package ++ "' has an empty id"
  | .missingPermission id =>
    "provider '" ++ id ++ "' does not require the bind permission"
  | .noSubtypes id =>
    "provider '" ++ id ++ "' declares no subtypes"
  | .invalidSubtype id source =>
    "provider '" ++ id ++ "' declares an invalid subtype: "
      ++ source.message

/-- The subtype that is described, if its tag can be read. -/
def SubtypeDescription.validate (s : SubtypeDescription) :
    Except LocaleError ProviderSubtype :=
  (Locale.parse s.locale).map fun locale => ⟨locale, s.extra⟩

namespace Descriptor

/-- The provider that is described, or the first fault. -/
def validate (d : Descriptor) : Except DescriptorFault Provider :=
  if Text.isBlankText d.id then .error (.emptyId d.package)
  else if d.permission ≠ some requiredPermission then
    .error (.missingPermission d.id)
  else if d.subtypes.isEmpty then .error (.noSubtypes d.id)
  else
    match d.subtypes.mapM SubtypeDescription.validate with
    | .error source => .error (.invalidSubtype d.id source)
    | .ok subtypes => .ok ⟨d.id, d.package, d.system, subtypes⟩

end Descriptor

-- ============================================================ as JSON

/-- The subtype that a JSON value describes. Only the tag must be
given. -/
def SubtypeDescription.ofJson? (j : Json) : Option SubtypeDescription := do
  let [locale, extra] ← j.slots? .ignored ["locale", "extra_value"]
    | none
  return {
    locale := ← Json.required? Json.text? locale
    extra := ← Json.orDefault? "" Json.text? extra }

/-- A described subtype as JSON. -/
def SubtypeDescription.toJson (s : SubtypeDescription) : Json :=
  .record [("locale", .ofText s.locale), ("extra_value", .ofText s.extra)]

namespace Descriptor

/-- The descriptor that a JSON value holds. Id and package must be given;
the permission alone may be null. -/
def ofJson? (j : Json) : Option Descriptor := do
  let [id, package, permission, system, subtypes] ←
    j.slots? .ignored ["id", "package", "permission", "system", "subtypes"]
    | none
  return {
    id := ← Json.required? Json.text? id
    package := ← Json.required? Json.text? package
    permission := ← Json.orDefault? none (Json.nullOr? Json.text?) permission
    system := ← Json.orDefault? false Json.bool? system
    subtypes :=
      ← Json.orDefault? [] (Json.list? SubtypeDescription.ofJson?) subtypes }

/-- A descriptor as JSON, every field written. -/
def toJson (d : Descriptor) : Json :=
  .record [
    ("id", .ofText d.id),
    ("package", .ofText d.package),
    ("permission", .ofText? d.permission),
    ("system", .bool d.system),
    ("subtypes", .array (d.subtypes.map SubtypeDescription.toJson))]

end Descriptor

end SpellSessions
