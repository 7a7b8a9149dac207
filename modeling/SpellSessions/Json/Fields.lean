/-
Values of a fixed shape: named fields in a declared order.

Such a value is written as an object, its members in any order, or as an
array of the fields in their declared order, of which the last ones may
be left out. Either way reading it gives one slot per field, empty where
the field is absent; what an empty slot means is for each field to say.
-/
import SpellSessions.Json

namespace SpellSessions.Json

/-- Whether members that are no declared field are passed over or
refused. -/
inductive Unknown where
  | ignored
  | refused
deriving DecidableEq, Repr

/-- The slots for declared fields, from named members. No declared field
occurs twice. -/
def slotsOfMembers? (unknown : Unknown) (fields : List String)
    (members : List (String × Json)) : Option (List (Option Json)) :=
  if fields.any (fun field => 1 < (members.map Prod.fst).count field) then
    none
  else if unknown = .refused
      && members.any (fun member => !fields.contains member.1) then
    none
  else
    some (fields.map fun field => List.lookup field members)

/-- The slots for declared fields, one for each field. -/
def slots? (unknown : Unknown) (fields : List String) :
    Json → Option (List (Option Json))
  | .array items =>
    if items.length ≤ fields.length then
      some (items.map some
        ++ List.replicate (fields.length - items.length) none)
    else none
  | .object members => do
    let named ← members.mapM fun (label, v) => label.map (·, v)
    slotsOfMembers? unknown fields named
  | _ => none

/-- A field that must be there. -/
def required? {α : Type} (read : Json → Option α) (slot : Option Json) :
    Option α :=
  slot.bind read

/-- A field that has a default. -/
def orDefault? {α : Type} (default : α) (read : Json → Option α) :
    Option Json → Option α
  | none => some default
  | some v => read v

end SpellSessions.Json
