/-
JSON values.

A value is kept as it was written: numbers with their digits, members of
an object in order and with repetitions. A reader of a particular shape
decides what a repeated or an unknown member means to it.

# Texts that are no text

A string literal can spell half of a surrogate pair. It is JSON, and
whoever skips the value never notices, but it stands for no text; such a
literal, as a value or as the name of a member, is `none` here.
-/
namespace SpellSessions

/-- A JSON value. -/
inductive Json where
  | null
  | bool (b : Bool)
  /-- A number, in the spelling of its literal. -/
  | number (literal : String)
  /-- A string, `none` when its literal spells no text. -/
  | string (text : Option String)
  | array (items : List Json)
  /-- Named members, in the order in which they are written. -/
  | object (members : List (Option String × Json))
deriving Inhabited

namespace Json

/-- The string with a given text. -/
def ofText (s : String) : Json := .string (some s)

/-- The number for an integer, without sign or leading zeros unless they
are needed. -/
def ofInt (i : Int) : Json := .number (toString i)

/-- The number for a natural number. -/
def ofNat (n : Nat) : Json := .number (toString n)

/-- An optional text: the string, or null. -/
def ofText? : Option String → Json
  | none => .null
  | some s => ofText s

/-- The object with the given members. -/
def record (fields : List (String × Json)) : Json :=
  .object (fields.map fun (name, value) => (some name, value))

/-- A list of texts. -/
def ofTexts (texts : List String) : Json :=
  .array (texts.map ofText)

-- ====================================================== typed readings

/-- The text of a string; no other value has one. -/
def text? : Json → Option String
  | .string s => s
  | _ => none

/-- The truth value; no other value has one. -/
def bool? : Json → Option Bool
  | .bool b => some b
  | _ => none

/-- The items of an array; no other value has any. -/
def items? : Json → Option (List Json)
  | .array items => some items
  | _ => none

/-- What `read` finds in every item of an array, provided it finds
something in each. -/
def list? {α : Type} (read : Json → Option α) (j : Json) :
    Option (List α) :=
  j.items?.bind (·.mapM read)

/-- Null, or what `read` finds. -/
def nullOr? {α : Type} (read : Json → Option α) :
    Json → Option (Option α)
  | .null => some none
  | j => (read j).map some

end Json

end SpellSessions
