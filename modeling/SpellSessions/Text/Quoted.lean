/-
Values in the form in which diagnostics show them.

A text stands in double quotes; a quote and a reverse solidus in it are
escaped, tabulation, line ends and the null character have short forms,
and any other unprintable character is given by its number. A record
shows its name and its fields, and ends in two dots when there are
fields that it does not show.
-/
import SpellSessions.Text.Unprintable

namespace SpellSessions.Text

/-- One character of a quoted text. -/
def quotedChar (c : Char) : String :=
  if c = '"' then "\\\""
  else if c = '\\' then "\\\\"
  else if c = '\t' then "\\t"
  else if c = '\n' then "\\n"
  else if c = '\r' then "\\r"
  else if c = '\x00' then "\\0"
  else if isUnprintable c then
    "\\u\x7b" ++ String.ofList (Nat.toDigits 16 c.toNat) ++ "\x7d"
  else c.toString

/-- A text in quotes. -/
def quoted (s : String) : String :=
  "\"" ++ String.join (s.toList.map quotedChar) ++ "\""

/-- Parts with a comma and a blank between them. -/
def commaSeparated (parts : List String) : String :=
  String.intercalate ", " parts

/-- A list of shown values. -/
def shownList (values : List String) : String :=
  "[" ++ commaSeparated values ++ "]"

/-- A shown value under the name of its type. -/
def shownTuple (name value : String) : String :=
  name ++ "(" ++ value ++ ")"

/-- An optional shown value. -/
def shownOption : Option String → String
  | none => "None"
  | some value => shownTuple "Some" value

/-- A map from texts to texts. -/
def shownMap (entries : List (String × String)) : String :=
  "\x7b"
    ++ commaSeparated (entries.map fun (k, v) => quoted k ++ ": " ++ quoted v)
    ++ "\x7d"

/-- The fields of a record, each with its name. -/
def shownFields (fields : List (String × String)) : List String :=
  fields.map fun (name, value) => name ++ ": " ++ value

/-- A record that shows all its fields. -/
def shownRecord (name : String) (fields : List (String × String)) :
    String :=
  name ++ " \x7b " ++ commaSeparated (shownFields fields) ++ " \x7d"

/-- A record that has further fields. -/
def shownPartly (name : String) (fields : List (String × String)) :
    String :=
  name ++ " \x7b " ++ commaSeparated (shownFields fields ++ [".."])
    ++ " \x7d"

end SpellSessions.Text
