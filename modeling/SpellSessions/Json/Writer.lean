/-
Writing JSON.

The compact text of a value is its tokens, spelled one after the other.
A string is written with as few escapes as JSON allows: quote, reverse
solidus and the control characters below U+0020; everything else,
U+007F and all that is not ASCII included, stands for itself. The
indented text puts each item on a line of its own, two blanks further in
than the line that opens its container.
-/
import SpellSessions.Json.Token

namespace SpellSessions.Json

-- ============================================================= spelling

/-- The lower-case hexadecimal digit for a number below 16. -/
def hexDigit (n : Nat) : Char :=
  if n < 10 then Char.ofNat ('0'.toNat + n)
  else Char.ofNat ('a'.toNat + (n - 10))

/-- One character inside a string literal. -/
def escape (c : Char) : List Char :=
  if c = '"' then ['\\', '"']
  else if c = '\\' then ['\\', '\\']
  else if c = '\x08' then ['\\', 'b']
  else if c = '\x0c' then ['\\', 'f']
  else if c = '\n' then ['\\', 'n']
  else if c = '\r' then ['\\', 'r']
  else if c = '\t' then ['\\', 't']
  else if c.toNat < 0x20 then
    ['\\', 'u', '0', '0', hexDigit (c.toNat / 16), hexDigit (c.toNat % 16)]
  else [c]

/-- A string literal. One that spells no text is written as half of a
surrogate pair. -/
def quote : Option String → List Char
  | some text => '"' :: text.toList.flatMap escape ++ ['"']
  | none => ['"', '\\', 'u', 'd', '8', '0', '0', '"']

/-- The characters of a token. -/
def Token.spell : Token → List Char
  | .braceOpen => ['\x7b']
  | .braceClose => ['\x7d']
  | .bracketOpen => ['[']
  | .bracketClose => [']']
  | .colon => [':']
  | .comma => [',']
  | .null => ['n', 'u', 'l', 'l']
  | .bool true => ['t', 'r', 'u', 'e']
  | .bool false => ['f', 'a', 'l', 's', 'e']
  | .number literal => literal.toList
  | .string text => quote text

-- ======================================================== compact texts

mutual

/-- The tokens that spell a value. -/
def tokens : Json → List Token
  | .null => [.null]
  | .bool b => [.bool b]
  | .number literal => [.number literal]
  | .string text => [.string text]
  | .array [] => [.bracketOpen, .bracketClose]
  | .array (v :: vs) =>
    .bracketOpen :: tokens v ++ itemTokens vs ++ [.bracketClose]
  | .object [] => [.braceOpen, .braceClose]
  | .object ((name, v) :: ms) =>
    .braceOpen :: .string name :: .colon :: tokens v ++ memberTokens ms
      ++ [.braceClose]

/-- The tokens of the items after the first. -/
def itemTokens : List Json → List Token
  | [] => []
  | v :: vs => .comma :: tokens v ++ itemTokens vs

/-- The tokens of the members after the first. -/
def memberTokens : List (Option String × Json) → List Token
  | [] => []
  | (name, v) :: ms =>
    .comma :: .string name :: .colon :: tokens v ++ memberTokens ms

end

/-- The text of a value, without a blank outside its strings. -/
def compact (v : Json) : String :=
  String.ofList (v.tokens.flatMap Token.spell)

-- ======================================================= indented texts

/-- The start of a line, `depth` containers deep. -/
def newLine (depth : Nat) : List Char :=
  '\n' :: List.replicate (2 * depth) ' '

mutual

/-- The characters of a value inside `depth` containers. -/
def indentedChars (depth : Nat) : Json → List Char
  | .array (v :: vs) =>
    '[' :: newLine (depth + 1) ++ indentedChars (depth + 1) v
      ++ indentedItems (depth + 1) vs ++ newLine depth ++ [']']
  | .object ((name, v) :: ms) =>
    '\x7b' :: newLine (depth + 1) ++ quote name ++ [':', ' ']
      ++ indentedChars (depth + 1) v ++ indentedMembers (depth + 1) ms
      ++ newLine depth ++ ['\x7d']
  | .array [] => ['[', ']']
  | .object [] => ['\x7b', '\x7d']
  | .null => Token.null.spell
  | .bool b => (Token.bool b).spell
  | .number literal => literal.toList
  | .string text => quote text

/-- The characters of the items after the first. -/
def indentedItems (depth : Nat) : List Json → List Char
  | [] => []
  | v :: vs =>
    ',' :: newLine depth ++ indentedChars depth v ++ indentedItems depth vs

/-- The characters of the members after the first. -/
def indentedMembers (depth : Nat) :
    List (Option String × Json) → List Char
  | [] => []
  | (name, v) :: ms =>
    ',' :: newLine depth ++ quote name ++ [':', ' ']
      ++ indentedChars depth v ++ indentedMembers depth ms

end

/-- The text of a value with each item on a line of its own. -/
def indented (v : Json) : String :=
  String.ofList (v.indentedChars 0)

end SpellSessions.Json
