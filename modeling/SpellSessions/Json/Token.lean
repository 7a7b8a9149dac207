/-
The words of JSON: punctuation, literals and strings.

A text is cut into tokens from the left; blanks between them are
dropped, and every other character belongs to one token. A string may
write a character as it is, by a short escape, or by its UTF-16 units in
hexadecimal; two units that make up a surrogate pair stand next to each
other.
-/
import SpellSessions.Json

namespace SpellSessions.Json

/-- A word of JSON. -/
inductive Token where
  | braceOpen
  | braceClose
  | bracketOpen
  | bracketClose
  | colon
  | comma
  | null
  | bool (b : Bool)
  | number (literal : String)
  | string (text : Option String)
deriving DecidableEq, Repr

namespace Token

-- ============================================================= strings

/-- What one step of a string literal spells: a character, or half of a
surrogate pair. -/
inductive Piece where
  | char (c : Char)
  | half (unit : Nat)
deriving DecidableEq, Repr

/-- The units that begin a surrogate pair. -/
def isHighHalf (unit : Nat) : Bool :=
  0xD800 ≤ unit && unit < 0xDC00

/-- The units that end a surrogate pair. -/
def isLowHalf (unit : Nat) : Bool :=
  0xDC00 ≤ unit && unit < 0xE000

/-- What a UTF-16 unit spells on its own. -/
def Piece.ofUnit (unit : Nat) : Piece :=
  if isHighHalf unit || isLowHalf unit then .half unit
  else .char (Char.ofNat unit)

/-- The character that a surrogate pair spells. -/
def pairedChar (high low : Nat) : Char :=
  Char.ofNat (0x10000 + (high - 0xD800) * 0x400 + (low - 0xDC00))

/-- The text that pieces spell: every half must be part of a pair. -/
def textOf : List Piece → Option (List Char)
  | [] => some []
  | .char c :: rest => (textOf rest).map (c :: ·)
  | .half high :: .half low :: rest =>
    if isHighHalf high && isLowHalf low then
      (textOf rest).map (pairedChar high low :: ·)
    else none
  | .half _ :: _ => none

/-- The value of a hexadecimal digit, in either case. -/
def hexDigit? (c : Char) : Option Nat :=
  if c.isDigit then some (c.toNat - '0'.toNat)
  else if 'a' ≤ c && c ≤ 'f' then some (c.toNat - 'a'.toNat + 10)
  else if 'A' ≤ c && c ≤ 'F' then some (c.toNat - 'A'.toNat + 10)
  else none

/-- The value of four hexadecimal digits. -/
def hexUnit? (a b c d : Char) : Option Nat := do
  let a ← hexDigit? a
  let b ← hexDigit? b
  let c ← hexDigit? c
  let d ← hexDigit? d
  some (((a * 16 + b) * 16 + c) * 16 + d)

/-- The character that a short escape stands for. -/
def escaped? : Char → Option Char
  | '"' => some '"'
  | '\\' => some '\\'
  | '/' => some '/'
  | 'b' => some '\x08'
  | 'f' => some '\x0c'
  | 'n' => some '\n'
  | 'r' => some '\r'
  | 't' => some '\t'
  | _ => none

/-- The pieces of a string literal whose opening quote has been read,
and the text after its closing quote. Control characters must be
escaped. -/
def scanString : List Char → Option (List Piece × List Char)
  | [] => none
  | '"' :: rest => some ([], rest)
  | '\\' :: 'u' :: a :: b :: c :: d :: rest => do
    let unit ← hexUnit? a b c d
    let (pieces, rest) ← scanString rest
    some (.ofUnit unit :: pieces, rest)
  | '\\' :: c :: rest => do
    let c ← escaped? c
    let (pieces, rest) ← scanString rest
    some (.char c :: pieces, rest)
  | c :: rest =>
    if c.toNat < 0x20 || c = '\\' then none
    else do
      let (pieces, rest) ← scanString rest
      some (.char c :: pieces, rest)

/-- Scanning a string leaves less than it was given. -/
theorem scanString_length {cs rest : List Char} {pieces : List Piece}
    (h : scanString cs = some (pieces, rest)) : rest.length < cs.length := by
  fun_induction scanString cs generalizing pieces with
  | case1 => cases h
  | case2 r =>
      cases h
      simp
  | case3 a b c d r ih =>
      simp only [Option.bind_eq_bind, Option.bind_eq_some_iff] at h
      obtain ⟨_, _, ⟨p, r'⟩, hr, h⟩ := h
      cases h
      have : r'.length < r.length := ih hr
      simp only [List.length_cons]
      omega
  | case4 c r _ ih =>
      simp only [Option.bind_eq_bind, Option.bind_eq_some_iff] at h
      obtain ⟨_, _, ⟨p, r'⟩, hr, h⟩ := h
      cases h
      have : r'.length < r.length := ih hr
      simp only [List.length_cons]
      omega
  | case5 => cases h
  | case6 c r _ _ _ _ ih =>
      simp only [Option.bind_eq_bind, Option.bind_eq_some_iff] at h
      obtain ⟨⟨p, r'⟩, hr, h⟩ := h
      cases h
      have : r'.length < r.length := ih hr
      simp only [List.length_cons]
      omega

-- ==================================================== words and numbers

/-- The characters that literals and numbers are made of. -/
def isWordChar (c : Char) : Bool :=
  c.isAlphanum || c = '-' || c = '+' || c = '.'

/-- At least one digit, and after the last of them what `next`
accepts. -/
def digitsThen (next : List Char → Bool) : List Char → Bool
  | [] => false
  | c :: cs => c.isDigit && next (cs.dropWhile Char.isDigit)

/-- The end of a number, with or without an exponent. -/
def isExponentPart : List Char → Bool
  | [] => true
  | e :: cs =>
    (e = 'e' || e = 'E') &&
      match cs with
      | '+' :: digits => digitsThen List.isEmpty digits
      | '-' :: digits => digitsThen List.isEmpty digits
      | digits => digitsThen List.isEmpty digits

/-- What may follow the integer digits of a number. -/
def isFractionPart : List Char → Bool
  | '.' :: digits => digitsThen isExponentPart digits
  | cs => isExponentPart cs

/-- A number without sign: no leading zero unless it is the only integer
digit. -/
def isMagnitude : List Char → Bool
  | '0' :: cs => isFractionPart cs
  | cs => digitsThen isFractionPart cs

/-- The literals that are numbers. -/
def isNumber : List Char → Bool
  | '-' :: cs => isMagnitude cs
  | cs => isMagnitude cs

/-- The token a word stands for. -/
def ofWord? (word : List Char) : Option Token :=
  if word = ['n', 'u', 'l', 'l'] then some .null
  else if word = ['t', 'r', 'u', 'e'] then some (.bool true)
  else if word = ['f', 'a', 'l', 's', 'e'] then some (.bool false)
  else if isNumber word then some (.number (String.ofList word))
  else none

-- ============================================================== cutting

/-- The blanks of JSON. -/
def isSpace (c : Char) : Bool :=
  c = ' ' || c = '\n' || c = '\t' || c = '\r'

/-- The token that a character is by itself. -/
def ofPunctuation? : Char → Option Token
  | '\x7b' => some .braceOpen
  | '\x7d' => some .braceClose
  | '[' => some .bracketOpen
  | ']' => some .bracketClose
  | ':' => some .colon
  | ',' => some .comma
  | _ => none

/-- The tokens of a text, unless some part of it is no token. -/
def scan : List Char → Option (List Token)
  | [] => some []
  | c :: cs =>
    if isSpace c then scan cs
    else
      match ofPunctuation? c with
      | some token => (scan cs).map (token :: ·)
      | none =>
        if c = '"' then
          match h : scanString cs with
          | none => none
          | some (pieces, rest) =>
            have : rest.length < cs.length := scanString_length h
            (scan rest).map
              (.string ((textOf pieces).map String.ofList) :: ·)
        else
          match ofWord? (c :: cs.takeWhile isWordChar) with
          | none => none
          | some token =>
            have := cs.dropWhile_suffix isWordChar |>.length_le
            (scan (cs.dropWhile isWordChar)).map (token :: ·)
termination_by cs => cs.length

end Token

end SpellSessions.Json
