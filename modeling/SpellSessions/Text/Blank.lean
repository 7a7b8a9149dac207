/-
White space, and its removal from both ends of a text.

The class is Unicode's White_Space property: 25 characters, of which
core's `Char.isWhitespace` knows the ASCII ones except line tabulation
and form feed. A reader that trims a tag trims all 25.
-/
namespace SpellSessions.Text

/-- The 25 characters with the White_Space property. -/
def isBlank (c : Char) : Bool :=
  let n := c.toNat
  (0x09 ≤ n && n ≤ 0x0D) || n == 0x20 || n == 0x85 || n == 0xA0
    || n == 0x1680 || (0x2000 ≤ n && n ≤ 0x200A) || n == 0x2028
    || n == 0x2029 || n == 0x202F || n == 0x205F || n == 0x3000

/-- A text without the blanks it begins with. -/
def trimStart (cs : List Char) : List Char :=
  cs.dropWhile isBlank

/-- A text without the blanks it ends with. -/
def trimEnd (cs : List Char) : List Char :=
  (trimStart cs.reverse).reverse

/-- A text without the blanks at either end. Blanks inside it stay. -/
def trim (cs : List Char) : List Char :=
  trimEnd (trimStart cs)

/-- The text of a string without the blanks at either end is empty:
the string is empty or holds blanks only. -/
def isBlankText (s : String) : Bool :=
  s.toList.all isBlank

end SpellSessions.Text
