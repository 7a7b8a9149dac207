/-
The number that stands for a declared subtype.

A stored selection names a subtype by a 32-bit number that survives a
rebuild of the registry: the leading word of the SHA-256 digest of its
locale tag, a zero byte and its extra value. Two numbers are reserved,
and a subtype whose digest begins with one of them gets the next number
instead.
-/
import SpellSessions.Digest.Sha256

namespace SpellSessions

/-- The number by which a subtype selection is stored. -/
structure SubtypeHash where
  raw : Int32
deriving DecidableEq, Repr

namespace SubtypeHash

/-- Nothing was ever stored. -/
def unset : SubtypeHash := ⟨Int32.minValue⟩

/-- The subtype follows the input or system locale. -/
def automatic : SubtypeHash := ⟨0⟩

/-- What is digested for a subtype: the bytes of the tag, a zero byte and
the bytes of the extra value. -/
def digested (locale extra : String) : List UInt8 :=
  locale.toUTF8.data.toList ++ 0 :: extra.toUTF8.data.toList

/-- The leading word of a digest, out of the way of the reserved
numbers. -/
def ofWord (word : UInt32) : SubtypeHash :=
  let raw := word.toInt32
  if raw = automatic.raw then ⟨1⟩
  else if raw = unset.raw then ⟨Int32.minValue + 1⟩
  else ⟨raw⟩

/-- The number of the subtype with a given tag and extra value. -/
def of (locale extra : String) : SubtypeHash :=
  ofWord ((Digest.sha256 (digested locale extra)).headD 0)

/-- A hash in words. -/
def text (h : SubtypeHash) : String :=
  toString h.raw

end SubtypeHash

end SpellSessions
