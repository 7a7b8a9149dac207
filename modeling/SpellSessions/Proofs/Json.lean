/-
Texts in JSON: what is written is read back.

A string literal is read one step at a time, and each character is written so
that one step reads it, whatever stands behind it (`scanString_escape`). So a
literal is read to its closing quote and no further (`scanString_flatMap`), and
it is one token, the string that was written (`scan_quote`).
-/
import SpellSessions.Json.Reader
import SpellSessions.Json.Writer

namespace SpellSessions.Json

open SpellSessions.Json.Token (Piece scanString textOf scan hexUnit? escaped?
  ofPunctuation?)

variable {c : Char} {cs rest : List Char} {pieces : List Piece}

-- ========================================================= one character

/-- A number below 32, in four hexadecimal digits. -/
theorem hexUnit?_hexDigit :
    ∀ n < 32, hexUnit? '0' '0' (hexDigit (n / 16)) (hexDigit (n % 16))
      = some n := by
  decide

/-- A control character is no half of a pair. -/
theorem Token.Piece.ofUnit_toNat (h : c.toNat < 0x20) :
    Piece.ofUnit c.toNat = .char c := by
  have hhigh : Token.isHighHalf c.toNat = false := by
    simp only [Token.isHighHalf, Bool.and_eq_false_iff,
      decide_eq_false_iff_not]
    omega
  have hlow : Token.isLowHalf c.toNat = false := by
    simp only [Token.isLowHalf, Bool.and_eq_false_iff,
      decide_eq_false_iff_not]
    omega
  rw [Piece.ofUnit, hhigh, hlow, Char.ofNat_toNat]
  rfl

/-- The short escapes are read back, and none of them is the one for units. -/
theorem escape_short
    (h : c ∈ ['"', '\\', '\x08', '\x0c', '\n', '\r', '\t']) :
    ∃ e, e ≠ 'u' ∧ escaped? e = some c ∧ escape c = ['\\', e] := by
  simp only [List.mem_cons, List.not_mem_nil, or_false] at h
  rcases h with rfl | rfl | rfl | rfl | rfl | rfl | rfl
  · exact ⟨'"', by decide, rfl, rfl⟩
  · exact ⟨'\\', by decide, rfl, rfl⟩
  · exact ⟨'b', by decide, rfl, rfl⟩
  · exact ⟨'f', by decide, rfl, rfl⟩
  · exact ⟨'n', by decide, rfl, rfl⟩
  · exact ⟨'r', by decide, rfl, rfl⟩
  · exact ⟨'t', by decide, rfl, rfl⟩

/-- One step reads what was written for one character. -/
theorem scanString_escape (c : Char) (cs : List Char) :
    scanString (escape c ++ cs)
      = (scanString cs).map fun read => (.char c :: read.1, read.2) := by
  by_cases hshort : c ∈ ['"', '\\', '\x08', '\x0c', '\n', '\r', '\t']
  · obtain ⟨e, hunit, he, htext⟩ := escape_short hshort
    rw [htext, List.cons_append, List.singleton_append, scanString]
    · rw [he, Option.map_eq_bind]
      rfl
    · intro _ _ _ _ _ hunits
      exact absurd hunits hunit
  · simp only [List.mem_cons, List.not_mem_nil, or_false, not_or] at hshort
    obtain ⟨hquote, hsolidus, hothers⟩ := hshort
    by_cases hcontrol : c.toNat < 0x20
    · have htext : escape c = ['\\', 'u', '0', '0', hexDigit (c.toNat / 16),
          hexDigit (c.toNat % 16)] := by
        simp [escape, hquote, hsolidus, hothers, hcontrol]
      rw [htext, List.cons_append, List.cons_append, List.cons_append,
        List.cons_append, List.cons_append, List.singleton_append, scanString,
        hexUnit?_hexDigit _ hcontrol, Option.map_eq_bind,
        ← Token.Piece.ofUnit_toNat hcontrol]
      rfl
    · have htext : escape c = [c] := by
        simp [escape, hquote, hsolidus, hothers, hcontrol]
      rw [htext, List.singleton_append, scanString, if_neg]
      · rw [Option.map_eq_bind]
        rfl
      · simp [hsolidus, hcontrol]
      -- the character begins neither the end of the literal nor an escape
      · exact hquote
      · intro _ _ _ _ _ h
        exact absurd h hsolidus
      · intro _ _ h
        exact absurd h hsolidus

-- ============================================================== a literal

/-- A literal is read to its closing quote. -/
theorem scanString_flatMap (cs rest : List Char) :
    scanString (cs.flatMap escape ++ '"' :: rest)
      = some (cs.map .char, rest) := by
  induction cs with
  | nil => simp [scanString]
  | cons c cs ih =>
      rw [List.flatMap_cons, List.append_assoc, scanString_escape, ih]
      rfl

theorem Token.textOf_map_char (cs : List Char) :
    textOf (cs.map .char) = some cs := by
  induction cs with
  | nil => rfl
  | cons c cs ih =>
      rw [List.map_cons, textOf, ih]
      rfl

/-- What stands between quotes is a token. -/
theorem Token.scan_of_scanString (h : scanString cs = some (pieces, rest)) :
    scan ('"' :: cs)
      = (scan rest).map (.string ((textOf pieces).map String.ofList) :: ·) := by
  have hquote : ofPunctuation? '"' = none := rfl
  rw [scan, if_neg (by decide)]
  simp only [hquote, if_true]
  split
  · next hnone =>
      rw [h] at hnone
      cases hnone
  · next hsome =>
      rw [h] at hsome
      cases hsome
      rfl

/-- The literal of a string is a token of its own, also one that spells no
text. -/
theorem scan_quote (text : Option String) (rest : List Char) :
    scan (quote text ++ rest) = (scan rest).map (.string text :: ·) := by
  cases text with
  | some text =>
      rw [quote, List.cons_append, List.cons_append, List.append_assoc,
        List.singleton_append,
        Token.scan_of_scanString (scanString_flatMap text.toList rest),
        Token.textOf_map_char, Option.map_some, String.ofList_toList]
  | none =>
      have hhalf : scanString ('\\' :: 'u' :: 'd' :: '8' :: '0' :: '0' :: '"'
          :: rest) = some ([.half 0xD800], rest) := by
        simp [scanString]
        rfl
      exact Token.scan_of_scanString hhalf

end SpellSessions.Json
