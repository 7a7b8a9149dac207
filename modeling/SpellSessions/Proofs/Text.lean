/-
Texts that are trimmed and cut, said without an algorithm.

To trim a text is to write it as a text with blanks around it that itself
neither begins nor ends with one (`Trims`), and there is one way to do so
(`trim_eq_iff`). To cut it is to write it as stretches that hold no separator,
with one separator between each and the next (`Cuts`), and again there is one
way (`split_eq_iff`).

Both work from where a text can be told apart: a character that is no blank
keeps what is trimmed before it apart from what is trimmed behind it
(`trim_append_cons`), and a separator keeps apart what is cut
(`split_append_separator`).
-/
import Mathlib.Data.List.TakeWhile
import SpellSessions.Text.Blank
import SpellSessions.Text.Split

namespace SpellSessions.Text

variable {cs core before after : List Char} {c : Char}

-- ============================================================= trimming

/-- Nothing but blanks. -/
def AllBlank (cs : List Char) : Prop :=
  ∀ c ∈ cs, isBlank c = true

/-- A text with a blank at neither end. -/
structure IsTrimmed (cs : List Char) : Prop where
  first : ∀ c, cs.head? = some c → isBlank c = false
  last : ∀ c, cs.getLast? = some c → isBlank c = false

/-- What remains of a text without the blanks around it. -/
def Trims (cs core : List Char) : Prop :=
  ∃ before after, cs = before ++ core ++ after
    ∧ AllBlank before ∧ AllBlank after ∧ IsTrimmed core

theorem trimStart_append_of_blank (h : AllBlank before) (cs : List Char) :
    trimStart (before ++ cs) = trimStart cs :=
  List.dropWhile_append_of_pos h

/-- A character that is no blank keeps all behind it. -/
theorem trimStart_append_cons (before : List Char) (hc : isBlank c = false)
    (after : List Char) :
    trimStart (before ++ c :: after) = trimStart before ++ c :: after := by
  unfold trimStart
  rw [List.dropWhile_append, List.dropWhile_cons_of_neg (by simp [hc])]
  by_cases hnone : before.dropWhile isBlank = []
  · simp [hnone]
  · simp [hnone]

theorem trimStart_of_first (h : ∀ c, cs.head? = some c → isBlank c = false) :
    trimStart cs = cs := by
  cases cs with
  | nil => rfl
  | cons c cs => exact List.dropWhile_cons_of_neg (by simp [h c rfl])

/-- What is left does not begin with a blank. -/
theorem first_trimStart (h : (trimStart cs).head? = some c) :
    isBlank c = false := by
  have hfirst := List.head?_dropWhile_not isBlank cs
  unfold trimStart at h
  rwa [h] at hfirst

theorem exists_trimStart (cs : List Char) :
    ∃ before, AllBlank before ∧ cs = before ++ trimStart cs :=
  ⟨cs.takeWhile isBlank, fun _ hc => List.mem_takeWhile_imp hc,
    List.takeWhile_append_dropWhile.symm⟩

theorem reverse_trimEnd (cs : List Char) :
    (trimEnd cs).reverse = trimStart cs.reverse :=
  List.reverse_reverse _

theorem trimEnd_append_of_blank (h : AllBlank after) (cs : List Char) :
    trimEnd (cs ++ after) = trimEnd cs := by
  have hback : AllBlank after.reverse :=
    fun c hc => h c (List.mem_reverse.mp hc)
  rw [trimEnd, List.reverse_append, trimStart_append_of_blank hback, trimEnd]

/-- A character that is no blank keeps all before it. -/
theorem trimEnd_append_cons (before : List Char) (hc : isBlank c = false)
    (after : List Char) :
    trimEnd (before ++ c :: after) = before ++ c :: trimEnd after := by
  have hback : (before ++ c :: after).reverse
      = after.reverse ++ c :: before.reverse := by
    simp
  rw [trimEnd, hback, trimStart_append_cons _ hc]
  simp [trimEnd]

theorem trimEnd_of_last (h : ∀ c, cs.getLast? = some c → isBlank c = false) :
    trimEnd cs = cs := by
  have hback : trimStart cs.reverse = cs.reverse := by
    apply trimStart_of_first
    intro c hc
    exact h c (List.head?_reverse ▸ hc)
  rw [trimEnd, hback, List.reverse_reverse]

/-- What is left does not end with a blank. -/
theorem last_trimEnd (h : (trimEnd cs).getLast? = some c) :
    isBlank c = false := by
  rw [← List.head?_reverse, reverse_trimEnd] at h
  exact first_trimStart h

theorem exists_trimEnd (cs : List Char) :
    ∃ after, AllBlank after ∧ cs = trimEnd cs ++ after := by
  obtain ⟨before, hblank, hcs⟩ := exists_trimStart cs.reverse
  refine ⟨before.reverse, fun c hc => hblank c (List.mem_reverse.mp hc), ?_⟩
  rw [trimEnd, ← List.reverse_append, ← hcs, List.reverse_reverse]

-- ============================================================ both ends

/-- A character that is no blank keeps the two ends apart. -/
theorem trim_append_cons (before : List Char) (hc : isBlank c = false)
    (after : List Char) :
    trim (before ++ c :: after) = trimStart before ++ c :: trimEnd after := by
  rw [trim, trimStart_append_cons _ hc, trimEnd_append_cons _ hc]

theorem trim_of_blank (h : AllBlank cs) : trim cs = [] := by
  have hnone : trimStart cs = [] := List.dropWhile_eq_nil_iff.mpr h
  rw [trim, hnone]
  rfl

theorem trim_of_isTrimmed (h : IsTrimmed cs) : trim cs = cs := by
  rw [trim, trimStart_of_first h.first, trimEnd_of_last h.last]

/-- A text is blank all over, or has a character that is no blank. -/
theorem allBlank_or (cs : List Char) :
    AllBlank cs ∨ ∃ before c after, cs = before ++ c :: after
      ∧ isBlank c = false := by
  by_cases h : AllBlank cs
  · exact .inl h
  · right
    simp only [AllBlank, not_forall, Bool.not_eq_true] at h
    obtain ⟨c, hmem, hc⟩ := h
    obtain ⟨before, after, rfl⟩ := List.append_of_mem hmem
    exact ⟨before, c, after, rfl, hc⟩

/-- Blanks around a text make no difference. -/
theorem trim_append (hbefore : AllBlank before) (hafter : AllBlank after)
    (cs : List Char) : trim (before ++ cs ++ after) = trim cs := by
  rcases allBlank_or cs with hblank | ⟨left, c, right, rfl, hc⟩
  · have hall : AllBlank (before ++ cs ++ after) := by
      intro c hc
      simp only [List.mem_append] at hc
      rcases hc with (hc | hc) | hc
      · exact hbefore c hc
      · exact hblank c hc
      · exact hafter c hc
    rw [trim_of_blank hall, trim_of_blank hblank]
  · have hshape : before ++ (left ++ c :: right) ++ after
        = (before ++ left) ++ c :: (right ++ after) := by
      simp
    rw [hshape, trim_append_cons _ hc, trim_append_cons _ hc,
      trimStart_append_of_blank hbefore, trimEnd_append_of_blank hafter]

theorem isTrimmed_trim (cs : List Char) : IsTrimmed (trim cs) where
  first := by
    intro c hc
    -- what comes first once both ends are trimmed came first before that
    have hfirst : (trimStart cs).head? = some c := by
      obtain ⟨after, -, hcs⟩ := exists_trimEnd (trimStart cs)
      rw [hcs, List.head?_append]
      exact Option.or_eq_some_iff.mpr (.inl hc)
    exact first_trimStart hfirst
  last := fun _ hc => last_trimEnd hc

theorem trims_trim (cs : List Char) : Trims cs (trim cs) := by
  obtain ⟨before, hbefore, hcs⟩ := exists_trimStart cs
  obtain ⟨after, hafter, hrest⟩ := exists_trimEnd (trimStart cs)
  refine ⟨before, after, ?_, hbefore, hafter, isTrimmed_trim cs⟩
  rw [trim, List.append_assoc, ← hrest, ← hcs]

/-- There is one way to trim a text. -/
theorem trim_eq_iff : trim cs = core ↔ Trims cs core := by
  constructor
  · rintro rfl
    exact trims_trim cs
  · intro h
    obtain ⟨before, after, rfl, hbefore, hafter, hcore⟩ := h
    rw [trim_append hbefore hafter, trim_of_isTrimmed hcore]

section Map

variable {f : Char → Char} (h : ∀ c, isBlank (f c) = isBlank c)

include h

theorem trimStart_map (cs : List Char) :
    trimStart (cs.map f) = (trimStart cs).map f := by
  have hsame : isBlank ∘ f = isBlank := funext h
  rw [trimStart, List.dropWhile_map, hsame, trimStart]

/-- A change of characters that keeps blanks blank can wait until a text is
trimmed. -/
theorem trim_map (cs : List Char) : trim (cs.map f) = (trim cs).map f := by
  simp only [trim, trimEnd, trimStart_map h, ← List.map_reverse]

end Map

-- ============================================================== cutting

/-- A text is stretches without separators, one separator between each and
the next. -/
inductive Cuts (isSeparator : Char → Bool) :
    List Char → List (List Char) → Prop
  | whole {part : List Char} (hpart : ∀ c ∈ part, isSeparator c = false) :
      Cuts isSeparator part [part]
  | cut {part cs : List Char} {c : Char} {parts : List (List Char)}
      (hpart : ∀ c ∈ part, isSeparator c = false)
      (hc : isSeparator c = true) (hrest : Cuts isSeparator cs parts) :
      Cuts isSeparator (part ++ c :: cs) (part :: parts)

variable {isSeparator : Char → Bool} {part : List Char}
  {parts : List (List Char)}

/-- One more character in front of a text is one more in front of its first
stretch. -/
theorem Cuts.cons (hc : isSeparator c = false)
    (h : Cuts isSeparator cs (part :: parts)) :
    Cuts isSeparator (c :: cs) ((c :: part) :: parts) := by
  cases h with
  | whole hpart => exact .whole (List.forall_mem_cons.mpr ⟨hc, hpart⟩)
  | cut hpart hsep hrest =>
      exact .cut (List.forall_mem_cons.mpr ⟨hc, hpart⟩) hsep hrest

theorem cuts_split (isSeparator : Char → Bool) (cs : List Char) :
    Cuts isSeparator cs (split isSeparator cs) := by
  induction cs with
  | nil => exact .whole (fun _ hc => absurd hc List.not_mem_nil)
  | cons c cs ih =>
      by_cases hc : isSeparator c = true
      · rw [split, if_pos hc]
        show Cuts isSeparator ([] ++ c :: cs) _
        exact .cut (fun _ hc => absurd hc List.not_mem_nil) hc ih
      · rw [split, if_neg hc]
        rw [Bool.not_eq_true] at hc
        split
        · next hnone =>
            rw [hnone] at ih
            cases ih
        · next part parts hsome =>
            rw [hsome] at ih
            exact ih.cons hc

/-- A text holds no separator, or there is a first one in it. -/
theorem plain_or_cut (isSeparator : Char → Bool) (cs : List Char) :
    (∀ c ∈ cs, isSeparator c = false)
      ∨ ∃ part c rest, cs = part ++ c :: rest
        ∧ (∀ c ∈ part, isSeparator c = false) ∧ isSeparator c = true := by
  have hcuts := cuts_split isSeparator cs
  generalize split isSeparator cs = parts at hcuts
  cases hcuts with
  | whole hpart => exact .inl hpart
  | cut hpart hc _ => exact .inr ⟨_, _, _, rfl, hpart, hc⟩

/-- There is one way to cut a text. -/
theorem split_eq_iff :
    split isSeparator cs = parts ↔ Cuts isSeparator cs parts := by
  constructor
  · rintro rfl
    exact cuts_split isSeparator cs
  · intro h
    induction h with
    | whole hpart => exact split_of_not_separator hpart
    | cut hpart hc _ ih => rw [split_append_cons hpart hc, ih]

theorem Cuts.ne_nil (h : Cuts isSeparator cs parts) : parts ≠ [] := by
  cases h with
  | whole _ => exact List.cons_ne_nil _ _
  | cut _ _ _ => exact List.cons_ne_nil _ _

theorem split_ne_nil (isSeparator : Char → Bool) (cs : List Char) :
    split isSeparator cs ≠ [] :=
  (cuts_split isSeparator cs).ne_nil

/-- A separator keeps the stretches before it apart from those behind it,
whichever separator it is. -/
theorem split_append_separator (before : List Char)
    (hc : isSeparator c = true) (after : List Char) :
    split isSeparator (before ++ c :: after)
      = split isSeparator before ++ split isSeparator after := by
  induction before with
  | nil => simp [split, hc]
  | cons d before ih =>
      rw [List.cons_append, split, split, ih]
      by_cases hd : isSeparator d = true
      · simp [hd]
      · cases hsplit : split isSeparator before with
        | nil => exact absurd hsplit (split_ne_nil isSeparator before)
        | cons part parts => simp [hd]

end SpellSessions.Text
