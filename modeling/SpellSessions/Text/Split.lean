/-
A text cut at its separators.

Cutting yields the stretches between separators, in order, one more than
there are separators; stretches may be empty.
-/
namespace SpellSessions.Text

/-- The stretches of a text between separators. -/
def split (isSeparator : Char → Bool) : List Char → List (List Char)
  | [] => [[]]
  | c :: cs =>
    if isSeparator c then [] :: split isSeparator cs
    else
      match split isSeparator cs with
      | [] => [[c]]
      | part :: parts => (c :: part) :: parts

variable {isSeparator : Char → Bool} {part : List Char}

/-- No stretch holds a separator. -/
theorem not_separator_of_mem_split {cs : List Char}
    (h : part ∈ split isSeparator cs) :
    ∀ c ∈ part, isSeparator c = false := by
  induction cs generalizing part with
  | nil =>
      cases List.mem_singleton.mp h
      exact fun _ hc => absurd hc List.not_mem_nil
  | cons c cs ih =>
      unfold split at h
      split at h
      · rcases List.mem_cons.mp h with rfl | hrest
        · exact fun _ hc => absurd hc List.not_mem_nil
        · exact ih hrest
      · next hc =>
          have hplain : isSeparator c = false := by simpa using hc
          split at h
          · cases List.mem_singleton.mp h
            simpa using hplain
          · next first rest hsplit =>
              rcases List.mem_cons.mp h with rfl | hrest
              · have hfirst := ih (hsplit ▸ List.mem_cons_self)
                simpa [hplain] using hfirst
              · exact ih (hsplit ▸ List.mem_cons_of_mem _ hrest)

/-- A text without separators is its only stretch. -/
theorem split_of_not_separator (h : ∀ c ∈ part, isSeparator c = false) :
    split isSeparator part = [part] := by
  induction part with
  | nil => rfl
  | cons c part ih =>
      rw [List.forall_mem_cons] at h
      rw [split, ih h.2]
      simp [h.1]

/-- What stands before the first separator is the first stretch. -/
theorem split_append_cons (h : ∀ c ∈ part, isSeparator c = false) {c : Char}
    (hc : isSeparator c = true) (cs : List Char) :
    split isSeparator (part ++ c :: cs) = part :: split isSeparator cs := by
  induction part with
  | nil => simp [split, hc]
  | cons d part ih =>
      rw [List.forall_mem_cons] at h
      rw [List.cons_append, split, ih h.2]
      simp [h.1]

end SpellSessions.Text
