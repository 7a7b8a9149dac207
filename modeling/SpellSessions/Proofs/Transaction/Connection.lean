/-
What one transaction does to one connection.

A group that is live stays under its token with what the transaction
leaves, unless that is no work; a connection that was not live is live
afterwards only if the transaction opened it, under a token that was
never given out before. Every group is live and has work again
(`busy_decision`), which is what all this rests on.
-/
import SpellSessions.Proofs.Transaction.Effect

namespace SpellSessions.Transaction

variable {h : Host} {tx : Transaction} {id : ProviderId} {t : Token}
  {g g' : Group}

-- ========================================================== the entries

/-- Only a request for a provider without group opens one. -/
theorem mem_opens (hg : (id, g) ∈ tx.opens h) :
    h.groups.find? id = none
      ∧ ∃ r, g = .first h.freshToken ⟨h.freshRequest, r⟩ := by
  cases tx with
  | submit p r =>
      unfold opens at hg
      dsimp only at hg
      split at hg
      · next hf =>
          cases List.mem_singleton.mp hg
          exact ⟨hf, r, rfl⟩
      · cases hg
  | _ => cases hg

theorem length_opens_le (tx : Transaction) (h : Host) :
    (tx.opens h).length ≤ 1 := by
  cases tx with
  | submit p r =>
      unfold opens
      dsimp only
      cases h.groups.find? p.id with
      | none => exact Nat.le_refl 1
      | some g => exact Nat.zero_le 1
  | _ => exact Nat.zero_le 1

/-- An entry after a transaction was left with work, or opened. -/
theorem mem_decision (hb : h.groups.Busy) :
    (id, g') ∈ (tx.decision h).host.groups.entries
      ↔ (∃ g, (id, g) ∈ h.groups.entries
            ∧ (tx.leaves h id g).isIdle = false ∧ tx.leaves h id g = g')
          ∨ (id, g') ∈ tx.opens h := by
  rw [entries_decision hb, List.mem_append]
  refine or_congr_left ?_
  unfold GroupTable.kept
  rw [List.mem_filterMap]
  constructor
  · rintro ⟨⟨k, g⟩, he, hsome⟩
    dsimp only at hsome
    split at hsome
    · cases hsome
    · next hwork =>
        cases hsome
        exact ⟨g, he, Bool.eq_false_iff.mpr hwork, rfl⟩
  · rintro ⟨g, he, hwork, rfl⟩
    exact ⟨(id, g), he, by rw [hwork]; rfl⟩

theorem isIdle_first (n : NumberedRequest) : (Group.first t n).isIdle = false :=
  rfl

/-- After a transaction every group is live and has work. -/
theorem busy_decision (hb : h.groups.Busy) :
    (tx.decision h).host.groups.Busy := by
  rintro ⟨id, g'⟩ he
  rcases (mem_decision hb).mp he with ⟨g, hg, hwork, rfl⟩ | hopened
  · exact ⟨leaves_retired.trans (hb _ hg).1, hwork⟩
  · obtain ⟨-, r, rfl⟩ := mem_opens hopened
    exact ⟨rfl, isIdle_first _⟩

-- ============================================================= look-ups

/-- A group stays with what is left to it, or goes for want of work. -/
theorem find?_decision (hb : h.groups.Busy)
    (hg : h.groups.find? id = some g) :
    (tx.decision h).host.groups.find? id
      = if (tx.leaves h id g).isIdle then none
        else some (tx.leaves h id g) := by
  have he := GroupTable.find?_eq_some_iff.mp hg
  split
  · next hidle =>
      rw [GroupTable.find?_eq_none_iff]
      intro g' hg'
      rcases (mem_decision hb).mp hg' with ⟨g₀, hg₀, hwork, rfl⟩ | hopened
      · cases GroupTable.group_unique he hg₀
        rw [hidle] at hwork
        cases hwork
      · rw [(mem_opens hopened).1] at hg
        cases hg
  · next hwork =>
      rw [GroupTable.find?_eq_some_iff, mem_decision hb]
      exact .inl ⟨g, he, Bool.eq_false_iff.mpr hwork, rfl⟩

/-- A live connection stays live with what is left to it, or goes for want
of work. -/
theorem live?_decision (hb : h.groups.Busy)
    (hl : h.groups.live? id t = some g) :
    (tx.decision h).host.groups.live? id t
      = if (tx.leaves h id g).isIdle then none
        else some (tx.leaves h id g) := by
  obtain ⟨he, htoken⟩ := GroupTable.live?_eq_some_iff.mp hl
  unfold GroupTable.live?
  rw [find?_decision hb (GroupTable.find?_eq_some_iff.mpr he)]
  split
  · rfl
  · rw [Option.filter_some, leaves_token, htoken]
    simp

/-- A connection that becomes live was opened, under a fresh token. -/
theorem live?_opened (hb : h.groups.Busy)
    (hl : h.groups.live? id t = none)
    (hl' : (tx.decision h).host.groups.live? id t = some g') :
    (id, g') ∈ tx.opens h ∧ t = h.freshToken := by
  obtain ⟨he, htoken⟩ := GroupTable.live?_eq_some_iff.mp hl'
  rcases (mem_decision hb).mp he with ⟨g, hg, -, rfl⟩ | hopened
  · rw [leaves_token] at htoken
    exact absurd htoken (GroupTable.live?_eq_none_iff.mp hl g hg)
  · obtain ⟨-, r, rfl⟩ := mem_opens hopened
    exact ⟨hopened, htoken.symm⟩

/-- A connection that is left without work is not live any more, where
nothing is opened. -/
theorem live?_of_idle (hb : h.groups.Busy) (hopens : tx.opens h = [])
    (hidle : ∀ g, h.groups.live? id t = some g →
      (tx.leaves h id g).isIdle = true) :
    (tx.decision h).host.groups.live? id t = none := by
  cases hl : h.groups.live? id t with
  | none =>
      cases hl' : (tx.decision h).host.groups.live? id t with
      | none => rfl
      | some g' =>
          have hopened := (live?_opened hb hl hl').1
          rw [hopens] at hopened
          cases hopened
  | some g => rw [live?_decision hb hl, hidle g hl, if_pos rfl]

end SpellSessions.Transaction
