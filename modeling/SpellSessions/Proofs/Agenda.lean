/-
The agenda of a run: the requests handed over so far, in the order of their
calls, and behind them those whose calls are due.

A step adds to the agenda or strikes one request off; it never turns two of
them round (`Step.agenda`). A request that is kept, be it waiting, due or
handed over, was kept before (`Leads.keeps`), and no request is on the
agenda twice. So of two requests on the agenda that are kept to the end, one
stays ahead of the other (`Leads.ahead`).
-/
import SpellSessions.Proofs.Account

namespace SpellSessions

-- ============================================================= two in a list

section Pairs

variable {α : Type} {a b : α} {xs : List α}

/-- Of two members of a list one comes first. -/
theorem sublist_pair_or (ha : a ∈ xs) (hb : b ∈ xs) (hne : a ≠ b) :
    [a, b].Sublist xs ∨ [b, a].Sublist xs := by
  obtain ⟨front, back, rfl⟩ := List.append_of_mem ha
  rcases List.mem_append.mp hb with hfront | hback
  · right
    exact (List.singleton_sublist.mpr hfront).append
      (List.singleton_sublist.mpr List.mem_cons_self)
  · left
    have hback := (List.mem_cons.mp hback).resolve_left hne.symm
    exact ((List.singleton_sublist.mpr hback).cons_cons a).trans
      (List.sublist_append_right _ _)

/-- In a list without repetition only one of two members comes first. -/
theorem not_sublist_pair_swap (hxs : xs.Nodup) (hab : [a, b].Sublist xs) :
    ¬ [b, a].Sublist xs := by
  obtain ⟨front, back, rfl, ha, hb⟩ := List.cons_sublist_iff.mp hab
  have hb := List.singleton_sublist.mp hb
  obtain ⟨-, -, hapart⟩ := List.nodup_append.mp hxs
  intro hba
  obtain ⟨left, right, hsplit, hleft, hright⟩ := List.sublist_append_iff.mp hba
  cases left with
  | nil =>
      rw [List.nil_append] at hsplit
      have ha' : a ∈ back := hright.subset (by rw [← hsplit]; simp)
      exact hapart a ha a ha' rfl
  | cons c left =>
      cases (List.cons.inj hsplit).1
      have hb' : b ∈ front := hleft.subset List.mem_cons_self
      exact hapart b hb' b hb rfl

end Pairs

-- ================================================================= agenda

/-- The request that a call hands over. -/
def Call.handed? : Call → Option RequestId
  | create _ _ _ r _ => some r
  | _ => none

def Moment.handed? : Moment → Option RequestId
  | .called c => c.handed?
  | _ => none

/-- The requests that were handed over, in the order of their calls. -/
def handedOver (past : List Moment) : List RequestId :=
  past.reverse.filterMap Moment.handed?

theorem Call.handed?_beq (c : Call) (r : RequestId) :
    (c.handed? == some r) = c.handsOver r := by
  cases c <;> rfl

theorem Call.handed?_eq_some {c : Call} {r : RequestId} :
    c.handed? = some r ↔ c.handsOver r = true := by
  rw [← Call.handed?_beq, beq_iff_eq]

theorem count_handedOver (past : List Moment) (r : RequestId) :
    (handedOver past).count r = past.countP (·.calls (·.handsOver r)) := by
  unfold handedOver
  rw [List.count_filterMap, List.countP_reverse]
  refine List.countP_congr fun m _ => ?_
  cases m with
  | called c => rw [show (Moment.called c).handed? = c.handed? from rfl,
      Call.handed?_beq]; rfl
  | _ => exact Iff.rfl

namespace Ledger

variable {b b' : Ledger} {l : Link} {r s : RequestId} {c : Call}
  {tx : Transaction}

/-- The requests that were handed over, and behind them those that are due
to be. -/
def agenda (b : Ledger) : List RequestId :=
  handedOver b.past ++ b.due.filterMap Call.handed?

theorem count_agenda (b : Ledger) (r : RequestId) :
    b.agenda.count r
      = b.made (·.handsOver r) + b.due.countP (·.handsOver r) := by
  unfold agenda made
  rw [List.count_append, count_handedOver, List.count_filterMap]
  simp only [Call.handed?_beq]

theorem mem_agenda_iff : r ∈ b.agenda
    ↔ ∃ c, c.handsOver r = true ∧ (.called c ∈ b.past ∨ c ∈ b.due) := by
  rw [← List.count_pos_iff, count_agenda, Nat.add_pos_iff_pos_or_pos,
    made_pos_iff, List.countP_pos_iff]
  constructor
  · rintro (⟨c, hover, hc⟩ | ⟨c, hc, hover⟩)
    · exact ⟨c, hover, .inl hc⟩
    · exact ⟨c, hover, .inr hc⟩
  · rintro ⟨c, hover, hc | hc⟩
    · exact .inl ⟨c, hover, hc⟩
    · exact .inr ⟨c, hc, hover⟩

theorem concerns_of_agenda (hr : r ∈ b.agenda) : ∃ l, b.Concerns l r := by
  obtain ⟨c, hover, hc⟩ := mem_agenda_iff.mp hr
  obtain ⟨l, hasks⟩ := Call.asks_of_handsOver hover
  exact ⟨l, concerns_of_asks hc hasks⟩

theorem Reached.count_agenda_eq (hb : b.Reached) (hr : b.Concerns l r) :
    b.agenda.count r
      = b.made (·.asks l r) + b.due.countP (·.asks l r) := by
  rw [count_agenda, hb.made_handsOver hr, hb.due_handsOver hr]

/-- No request is on the agenda twice. -/
theorem Reached.agenda_nodup (hb : b.Reached) : b.agenda.Nodup := by
  rw [List.nodup_iff_count]
  intro r
  by_cases hr : r ∈ b.agenda
  · obtain ⟨l, hl⟩ := concerns_of_agenda hr
    have honce := (hb.asked_once l r).1
    rw [hb.count_agenda_eq hl]
    omega
  · rw [List.count_eq_zero_of_not_mem hr]
    exact Nat.zero_le 1

/-- A step adds to the agenda, or strikes a request off. -/
theorem Step.agenda (hb : b.Reached) (hstep : b.Step b') :
    b.agenda.Sublist b'.agenda ∨ ∃ x, b'.agenda = b.agenda.erase x := by
  have hnodup := hb.agenda_nodup
  unfold Ledger.agenda handedOver at hnodup ⊢
  cases hstep with
  | enters e tx h' hopen hmatch =>
      left
      rw [List.reverse_cons, List.filterMap_append, List.filterMap_append]
      refine List.Sublist.append (List.sublist_append_left _ _) ?_
      exact List.sublist_append_right _ _
  | returns c a others mine theirs hrunning hdue =>
      left
      rw [hdue]
      simp only [List.reverse_cons, List.filterMap_append]
      refine List.Sublist.append (List.sublist_append_left _ _) ?_
      exact List.Sublist.append (List.sublist_append_left _ _) (.refl _)
  | skips c rest hdue hcreate =>
      right
      cases c with
      | create id t e x brief =>
          refine ⟨x, ?_⟩
          rw [hdue] at hnodup ⊢
          have hx : x ∉ b.past.reverse.filterMap Moment.handed? := by
            intro hx
            refine (List.nodup_append.mp hnodup).2.2 x hx x ?_ rfl
            exact List.mem_cons_self
          rw [List.erase_append_right _ hx]
          exact congrArg _ (List.erase_cons_head x _).symm
      | _ => cases hcreate
  | begins c rest hdue =>
      left
      rw [hdue]
      simp only [List.reverse_cons, List.filterMap_append, List.append_assoc]
      cases c <;> exact .refl _
  | replies reply =>
      left
      rw [List.reverse_cons, List.filterMap_append]
      exact List.Sublist.append (List.sublist_append_left _ _) (.refl _)
  | reorders h' hmatch => exact .inl (.refl _)

-- ========================================================= what is kept

/-- A request is kept on a link: it waits, or its call is due or was
made. -/
def Keeps (b : Ledger) (l : Link) (r : RequestId) : Prop :=
  0 < b.host.groups.waiting l r + b.due.countP (·.asks l r)
    + b.made (·.asks l r)

theorem Keeps.concerns (h : b.Keeps l r) : b.Concerns l r := by
  have hle := b.host.groups.waiting_le_held l r
  unfold Keeps at h
  unfold Concerns
  omega

theorem Leads.requests_le (h : b.Leads b') :
    b.host.requests ≤ b'.host.requests := by
  induction h with
  | here => exact Nat.le_refl _
  | step _ hstep ih =>
      obtain ⟨tx, htx⟩ := hstep.transacts
      have := htx.host.requests.trans tx.requests_decision
      omega

/-- An old request that is not kept never is again, and one that waits has
waited before. -/
theorem Transacts.keeps (htx : b.Transacts tx b') (hb : b.Reached)
    (hle : r.number ≤ b.host.requests) :
    b'.host.groups.waiting l r ≤ b.host.groups.waiting l r
      ∧ (b'.Keeps l r → b.Keeps l r) := by
  have hcounted := htx.counted (·.asks l r)
  have hwaiting := tx.waiting_decision (l := l) (r := r) hb.busy
  have hold : r ≠ b.host.freshRequest := by
    rintro rfl
    exact Nat.not_succ_le_self _ hle
  rw [if_neg hold] at hwaiting
  unfold Keeps
  rw [GroupTable.waiting_of_perm htx.host.entries]
  omega

theorem Leads.keeps (hb : b.Reached) (h : b.Leads b')
    (hle : r.number ≤ b.host.requests) (hkept : b'.Keeps l r) :
    b.Keeps l r := by
  induction h with
  | here => exact hkept
  | step h hstep ih =>
      obtain ⟨tx, htx⟩ := hstep.transacts
      have hle₁ := Nat.le_trans hle h.requests_le
      exact ih ((htx.keeps (hb.leads h) hle₁).2 hkept)

theorem Reached.not_waiting (hb : b.Reached) (hkept : b.Keeps l r)
    (hr : r ∈ b.agenda) : b.host.groups.waiting l r = 0 := by
  have hcount := List.count_pos_iff.mpr hr
  rw [hb.count_agenda_eq hkept.concerns] at hcount
  have honce := (hb.asked_once l r).1
  omega

theorem Reached.mem_agenda (hb : b.Reached) (hkept : b.Keeps l r)
    (hnot : b.host.groups.waiting l r = 0) : r ∈ b.agenda := by
  rw [← List.count_pos_iff, hb.count_agenda_eq hkept.concerns]
  unfold Keeps at hkept
  omega

/-- Two requests of the agenda stay in their order for as long as both are
kept. -/
theorem Leads.ahead (hb : b.Reached) (h : b.Leads b')
    (hahead : [r, s].Sublist b.agenda) {l l' : Link} (hr : b'.Keeps l r)
    (hs : b'.Keeps l' s) : [r, s].Sublist b'.agenda := by
  have hnumber : ∀ q ∈ b.agenda, q.number ≤ b.host.requests := fun q hq =>
    hb.number_le (concerns_of_agenda hq).choose_spec
  have hrle := hnumber r (hahead.subset List.mem_cons_self)
  have hsle := hnumber s
    (hahead.subset (List.mem_cons_of_mem _ List.mem_cons_self))
  induction h with
  | here => exact hahead
  | @step b₁ b₂ h hstep ih =>
      have hb₁ := hb.leads h
      obtain ⟨tx, htx⟩ := hstep.transacts
      -- both are on the agenda before the step, and after it
      have hstays : ∀ {q : RequestId} {l : Link}, q.number ≤ b.host.requests →
          b₂.Keeps l q →
            b₁.Keeps l q ∧ (q ∈ b₁.agenda → q ∈ b₂.agenda) := by
        intro q l hle hkept
        obtain ⟨hwaits, hback⟩ :=
          htx.keeps (l := l) hb₁ (Nat.le_trans hle h.requests_le)
        refine ⟨hback hkept, fun hq => (hb₁.step hstep).mem_agenda hkept ?_⟩
        have := hb₁.not_waiting (hback hkept) hq
        omega
      have hahead₁ := ih (hstays hrle hr).1 (hstays hsle hs).1
      rcases hstep.agenda hb₁ with hgrows | ⟨x, herase⟩
      · exact hahead₁.trans hgrows
      · have hr₂ := (hstays hrle hr).2 (hahead₁.subset List.mem_cons_self)
        have hs₂ := (hstays hsle hs).2
          (hahead₁.subset (List.mem_cons_of_mem _ List.mem_cons_self))
        have hnodup := hb₁.agenda_nodup
        rw [herase] at hr₂ hs₂ ⊢
        have hrx := (hnodup.mem_erase_iff.mp hr₂).1
        have hsx := (hnodup.mem_erase_iff.mp hs₂).1
        have hpair : [r, s].erase x = [r, s] :=
          List.erase_of_not_mem (by simp [hrx.symm, hsx.symm])
        rw [← hpair]
        exact hahead₁.erase x

end Ledger

end SpellSessions
