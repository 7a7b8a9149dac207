/-
The account of a request: it is handed over once and its owner is told once,
at most.

A request belongs to one link, the one that it joined when it was submitted
(`link_of_request`). There it waits, or the call that hands it over is due,
or that call was made: one of the three at most (`asked_once`). And the
group holds it, or the call that tells its owner is due, or that call was
made: again one of the three at most (`told_once`). An answer comes through
a handle, which the call that hands the request over gives out, so the owner
is told afterwards (`told_after_handed_over`).
-/
import SpellSessions.Proofs.HandOver
import SpellSessions.Proofs.Transaction.Arrival

namespace SpellSessions

-- ===================================================== whatever the link

namespace Call

/-- Whether a call hands the request over, on whatever link. -/
def handsOver (r : RequestId) : Call → Bool
  | create _ _ _ r' _ => r' = r
  | _ => false

/-- Whether a call tells the owner of the request, on whatever link. -/
def tells (r : RequestId) : Call → Bool
  | notify _ _ r' _ _ _ => r' = r
  | _ => false

variable {c : Call} {l : Link} {r : RequestId}

theorem handsOver_of_asks (h : c.asks l r = true) : c.handsOver r = true := by
  cases c with
  | create id t e r' b => exact (Bool.and_eq_true_iff.mp h).2
  | _ => cases h

theorem asks_of_handsOver (h : c.handsOver r = true) :
    ∃ l, c.asks l r = true := by
  cases c with
  | create id t e r' b =>
      refine ⟨⟨id, t⟩, ?_⟩
      unfold asks
      simpa using of_decide_eq_true h
  | _ => cases h

theorem tellsOn_of_tells (h : c.tells r = true) :
    ∃ l, c.tellsOn l r = true := by
  cases c with
  | notify id t r' o k s =>
      refine ⟨⟨id, t⟩, ?_⟩
      unfold tellsOn
      simpa using of_decide_eq_true h
  | _ => cases h

end Call

namespace Transaction

variable {h : Host} {tx : Transaction} {l : Link} {c : Call}
  {r : RequestId}

theorem asks_of_joins (hjoins : tx.joins h = some l) : tx.asks = 1 := by
  cases tx with
  | submit p q => rfl
  | _ => cases hjoins

/-- What is handed over on a link was held there, or joins it. -/
theorem held_of_asks (hb : h.groups.Busy) (hc : c ∈ (tx.decision h).calls)
    (hasks : c.asks l r = true) :
    0 < h.groups.held l r ∨ tx.joins h = some l ∧ r = h.freshRequest := by
  have hcreates := Call.creates_of_asks hasks
  obtain ⟨g, hl, hcases⟩ :=
    creates_of_mem_hands (mem_hands_of_creates hb hc hcreates) hcreates
  rcases hcases with
    ⟨p, q, endpoint, rfl, hid, -, rfl⟩ | ⟨endpoint, rfl, n, hn, rfl⟩
  · rw [Call.asks_handOver] at hasks
    exact .inr ⟨joins_of_live hl hid, (of_decide_eq_true hasks).symm⟩
  · rw [Call.asks_handOver] at hasks
    left
    unfold GroupTable.held
    rw [hl]
    exact Group.held_pos_iff.mpr
      ⟨n, List.mem_append_right _ hn, of_decide_eq_true hasks⟩

end Transaction

namespace Ledger

variable {b b' : Ledger} {l l' : Link} {r : RequestId} {c : Call}

theorem Reached.arrived (hb : b.Reached) : b.host.Arrived := by
  induction hb with
  | begin => exact fun e he => absurd he List.not_mem_nil
  | step hb hstep ih =>
      obtain ⟨tx, htx⟩ := hstep.transacts
      unfold Host.Arrived
      rw [htx.host.requests]
      exact htx.host.forall_entries (Transaction.arrived_decision hb.busy ih)

-- ============================================================= told once

/-- A request is held, or its owner is to be told, or was told: one of these
at most, and none before the request was submitted. -/
theorem Reached.told_once (hb : b.Reached) (l : Link) (r : RequestId) :
    b.host.groups.held l r + b.due.countP (·.tellsOn l r)
        + b.made (·.tellsOn l r) ≤ 1
      ∧ (b.host.requests < r.number →
          b.host.groups.held l r + b.due.countP (·.tellsOn l r)
            + b.made (·.tellsOn l r) = 0) := by
  induction hb with
  | begin => exact ⟨Nat.zero_le _, fun _ => rfl⟩
  | @step b _ hb hstep ih =>
      obtain ⟨tx, htx⟩ := hstep.transacts
      have hcounted := htx.counted (·.tellsOn l r)
      have hheld := tx.held_decision (l := l) (r := r) hb.busy
      have hrequests := htx.host.requests.trans tx.requests_decision
      rw [GroupTable.held_of_perm htx.host.entries]
      split at hheld
      · next hnew =>
          obtain ⟨hjoins, hfresh⟩ := hnew
          have hnumber : r.number = b.host.requests + 1 :=
            congrArg RequestId.number hfresh
          have hasks := Transaction.asks_of_joins hjoins
          omega
      · omega

-- =========================================================== its one link

/-- A request belongs to a link: it is held there, or the call that hands it
over is due or was made. -/
def Concerns (b : Ledger) (l : Link) (r : RequestId) : Prop :=
  0 < b.host.groups.held l r + b.due.countP (·.asks l r)
    + b.made (·.asks l r)

theorem Reached.number_le (hb : b.Reached) (hr : b.Concerns l r) :
    r.number ≤ b.host.requests := by
  by_contra hbeyond
  have hasked := (hb.asked_once l r).2 (Nat.lt_of_not_le hbeyond)
  have htold := (hb.told_once l r).2 (Nat.lt_of_not_le hbeyond)
  unfold Concerns at hr
  omega

/-- After a step a request belongs to the links it belonged to before, or it
is new and belongs to the link that it joins. -/
theorem Transacts.concerns {tx : Transaction} (htx : b.Transacts tx b')
    (hb : b.Reached) (hr : b'.Concerns l r) :
    b.Concerns l r
      ∨ tx.joins b.host = some l ∧ r = b.host.freshRequest := by
  by_cases hnew : tx.joins b.host = some l ∧ r = b.host.freshRequest
  · exact .inr hnew
  left
  have hcounted := htx.counted (·.asks l r)
  have hheld := tx.held_decision (l := l) (r := r) hb.busy
  rw [if_neg hnew] at hheld
  unfold Concerns at hr ⊢
  rw [GroupTable.held_of_perm htx.host.entries] at hr
  by_cases hcalls : 0 < (tx.decision b.host).calls.countP (·.asks l r)
  · obtain ⟨c, hc, hasks⟩ := List.countP_pos_iff.mp hcalls
    have := (Transaction.held_of_asks hb.busy hc hasks).resolve_right hnew
    omega
  · omega

/-- A request belongs to one link. -/
theorem Reached.link_of_request (hb : b.Reached) (hr : b.Concerns l r)
    (hr' : b.Concerns l' r) : l = l' := by
  induction hb with
  | begin => exact absurd hr (Nat.lt_irrefl 0)
  | @step b _ hb hstep ih =>
      obtain ⟨tx, htx⟩ := hstep.transacts
      -- one that was there before is not the new one
      have hold : ∀ l, b.Concerns l r → r ≠ b.host.freshRequest := by
        rintro l hc rfl
        exact Nat.not_succ_le_self _ (hb.number_le hc)
      rcases htx.concerns hb hr with hr | ⟨hjoins, hfresh⟩
      · rcases htx.concerns hb hr' with hr' | ⟨-, hfresh⟩
        · exact ih hr hr'
        · exact absurd hfresh (hold l hr)
      · rcases htx.concerns hb hr' with hr' | ⟨hjoins', -⟩
        · exact absurd hfresh (hold l' hr')
        · exact Option.some.inj (hjoins.symm.trans hjoins')

theorem concerns_of_asks (hc : .called c ∈ b.past ∨ c ∈ b.due)
    (hasks : c.asks l r = true) : b.Concerns l r := by
  unfold Concerns
  rcases hc with hcalled | hdue
  · have : 0 < b.made (·.asks l r) := made_pos_iff.mpr ⟨c, hasks, hcalled⟩
    omega
  · have : 0 < b.due.countP (·.asks l r) :=
      List.countP_pos_iff.mpr ⟨c, hdue, hasks⟩
    omega

/-- A call that hands a request over is one on the link of the request. -/
theorem Reached.handsOver_iff (hb : b.Reached) (hr : b.Concerns l r)
    (hc : .called c ∈ b.past ∨ c ∈ b.due) :
    c.handsOver r = true ↔ c.asks l r = true := by
  constructor
  · intro hover
    obtain ⟨l', hasks⟩ := Call.asks_of_handsOver hover
    cases hb.link_of_request hr (concerns_of_asks hc hasks)
    exact hasks
  · exact Call.handsOver_of_asks

theorem Reached.made_handsOver (hb : b.Reached) (hr : b.Concerns l r) :
    b.made (·.handsOver r) = b.made (·.asks l r) := by
  refine List.countP_congr fun m hm => ?_
  cases m with
  | called c => exact hb.handsOver_iff hr (.inl hm)
  | _ => exact Iff.rfl

theorem Reached.due_handsOver (hb : b.Reached) (hr : b.Concerns l r) :
    b.due.countP (·.handsOver r) = b.due.countP (·.asks l r) :=
  List.countP_congr fun _ hc => hb.handsOver_iff hr (.inr hc)

/-- A request is handed over once, at most. -/
theorem Reached.handed_over_once (hb : b.Reached) (r : RequestId) :
    b.made (·.handsOver r) ≤ 1 := by
  by_cases hnone : b.made (·.handsOver r) = 0
  · omega
  · obtain ⟨c, hover, hc⟩ := made_pos_iff.mp (Nat.pos_of_ne_zero hnone)
    obtain ⟨l, hasks⟩ := Call.asks_of_handsOver hover
    have hlink := hb.made_handsOver (concerns_of_asks (.inl hc) hasks)
    have honce := (hb.asked_once l r).1
    omega

-- ========================================================= told afterwards

/-- An owner is to be told of a request once its handle was handed out. -/
theorem Reached.handed_out_of_due (hb : b.Reached) (hc : c ∈ b.due)
    (htells : c.tellsOn l r = true) :
    b.past.any (·.handsOutReply ⟨l.provider, l.token, r⟩) = true := by
  induction hb with
  | begin => cases hc
  | @step b b' hb hstep ih =>
      obtain ⟨tx, htx⟩ := hstep.transacts
      have hbefore : b.past.any
          (·.handsOutReply ⟨l.provider, l.token, r⟩) = true := by
        rcases htx.due c hc with hcalls | hdue
        · by_contra hnot
          have hnone := tx.countP_tellsOn_eq_zero (l := l) (r := r)
            hb.busy fun s heq => hnot (htx.held _ s heq)
          exact List.countP_eq_zero.mp hnone c hcalls htells
        · exact ih hdue
      obtain ⟨m, hm, hhands⟩ := List.any_eq_true.mp hbefore
      exact List.any_eq_true.mpr ⟨m, hstep.past_suffix.subset hm, hhands⟩

/-- When the call that tells an owner begins, the request was handed over on
the same link. -/
theorem Reached.told_after_handed_over (hb : b.Reached)
    {later earlier : List Moment}
    (hpast : b.past = later ++ .called c :: earlier)
    (htells : c.tellsOn l r = true) :
    ∃ d, d.asks l r = true ∧ .called d ∈ earlier := by
  obtain ⟨b₀, hb₀, rfl, hdue⟩ := hb.called_was_due hpast
  exact made_pos_iff.mp (made_of_handed_out (hb₀.handed_out_of_due hdue htells))

theorem Reached.concerns_of_told (hb : b.Reached) (hc : .called c ∈ b.past)
    (htells : c.tellsOn l r = true) : b.Concerns l r := by
  obtain ⟨earlier, later, hpast⟩ := List.append_of_mem hc
  obtain ⟨d, hasks, hd⟩ := hb.told_after_handed_over hpast htells
  refine concerns_of_asks (.inl ?_) hasks
  rw [hpast]
  exact List.mem_append_right _ (List.mem_cons_of_mem _ hd)

/-- The calls that tell an owner of a request are made on its link. -/
theorem Reached.tells_le (hb : b.Reached) (hr : b.Concerns l r) :
    b.made (·.tells r) ≤ b.made (·.tellsOn l r) := by
  refine List.countP_mono_left fun m hm hcalls => ?_
  cases m with
  | called c =>
      obtain ⟨l', htells⟩ := Call.tellsOn_of_tells hcalls
      cases hb.link_of_request hr (hb.concerns_of_told hm htells)
      exact htells
  | _ => cases hcalls

/-- An owner is told of a request once, at most. -/
theorem Reached.owner_told_once (hb : b.Reached) (r : RequestId) :
    b.made (·.tells r) ≤ 1 := by
  by_cases hnone : b.made (·.tells r) = 0
  · omega
  · obtain ⟨c, htold, hc⟩ := made_pos_iff.mp (Nat.pos_of_ne_zero hnone)
    obtain ⟨l, htells⟩ := Call.tellsOn_of_tells htold
    have hle := hb.tells_le (hb.concerns_of_told hc htells)
    have honce := (hb.told_once l r).1
    omega

end Ledger

end SpellSessions
