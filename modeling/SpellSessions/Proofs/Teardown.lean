/-
Teardown: a group leaves when its work does.

Every transaction keeps every group busy: live, and with a request or a
listener left (`Transaction.busy_decision`). A run makes nothing but
transactions, so its groups are busy at every moment of it; a group whose
last work a transaction takes leaves in that transaction, with the release
of its connection if the call that connects has returned.
-/
import SpellSessions.Proofs.Ledger
import SpellSessions.Proofs.Transaction.Connection

namespace SpellSessions

-- ============================================================ busy groups

/-- Step by step, groups are busy. -/
theorem Ledger.Reached.busy {b : Ledger} (hb : b.Reached) :
    b.host.groups.Busy := by
  induction hb with
  | begin => exact fun e he => absurd he List.not_mem_nil
  | step _ hstep ih =>
      obtain ⟨tx, htx⟩ := hstep.transacts
      exact htx.host.forall_entries (Transaction.busy_decision ih)

theorem Journal.Reached.busy {j : Journal} (hj : j.Reached) :
    j.host.groups.Busy :=
  hj.ledger.busy

-- ============================================================== teardown

namespace Transaction

variable {h : Host} {tx : Transaction} {id : ProviderId} {g : Group}

/-- A connection whose call has returned is released by the transaction
that takes the last work of its group, unless it was refused. -/
theorem disconnect_mem_calls (hb : h.groups.Busy)
    (hg : h.groups.find? id = some g)
    (hidle : (tx.leaves h id g).isIdle = true)
    (hreturned : g.connecting = false)
    (hnot : ∀ l, tx ≠ .forgetRefused l) :
    .disconnect id g.token ∈ (tx.decision h).calls := by
  have he := GroupTable.find?_eq_some_iff.mp hg
  have hreleased : .disconnect id g.token
      ∈ h.groups.released (tx.leaves h) := by
    refine List.mem_filterMap.mpr ⟨_, he, ?_⟩
    rw [hidle, hreturned]
    rfl
  rw [calls_decision hb]
  refine List.mem_append_right _ ?_
  cases tx with
  | established l =>
      -- a group keeps its work when its call comes back well
      have hkeeps : ∀ g : Group, g.established.isIdle = g.isIdle :=
        fun _ => rfl
      have hwork : (l.only Group.established id g).isIdle = g.isIdle :=
        only_keeps Group.isIdle hkeeps l
      have habs : g.isIdle = true := hwork.symm.trans hidle
      rw [(hb _ he).2] at habs
      cases habs
  | forgetRefused l => exact absurd rfl (hnot l)
  | _ => exact hreleased

end Transaction

/-- The group that a request is offered to takes it. -/
theorem Host.accept_not_lost {h : Host} (hb : h.groups.Busy)
    (p : Provider) (n : NumberedRequest) :
    ∃ g, (h.openGroup p).host.groups.find? p.id = some g
      ∧ (g.accept n).2 ≠ .lost := by
  have haccept : ∀ g : Group, g.retired = false → (g.accept n).2 ≠ .lost := by
    intro g hret
    unfold Group.accept
    rw [hret, if_neg Bool.false_ne_true]
    cases g.endpoint <;> exact nofun
  unfold Host.openGroup
  cases hf : h.groups.find? p.id with
  | none =>
      exact ⟨_, GroupTable.find?_insert hf, haccept _ rfl⟩
  | some g =>
      refine ⟨g, hf, haccept g ?_⟩
      exact (hb _ (GroupTable.find?_eq_some_iff.mp hf)).1

-- ============================================================== in a run

/-- In a run every live group is not retired and has a request or a
listener, after any transaction as before; a group goes in the very
transaction that takes its last work, released unless its call to connect
is still to return or was refused; and a request is never offered to a
group that is retired. -/
theorem Journal.group_leaves_with_its_work {j : Journal} (hj : j.Reached)
    (tx : Transaction) :
    (∀ h, h = j.host ∨ h = (tx.decision j.host).host →
        ∀ id g, h.groups.find? id = some g →
          g.retired = false
            ∧ (g.listeners ≠ [] ∨ g.pending ≠ [] ∨ g.ongoing ≠ []))
      ∧ (∀ id g, j.host.groups.find? id = some g →
          ((tx.decision j.host).host.groups.find? id = none
            ↔ (tx.leaves j.host id g).isIdle = true)
          ∧ ((tx.leaves j.host id g).isIdle = true →
              g.connecting = false → (∀ l, tx ≠ .forgetRefused l) →
              .disconnect id g.token ∈ (tx.decision j.host).calls))
      ∧ ∀ p n, ∃ g, (j.host.openGroup p).host.groups.find? p.id = some g
          ∧ (g.accept n).2 ≠ .lost := by
  have hb := hj.busy
  have hwork : ∀ h : Host, h.groups.Busy → ∀ id g,
      h.groups.find? id = some g →
        g.retired = false
          ∧ (g.listeners ≠ [] ∨ g.pending ≠ [] ∨ g.ongoing ≠ []) := by
    intro h hbusy id g hg
    obtain ⟨hret, hidle⟩ := hbusy _ (GroupTable.find?_eq_some_iff.mp hg)
    refine ⟨hret, ?_⟩
    rw [Bool.eq_false_iff, ne_eq, Group.isIdle_eq_true_iff] at hidle
    by_contra hnone
    simp only [not_or, not_not] at hnone
    exact hidle hnone
  refine ⟨?_, ?_, fun p n => Host.accept_not_lost hb p n⟩
  · rintro h (rfl | rfl)
    · exact hwork _ hb
    · exact hwork _ (Transaction.busy_decision hb)
  · intro id g hg
    refine ⟨?_, fun hidle => Transaction.disconnect_mem_calls hb hg hidle⟩
    rw [Transaction.find?_decision hb hg]
    split
    · next hidle => exact iff_of_true rfl hidle
    · next hidle => exact iff_of_false nofun hidle

/-- A group that still waits for its provider leaves when every group is
retired, and its connection is released. -/
theorem Journal.waiting_group_leaves :
    ∃ j, Sample.start.after? Sample.waiting = some j
      ∧ (Transaction.retireEvery.decision j.host).host.groups.find? "p" = none
      ∧ .disconnect "p" ⟨1⟩
          ∈ (Transaction.retireEvery.decision j.host).calls := by
  obtain ⟨j, hj, hlive⟩ := (Option.any_eq_true
    (fun j : Journal => j.host.groups.find? "p"
      = some (Group.first ⟨1⟩ ⟨⟨1⟩, Sample.request 1⟩).established) _).mp
    (show (Sample.start.after? Sample.waiting).any _ = true from rfl)
  have hg := of_decide_eq_true hlive
  obtain ⟨-, hleaves, -⟩ :=
    group_leaves_with_its_work (Reached.of_after hj) .retireEvery
  obtain ⟨hiff, hreleased⟩ := hleaves "p" _ hg
  exact ⟨j, hj, hiff.mpr rfl, hreleased rfl rfl fun _ => nofun⟩

end SpellSessions
