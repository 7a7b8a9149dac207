/-
Iteration: no transaction depends on the order in which the table of groups
is walked.

Two hosts that differ only in the order of their tables hold the same group
for each provider, so a transaction leaves, opens and hands out the same on
both. Only where every group is looked at does the walk show, in the order
in which the releases are owed. So the hosts after the transaction differ
again only in the order of their tables, and the calls only in their order
(`reorders_decision`).
-/
import SpellSessions.Proofs.Transaction.Connection

namespace SpellSessions

namespace Host.Reorders

variable {h h' : Host} {tx : Transaction}

theorem busy (hr : h.Reorders h') (hb : h'.groups.Busy) : h.groups.Busy :=
  fun e he => hb e (hr.entries.mem_iff.mp he)

theorem freshRequest (hr : h.Reorders h') :
    h.freshRequest = h'.freshRequest :=
  congrArg (fun n => RequestId.mk (n + 1)) hr.requests

theorem freshToken (hr : h.Reorders h') : h.freshToken = h'.freshToken :=
  congrArg (fun n => Token.mk (n + 1)) hr.tokens

-- ======================================================== the four parts

theorem leaves (hr : h.Reorders h') : tx.leaves h = tx.leaves h' := by
  cases tx with
  | submit p q =>
      unfold Transaction.leaves
      dsimp only
      rw [hr.freshRequest]
  | _ => rfl

theorem opens (hr : h.Reorders h') : tx.opens h = tx.opens h' := by
  cases tx with
  | submit p q =>
      unfold Transaction.opens
      dsimp only
      rw [hr.find?, hr.freshToken, hr.freshRequest]
  | _ => rfl

theorem hands (hr : h.Reorders h') : tx.hands h = tx.hands h' := by
  cases tx with
  | submit p q =>
      unfold Transaction.hands
      dsimp only
      rw [hr.find?, hr.freshToken, hr.freshRequest]
  | connected l endpoint =>
      unfold Transaction.hands
      dsimp only
      rw [hr.live?]
  | answered a session =>
      unfold Transaction.hands
      dsimp only
      rw [hr.live?]
  | _ => rfl

theorem kept (hr : h.Reorders h') (change : ProviderId → Group → Group) :
    (h.groups.kept change).Perm (h'.groups.kept change) :=
  hr.entries.filterMap _

theorem released (hr : h.Reorders h') (change : ProviderId → Group → Group) :
    (h.groups.released change).Perm (h'.groups.released change) :=
  hr.entries.filterMap _

theorem releases (hr : h.Reorders h') :
    (tx.releases h).Perm (tx.releases h') := by
  cases tx with
  | forgetRefused l => exact .refl _
  | established l =>
      unfold Transaction.releases
      dsimp only
      rw [hr.live?]
  | submit p q =>
      show (h.groups.released (Transaction.leaves h (.submit p q))).Perm
        (h'.groups.released _)
      rw [hr.leaves]
      exact hr.released _
  | _ => exact hr.released _

end Host.Reorders

namespace Transaction

variable {h h' : Host} {tx : Transaction}

/-- Whatever the order in which the groups are iterated, a transaction comes
to the same groups and numbers, and owes the same calls. -/
theorem reorders_decision (hb : h'.groups.Busy) (hr : h.Reorders h') :
    (tx.decision h).host.Reorders (tx.decision h').host
      ∧ (tx.decision h).calls.Perm (tx.decision h').calls := by
  have hserved : ∀ {α : Type} (part : Host → α),
      (∀ h groups tokens requests,
        part { h with
          groups := groups, tokens := tokens, requests := requests }
          = part h) →
      part h = part h' →
      part (tx.decision h).host = part (tx.decision h').host := by
    intro α part hp hsame
    rw [served_decision part hp, served_decision part hp, hsame]
  constructor
  · constructor
    · rw [entries_decision hb, entries_decision (hr.busy hb), hr.leaves,
        hr.opens]
      exact (hr.kept _).append_right _
    · exact hserved Host.registry (fun _ _ _ _ => rfl) hr.registry
    · exact hserved Host.user (fun _ _ _ _ => rfl) hr.user
    · exact hserved Host.active (fun _ _ _ _ => rfl) hr.active
    · rw [tokens_decision, tokens_decision, hr.tokens, hr.opens]
    · rw [requests_decision, requests_decision, hr.requests]
  · rw [calls_decision hb, calls_decision (hr.busy hb), hr.hands]
    exact hr.releases.append_left _

end Transaction

end SpellSessions
