/-
Hand-over: each request is asked for once, and is ongoing until then.

A request waits, or the call that asks for its session is due, or that
call was made: one of the three at most, and none before the request was
submitted (`asked_once`). An answer comes through a handle that the call
handed out, so a request whose call is due cannot have been answered; it
is ongoing for as long as its link is live (`due_ongoing`). A link that is
not live never is again, since every group is opened under a fresh token
(`gone_decision`).

Tokens and request ids are given out to what enters, one of each at most.
So counters of 64 bits serve a run of fewer than 2 ^ 64 entries
(`numbers_lt`).
-/
import SpellSessions.Proofs.Teardown
import SpellSessions.Proofs.Transaction.Requests

namespace SpellSessions

-- ============================================================== numbers

/-- Whether something entered at the moment. -/
def Moment.isEntry : Moment → Bool
  | .entered _ => true
  | _ => false

/-- The return of a call gives out no number. -/
theorem Call.transaction_gives_none (c : Call) (a : Answer) (h : Host) :
    (c.transaction a).opens h = [] ∧ (c.transaction a).asks = 0 := by
  cases c <;> cases a <;> exact ⟨rfl, rfl⟩

/-- Every number that was given out was given out to an entry of its own. -/
theorem Ledger.Reached.numbers_le {b : Ledger} (hb : b.Reached) :
    b.host.tokens ≤ b.past.countP (·.isEntry)
      ∧ b.host.requests ≤ b.past.countP (·.isEntry) := by
  induction hb with
  | begin => exact ⟨Nat.le_refl 0, Nat.le_refl 0⟩
  | @step b _ hb hstep ih =>
      cases hstep with
      | enters e tx h' hopen hmatch =>
          have htokens := hmatch.tokens.trans tx.tokens_decision
          have hrequests := hmatch.requests.trans tx.requests_decision
          have hopens := tx.length_opens_le b.host
          have hasks := tx.asks_le_one
          rw [List.countP_cons, if_pos (by rfl : Moment.isEntry (.entered e))]
          dsimp only
          omega
      | returns c a others mine theirs hrunning hdue =>
          obtain ⟨hopens, hasks⟩ := c.transaction_gives_none a b.host
          dsimp only
          rw [Transaction.tokens_decision, Transaction.requests_decision,
            hopens, hasks]
          exact ih
      | skips c rest hdue hcreate => exact ih
      | begins c rest hdue => exact ih
      | replies r => exact ih
      | reorders h' hmatch =>
          dsimp only
          rw [hmatch.tokens, hmatch.requests]
          exact ih

/-- A run with fewer than 2 ^ 64 entries gives out no number that 64 bits do
not hold. -/
theorem Journal.Reached.numbers_lt {j : Journal} (hj : j.Reached)
    (hentries : j.past.countP (·.isEntry) < UInt64.size) :
    j.host.tokens < UInt64.size ∧ j.host.requests < UInt64.size := by
  obtain ⟨htokens, hrequests⟩ := hj.ledger.numbers_le
  exact ⟨Nat.lt_of_le_of_lt htokens hentries,
    Nat.lt_of_le_of_lt hrequests hentries⟩

-- =============================================================== tokens

/-- No token of a live group is above the number that was given out. -/
def Host.Numbered (h : Host) : Prop :=
  ∀ e ∈ h.groups.entries, e.2.token.number ≤ h.tokens

namespace Transaction

variable {h : Host} {tx : Transaction} {l : Link} {g : Group}

theorem tokens_le_decision : h.tokens ≤ (tx.decision h).host.tokens := by
  rw [tokens_decision]
  exact Nat.le_add_right _ _

/-- A group is opened under a token that counts as given out. -/
theorem numbered_decision (hb : h.groups.Busy) (hn : h.Numbered) :
    (tx.decision h).host.Numbered := by
  rintro ⟨id, g'⟩ he
  rcases (mem_decision hb).mp he with ⟨g, hg, -, rfl⟩ | hopened
  · dsimp only
    rw [leaves_token]
    exact Nat.le_trans (hn _ hg) tokens_le_decision
  · obtain ⟨-, r, rfl⟩ := mem_opens hopened
    rw [tokens_decision]
    exact Nat.add_le_add_left (List.length_pos_of_mem hopened) _

/-- A session is asked for on a link whose token was given out. -/
theorem token_le_of_creates (hb : h.groups.Busy) (hn : h.Numbered)
    {c : Call} (hc : c ∈ (tx.decision h).calls)
    (hcreates : c.creates l = true) : l.token.number ≤ h.tokens := by
  have hhands := mem_hands_of_creates hb hc hcreates
  obtain ⟨g, hl, -⟩ := creates_of_mem_hands hhands hcreates
  obtain ⟨he, htoken⟩ := GroupTable.live?_eq_some_iff.mp hl
  rw [← htoken]
  exact hn _ he

/-- A link whose token was given out and that is not live is not live after
a transaction. -/
theorem gone_decision (hb : h.groups.Busy) (ht : l.token.number ≤ h.tokens)
    (hl : h.groups.live? l.provider l.token = none) :
    (tx.decision h).host.groups.live? l.provider l.token = none := by
  cases hl' : (tx.decision h).host.groups.live? l.provider l.token with
  | none => rfl
  | some g' =>
      have hfresh := congrArg Token.number (live?_opened hb hl hl').2
      rw [hfresh] at ht
      exact absurd ht (Nat.not_succ_le_self _)

end Transaction

namespace Ledger

variable {b b' : Ledger} {l : Link} {r : RequestId} {c : Call}

theorem Reached.numbered (hb : b.Reached) : b.host.Numbered := by
  induction hb with
  | begin => exact fun e he => absurd he List.not_mem_nil
  | step hb hstep ih =>
      obtain ⟨tx, htx⟩ := hstep.transacts
      unfold Host.Numbered
      rw [htx.host.tokens]
      exact htx.host.forall_entries
        (Transaction.numbered_decision hb.busy ih)

theorem Reached.token_le (hb : b.Reached) (hc : c ∈ b.due)
    (hcreates : c.creates l = true) : l.token.number ≤ b.host.tokens := by
  induction hb with
  | begin => cases hc
  | step hb hstep ih =>
      obtain ⟨tx, htx⟩ := hstep.transacts
      rw [htx.host.tokens]
      refine Nat.le_trans ?_ Transaction.tokens_le_decision
      rcases htx.due c hc with hc | hc
      · exact Transaction.token_le_of_creates hb.busy hb.numbered hc hcreates
      · exact ih hc

-- ============================================================= asked once

/-- A request waits, or its call is due, or its call was made: one of these
at most, and none before the request was submitted. -/
theorem Reached.asked_once (hb : b.Reached) (l : Link) (r : RequestId) :
    b.host.groups.waiting l r + b.due.countP (·.asks l r)
        + b.made (·.asks l r) ≤ 1
      ∧ (b.host.requests < r.number →
          b.host.groups.waiting l r + b.due.countP (·.asks l r)
            + b.made (·.asks l r) = 0) := by
  induction hb with
  | begin => exact ⟨Nat.zero_le _, fun _ => rfl⟩
  | @step b _ hb hstep ih =>
      obtain ⟨tx, htx⟩ := hstep.transacts
      have hcounted := htx.counted (·.asks l r)
      have hwaiting := tx.waiting_decision (l := l) (r := r) hb.busy
      have hrequests := htx.host.requests.trans tx.requests_decision
      rw [GroupTable.waiting_of_perm htx.host.entries]
      split at hwaiting
      · next hfresh =>
          have hnumber : r.number = b.host.requests + 1 :=
            congrArg RequestId.number hfresh
          have hasks := tx.asks_le_one
          omega
      · omega

/-- A handle was handed out by the call that asks for its session. -/
theorem made_of_handed_out
    (h : b.past.any (·.handsOutReply ⟨l.provider, l.token, r⟩) = true) :
    0 < b.made (·.asks l r) := by
  obtain ⟨m, hm, hhands⟩ := List.any_eq_true.mp h
  refine List.countP_pos_iff.mpr ⟨m, hm, ?_⟩
  cases m with
  | called c =>
      cases c with
      | create id t e r' b => exact hhands
      | _ => cases hhands
  | _ => cases hhands

/-- A request whose call is due was not handed out. -/
theorem Reached.not_handed_out (hb : b.Reached) (hc : c ∈ b.due)
    (hasks : c.asks l r = true) :
    b.past.any (·.handsOutReply ⟨l.provider, l.token, r⟩) = false := by
  have hdue : 0 < b.due.countP (·.asks l r) :=
    List.countP_pos_iff.mpr ⟨c, hc, hasks⟩
  have honce := (hb.asked_once l r).1
  by_contra hout
  have hmade := made_of_handed_out (Bool.not_eq_false _ ▸ hout)
  omega

/-- A request whose call is due is ongoing for as long as its link is
live. -/
theorem Reached.due_ongoing (hb : b.Reached) (hc : c ∈ b.due)
    (hasks : c.asks l r = true) {g : Group}
    (hl : b.host.groups.live? l.provider l.token = some g) :
    g.hasOngoing r := by
  induction hb generalizing g with
  | begin => cases hc
  | step hb hstep ih =>
      obtain ⟨tx, htx⟩ := hstep.transacts
      rw [htx.host.live?] at hl
      rcases htx.due c hc with hcalls | hdue
      · obtain ⟨g', hl', hongoing⟩ :=
          Transaction.ongoing_of_asks hb.busy hcalls hasks
        cases hl.symm.trans hl'
        exact hongoing
      · have hcreates := Call.creates_of_asks hasks
        cases hbefore : GroupTable.live? _ l.provider l.token with
        | none =>
            have hgone := tx.gone_decision hb.busy
              (hb.token_le hdue hcreates) hbefore
            cases hl.symm.trans hgone
        | some g₀ =>
            refine Transaction.ongoing_decision hb.busy hbefore hl
              (ih hdue hbefore) fun session htx' => ?_
            have hheld := htx.held _ session htx'
            rw [hb.not_handed_out hdue hasks] at hheld
            cases hheld

end Ledger

end SpellSessions
