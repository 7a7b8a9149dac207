/-
Isolation: no user is told of another user's session.

Whatever is held was asked for by the user whose turn it is (Serving.lean),
and a session is announced by the answer to a request that is held, so the
user who asked for it is the current one at that moment. The operations that
end a user's turn retire every group. What was asked for until then is held
nowhere, hence done with: an answer to it finds no request, whoever is
served when it comes and however late (`forgotten_of_endsTurn`).
-/
import SpellSessions.Proofs.Serving
import SpellSessions.Proofs.Stale
import SpellSessions.Proofs.Told

namespace SpellSessions

/-- Whether an operation ends the turn of the user being served. -/
def Operation.endsTurn : Operation → Bool
  | .changeUser _ _ => true
  | .stopServing => true
  | _ => false

theorem Operation.transaction_of_endsTurn {op : Operation}
    (hends : op.endsTurn = true) (s : Service) (around : Surroundings) :
    op.transaction s around = .retireEvery := by
  cases op with
  | changeUser u unlocked => rfl
  | stopServing => rfl
  | _ => cases hends

namespace Journal

variable {j j' k : Journal} {around : Surroundings} {op : Operation}
  {r : RequestId}

-- ======================================================= the end of a turn

/-- The end of a turn leaves no group, and gives out no request id. -/
theorem Reached.entries_of_endsTurn (hj : j.Reached)
    (hends : op.endsTurn = true)
    (hmove : j.move? (.enter around (.operation op)) = some j') :
    j'.host.groups.entries = [] ∧ j'.host.requests = j.host.requests := by
  obtain ⟨p, hheld, htaken, rfl⟩ := advance_of_enter hmove
  have hhost := matches_of_enter htaken
  have htx : (Entry.operation op).transaction j.machine.service around
      = .retireEvery := op.transaction_of_endsTurn hends _ _
  rw [htx] at hhost
  constructor
  · have hnone := Transaction.entries_retireEvery hj.busy
    exact (hhost.entries.trans (.of_eq hnone)).eq_nil
  · show p.machine.service.host.requests = j.host.requests
    rw [hhost.requests, Transaction.requests_decision]
    rfl

/-- What was asked for before the end of a turn is held nowhere after it,
and nobody is told of it any more. -/
theorem Reached.forgotten_of_endsTurn (hj : j.Reached)
    (hends : op.endsTurn = true)
    (hmove : j.move? (.enter around (.operation op)) = some j')
    (hleads : j'.Leads k) (hr : r.number ≤ j.host.requests) :
    ¬ k.Holds r
      ∧ ∀ id t owner listener session,
          ¬ j.CalledSince k (.notify id t r owner listener session) := by
  obtain ⟨hnone, hrequests⟩ := hj.entries_of_endsTurn hends hmove
  have hnot : ¬ j'.Holds r := by
    intro hholds
    obtain ⟨id, g, hg, -⟩ := hholds
    have he := GroupTable.find?_eq_some_iff.mp hg
    rw [hnone] at he
    cases he
  rw [← hrequests] at hr
  obtain ⟨hnever, huntold⟩ := (hj.move _ hmove).forgotten hr hnot hleads
  refine ⟨hnever, ?_⟩
  intro id t owner listener session hcalled
  rcases hcalled.cases_leads (.move _ .here hmove) hleads with hfirst | hlater
  · -- the end of a turn answers nothing
    obtain ⟨⟨around', hanswer⟩, -⟩ := hj.told_move hmove hfirst
    cases hanswer
  · exact huntold id t owner listener session hlater

-- ============================================================ in a run

/-- In a run without direct entries, every request that is held was made by
a caller of the user whose turn it is. A session that is announced in a move
is that of such a request, and a listener is registered only with the
announcement. Once the turn of a user has ended, only requests that came
later are announced or leave a listener, and the answer to an earlier one
changes nothing. -/
theorem users_kept_apart (hj : j.ReachedIndirectly) :
    (∀ id g n, j.host.groups.find? id = some g → n ∈ g.requests →
        j.host.user = some n.request.caller.user)
      ∧ (∀ mv j', j.move? mv = some j' →
          (∀ id t r owner listener session,
            j.CalledSince j' (.notify id t r owner listener session) →
              ∃ g n, j.host.groups.live? id t = some g ∧ n ∈ g.ongoing
                ∧ n.id = r ∧ n.request.owner = owner
                ∧ n.request.listener = listener
                ∧ j.host.user = some n.request.caller.user
                ∧ j'.host.user = j.host.user)
          ∧ ∀ l listener, j'.Registers l listener →
              j.Registers l listener
                ∨ ∃ r owner session, j.CalledSince j'
                    (.notify l.provider l.token r owner listener session))
      ∧ ∀ around op j' k, op.endsTurn = true →
          j.move? (.enter around (.operation op)) = some j' → j'.Leads k →
            (∀ id t r owner listener session,
              j.CalledSince k (.notify id t r owner listener session) →
                j.host.requests < r.number)
            ∧ (∀ l listener, k.Registers l listener →
                ∃ r owner session, j.CalledSince k
                  (.notify l.provider l.token r owner listener session))
            ∧ ∀ around' (a : ReplyHandle) session k',
                a.request.number ≤ j.host.requests →
                k.move? (.enter around' (.callback (.delivered a session)))
                    = some k' →
                  k'.machine = k.machine
                    ∧ k'.past = .replied .done
                      :: .entered (.callback (.delivered a session))
                      :: k.past := by
  have hreached := hj.reached
  have hown : ∀ id g n, j.host.groups.find? id = some g →
      n ∈ g.requests → j.host.user = some n.request.caller.user := by
    intro id g n hg hn
    exact hj.orderly.own id g n (GroupTable.find?_eq_some_iff.mp hg) hn
  refine ⟨hown, ?_, ?_⟩
  · intro mv j' hmove
    refine ⟨?_, fun l listener => hreached.registered_move hmove⟩
    intro id t r owner listener session hcalled
    obtain ⟨⟨around, rfl⟩, g, n, hl, hn, hid, howner, hlistener⟩ :=
      hreached.told_move hmove hcalled
    have hg := GroupTable.find?_eq_some_iff.mpr
      (GroupTable.live?_eq_some_iff.mp hl).1
    have huser := hown id g n hg (List.mem_append_left _ hn)
    refine ⟨g, n, hl, hn, hid, howner, hlistener, huser, ?_⟩
    obtain ⟨p, hheld, htaken, rfl⟩ := advance_of_enter hmove
    obtain ⟨hservice, -⟩ := Machine.enter_follows htaken
    show p.machine.service.host.user = _
    rw [hservice, Service.host_enter]
    exact Transaction.served_decision Host.user fun _ _ _ _ => rfl
  · intro around op j' k hends hmove hleads
    have hreached' := hreached.move _ hmove
    refine ⟨?_, ?_, ?_⟩
    · intro id t r owner listener session hcalled
      by_contra hbefore
      have hr := Nat.le_of_not_lt hbefore
      obtain ⟨-, huntold⟩ :=
        hreached.forgotten_of_endsTurn hends hmove hleads hr
      exact huntold id t owner listener session hcalled
    · intro l listener hregisters
      obtain ⟨hnone, -⟩ := hreached.entries_of_endsTurn hends hmove
      obtain ⟨r, owner, session, hcalled⟩ :=
        hreached'.registered_since hnone hleads hregisters
      exact ⟨r, owner, session, hcalled.of_leads (.move _ .here hmove)⟩
    · intro around' a session k' hr hanswer
      obtain ⟨hnot, -⟩ :=
        hreached.forgotten_of_endsTurn hends hmove hleads hr
      have hstale : k.Stale (.delivered a session) :=
        fun hwants => hnot hwants.holds
      obtain ⟨p, hheld, -, -⟩ := advance_of_enter hanswer
      obtain ⟨k₁, hmove₁, hmachine, hpast⟩ :=
        hstale.move (hreached'.leads hleads).busy hheld around'
      cases hmove₁.symm.trans hanswer
      exact ⟨hmachine, hpast⟩

end Journal

namespace Sample

/-- The provider is connected and is asked for the session of the first
user. -/
def ongoing : List Move :=
  waiting ++ [.enter (around []) (.callback (.connected ⟨"p", ⟨1⟩⟩ ⟨"s"⟩)),
    .answer .accepted]

/-- Another user, whose turn it is next, asks for a session with the same
provider. -/
def successor : List Move :=
  [.answer .accepted,
    operate (.beginSession "p"
      { request 2 with caller := ⟨0, ⟨1⟩⟩ }), .answer .accepted]

end Sample

/-- The answer to the first user's request, which comes when it is the turn
of the second, changes nothing, and nobody is told of it. -/
theorem Journal.predecessor_answer_inert :
    ∃ j j' k, Sample.start.after? Sample.ongoing = some j
      ∧ j.move? (Sample.operate (.changeUser ⟨1⟩ true)) = some j'
      ∧ j'.after? Sample.successor = some k
      ∧ j.Wants ⟨"p", ⟨1⟩⟩ ⟨1⟩ ∧ k.host.user = some ⟨1⟩
      ∧ (∃ k', k.move? (.enter (Sample.around []) (.callback Sample.late))
          = some k' ∧ k'.machine = k.machine)
      ∧ ∀ id t owner listener session, ¬ j.CalledSince k
          (.notify id t ⟨1⟩ owner listener session) := by
  obtain ⟨j, hj, hend⟩ := (Option.any_eq_true
    (fun j : Journal =>
      (j.host.groups.live? "p" ⟨1⟩).any
          (fun g : Group => g.ongoing.any (·.id = ⟨1⟩))
        && decide (j.host.requests = 1)
        && (j.move? (Sample.operate (.changeUser ⟨1⟩ true))).any
          fun j' : Journal => (j'.after? Sample.successor).any
            fun k : Journal => decide (k.host.user = some ⟨1⟩)
              && (k.move? (.enter (Sample.around [])
                (.callback Sample.late))).isSome) _).mp
    (show (Sample.start.after? Sample.ongoing).any _ = true from rfl)
  simp only [Bool.and_eq_true, decide_eq_true_eq, Option.any_eq_true,
    List.any_eq_true] at hend
  obtain ⟨⟨⟨g, hl, hongoing⟩, hgiven⟩, j', hmove, k, hk, huser, hlate⟩ := hend
  obtain ⟨k', hanswer⟩ := Option.isSome_iff_exists.mp hlate
  have hreached : j.ReachedIndirectly := .of_after hj (by decide)
  obtain ⟨-, -, hturn⟩ := users_kept_apart hreached
  obtain ⟨htold, -, hinert⟩ :=
    hturn _ _ j' k rfl hmove (leads_of_after hk)
  have hbefore : (1 : Nat) ≤ j.host.requests := Nat.le_of_eq hgiven.symm
  obtain ⟨hmachine, -⟩ := hinert _ _ _ k' hbefore hanswer
  refine ⟨j, j', k, hj, hmove, hk, ⟨g, hl, hongoing⟩, huser,
    ⟨k', hanswer, hmachine⟩, ?_⟩
  intro id t owner listener session hcalled
  have hlt := htold id t ⟨1⟩ owner listener session hcalled
  exact absurd hbefore (Nat.not_le_of_lt hlt)

end SpellSessions
