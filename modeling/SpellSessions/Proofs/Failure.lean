/-
Failures: a request that cannot be handed over ends its connection, and
nothing else.

The return of the call drops all work of the link and retires its group in
the same transaction. What is left of the host is the host without that
group; every other group and all numbers given out are as before, and a link
that was gone already leaves nothing to drop (`dropWork_of_live`,
`dropWork_of_stale`). The release is owed on the spot, unless the call that
connects is still running further down the stack: then it is owed when that
call comes back well.

What the group held had not been answered, and it belonged to this link
alone, so it is held nowhere any more. A reply handle of the failed
connection that its provider kept finds no request, whatever group the
provider has when it is used.
-/
import SpellSessions.Proofs.Connecting
import SpellSessions.Proofs.Requests
import SpellSessions.Proofs.Told

namespace SpellSessions

-- ====================================================== the transaction

namespace Host

variable {h : Host} {id : ProviderId} {t : Token} {g : Group}

/-- There is no work to drop on a link that is gone. -/
theorem dropWork_of_stale (hl : h.groups.live? id t = none) :
    h.dropWork id t = h.stay [] := by
  unfold dropWork
  rw [hl]
  dsimp only [Decision.andThen, stay]
  rw [retireIfIdle_of_stale hl]
  rfl

/-- To drop the work of a live link takes its group from the table, and
owes its release unless the group is connecting. -/
theorem dropWork_of_live (hret : g.retired = false)
    (hl : h.groups.live? id t = some g) :
    (h.dropWork id t).host = h.withGroups (h.groups.erase id)
      ∧ (h.dropWork id t).calls
        = if g.connecting then [] else [.disconnect id t] := by
  obtain ⟨-, htoken⟩ := GroupTable.live?_eq_some_iff.mp hl
  have hcleared := live?_replaced g.clear hl htoken
  have hcan : g.clear.canRetire = true := by
    show (!g.retired && true) = true
    rw [hret]
    rfl
  have herased : (h.groups.update id fun _ => g.clear).erase id
      = h.groups.erase id := GroupTable.eq_of_entries entries_erase_update
  unfold dropWork
  rw [hl]
  dsimp only [Decision.andThen, stay]
  unfold retireIfIdle
  rw [hcleared]
  dsimp only
  rw [if_pos hcan, show g.clear.connecting = g.connecting from rfl]
  dsimp only [withGroups]
  rw [herased]
  cases g.connecting <;> exact ⟨rfl, rfl⟩

end Host

-- ================================================================ the move

/-- A call that hands a request over can fail whenever it is the innermost
one. Its work is dropped, and its round goes on without the link. -/
theorem Machine.answer_failure {m : Machine} {f : Frame} {outer : List Frame}
    {id : ProviderId} {t : Token} {endpoint : Endpoint} {r : RequestId}
    {brief : Brief} (hstack : m.stack = f :: outer)
    (hcall : f.call = .create id t endpoint r brief) (reason : String) :
    ∃ p, m.answer (.declined reason) = some p
      ∧ p.machine.service = { m.service with
          host := (m.service.host.dropWork id t).host }
      ∧ p.Follows outer ((f.round.fail t).append
          (m.service.host.dropWork id t).calls) := by
  have hreturned : f.returned m.service.host (.declined reason)
      = ((m.service.host.stay [.handOverFailed id reason]).andThen
          (·.dropWork id t), f.round.fail t) := by
    unfold Frame.returned
    rw [hcall]
  unfold answer
  rw [hstack]
  dsimp only
  rw [hreturned]
  exact ⟨_, rfl, proceed_follows _ _⟩

namespace Journal

variable {j j' k : Journal} {f : Frame} {outer : List Frame}
  {id : ProviderId} {t : Token} {g : Group} {n : NumberedRequest}
  {reason : String}

/-- A link whose group a move takes from the table is never live again. -/
theorem Reached.gone_of_erased (hj : j.Reached)
    (hl : j.host.groups.live? id t = some g) {mv : Move}
    (hmove : j.move? mv = some j')
    (hhost : j'.host = j.host.withGroups (j.host.groups.erase id))
    (hleads : j'.Leads k) : ¬ k.IsLive ⟨id, t⟩ := by
  obtain ⟨he, htoken⟩ := GroupTable.live?_eq_some_iff.mp hl
  have hgiven : t.number ≤ j'.host.tokens := by
    rw [hhost, ← htoken]
    exact hj.ledger.numbered _ he
  have hgone : ¬ j'.IsLive ⟨id, t⟩ := by
    unfold IsLive
    rw [hhost]
    exact Option.not_isSome_iff_eq_none.mpr GroupTable.live?_erase
  exact (gone_of_leads (hj.move _ hmove) hleads hgiven hgone).2

/-- What a live group holds was not answered: no owner has been told. -/
theorem Reached.untold_of_request (hj : j.Reached)
    (hl : j.host.groups.live? id t = some g) (hn : n ∈ g.requests)
    {id' : ProviderId} {t' : Token} {owner : Owner} {listener : ListenerId}
    {session : Option Session} :
    .called (.notify id' t' n.id owner listener session) ∉ j.past := by
  intro htold
  have hconcerns : j.ledger.Concerns ⟨id, t⟩ n.id :=
    concerns_of_request (l := ⟨id, t⟩) hl hn
  have hheld : 0 < j.ledger.host.groups.held ⟨id, t⟩ n.id :=
    held_of_request (l := ⟨id, t⟩) hl hn
  have honce := (hj.ledger.told_once ⟨id, t⟩ n.id).1
  have hle := hj.ledger.tells_le hconcerns
  have hmade : 0 < j.ledger.made (·.tells n.id) :=
    Ledger.made_pos_iff.mpr ⟨.notify id' t' n.id owner listener session,
      decide_eq_true rfl, htold⟩
  omega

/-- What a group held when its link was lost by the return of a call is held
nowhere from then on, and nobody is ever told of it. -/
theorem Reached.lost_by_return (hj : j.Reached)
    (hl : j.host.groups.live? id t = some g) (hn : n ∈ g.requests)
    {a : Answer} (hmove : j.move? (.answer a) = some j')
    (hgone : ¬ j'.IsLive ⟨id, t⟩) (hleads : j'.Leads k) :
    ¬ k.Holds n.id
      ∧ ∀ id' t' owner listener session,
          .called (.notify id' t' n.id owner listener session) ∉ k.past := by
  have hfirst : j.Leads j' := .move _ .here hmove
  have hconcerns : j.ledger.Concerns ⟨id, t⟩ n.id :=
    concerns_of_request (l := ⟨id, t⟩) hl hn
  have hnot := hj.not_holds_of_gone hconcerns hfirst hgone
  have hgiven : n.id.number ≤ j'.host.requests :=
    Nat.le_trans (hj.ledger.number_le hconcerns) hfirst.ledger.requests_le
  obtain ⟨hnever, huntold⟩ := (hj.move _ hmove).forgotten hgiven hnot hleads
  refine ⟨hnever, ?_⟩
  intro id' t' owner listener session htold
  obtain ⟨later, hpast⟩ := past_of_leads (hfirst.trans hleads)
  rw [← hpast, List.mem_append] at htold
  rcases htold with hlater | hbefore
  · have hcalled : j.CalledSince k
        (.notify id' t' n.id owner listener session) :=
      ⟨later, hpast.symm, hlater⟩
    rcases hcalled.cases_leads hfirst hleads with hnow | hthen
    · -- a return tells nobody
      obtain ⟨⟨around, hanswer⟩, -⟩ := hj.told_move hmove hnow
      cases hanswer
    · exact huntold _ _ _ _ _ hthen
  · exact hj.untold_of_request hl hn hbefore

-- ============================================================== in a run

/-- When a call that hands a request over fails, its connection ends with it
and nothing else does. If the link is gone by then, the service stays as it
is and nothing is owed. If its group is live, the group leaves the table and
all else in the service stays; the round owes one release, or none while the
call that connects is in progress, which owes it when it comes back well;
and from then on the link is never live again, and what the group held is
held nowhere and its owners are never told. -/
theorem failure_ends_one_connection (hj : j.Reached)
    (hstack : j.machine.stack = f :: outer) {endpoint : Endpoint}
    {r : RequestId} {brief : Brief}
    (hcall : f.call = .create id t endpoint r brief) (reason : String) :
    ∃ p, j.machine.answer (.declined reason) = some p
      ∧ j.move? (.answer (.declined reason))
          = some (j.advance (.returned f.call (.declined reason)) p)
      ∧ (j.host.groups.live? id t = none →
          p.machine.service = j.machine.service
            ∧ p.Follows outer (f.round.fail t))
      ∧ ∀ g, j.host.groups.live? id t = some g →
          p.machine.service = { j.machine.service with
              host := j.host.withGroups (j.host.groups.erase id) }
            ∧ p.Follows outer ((f.round.fail t).append
                (if g.connecting then [] else [.disconnect id t]))
            ∧ (g.connecting = true
                ↔ ∃ f' ∈ outer, f'.call.connectsUnder t = true)
            ∧ ∀ k, (j.advance (.returned f.call (.declined reason)) p).Leads k →
                ¬ k.IsLive ⟨id, t⟩
                  ∧ (k.host.established id t).calls = [.disconnect id t]
                  ∧ ∀ n ∈ g.requests, ¬ k.Holds n.id
                    ∧ ∀ id' t' owner listener session,
                        .called (.notify id' t' n.id owner listener session)
                          ∉ k.past := by
  obtain ⟨p, hp, hservice, hfollows⟩ :=
    Machine.answer_failure hstack hcall reason
  have hmove : j.move? (.answer (.declined reason))
      = some (j.advance (.returned f.call (.declined reason)) p) :=
    move?_of_answered hstack hp
  refine ⟨p, hp, hmove, ?_, ?_⟩
  · intro hl
    have hstay := Host.dropWork_of_stale (h := j.machine.service.host) hl
    rw [hstay] at hservice hfollows
    refine ⟨hservice, ?_⟩
    simpa [Round.append, Host.stay] using hfollows
  · intro g hl
    obtain ⟨he, htoken⟩ := GroupTable.live?_eq_some_iff.mp hl
    obtain ⟨hhost, hcalls⟩ := Host.dropWork_of_live
      (h := j.machine.service.host) (hj.busy _ he).1 hl
    rw [hhost] at hservice
    rw [hcalls] at hfollows
    refine ⟨hservice, hfollows, ?_, ?_⟩
    · have hiff := hj.connecting_iff (GroupTable.find?_eq_some_iff.mpr he)
      rw [hstack, htoken] at hiff
      simpa [hcall, Call.connectsUnder] using hiff
    · intro k hleads
      have herased : (j.advance (.returned f.call (.declined reason)) p).host
          = j.host.withGroups (j.host.groups.erase id) :=
        congrArg Service.host hservice
      have hgone := hj.gone_of_erased hl hmove herased hleads
      refine ⟨hgone, ?_, ?_⟩
      · have hnone := Option.not_isSome_iff_eq_none.mp hgone
        unfold Host.established
        rw [hnone]
      · intro n hn
        have hlost := hj.gone_of_erased hl hmove herased .here
        exact hj.lost_by_return hl hn hmove hlost hleads

end Journal

namespace Sample

/-- The provider is connected from inside the call that connects it, and is
asked for the first session. -/
def failing : List Move :=
  opening ++ [.enter (around [])
    (.callback (.connected ⟨"p", ⟨1⟩⟩ ⟨"s"⟩))]

/-- The call to connect comes back well, and the connection is released; the
provider gets a new group, and then its answer to the first request
comes. -/
def recovering : List Move :=
  [.answer .accepted, .answer .accepted,
    operate (.beginSession "p" (request 2)),
    .enter (around []) (.callback (.delivered ⟨"p", ⟨1⟩, ⟨1⟩⟩ (some ⟨"x"⟩)))]

end Sample

/-- A failure inside the call that connects owes no release for now, and its
request is never announced, also when the provider has a new group. -/
theorem Journal.failure_inside_connect :
    ∃ j f outer p k, Sample.start.after? Sample.failing = some j
      ∧ j.machine.stack = f :: outer
      ∧ j.machine.answer (.declined "lost") = some p
      ∧ p.Follows outer ((f.round.fail ⟨1⟩).append [])
      ∧ (j.advance (.returned f.call (.declined "lost")) p).after?
          Sample.recovering = some k
      ∧ k.IsLive ⟨"p", ⟨2⟩⟩ ∧ ¬ k.IsLive ⟨"p", ⟨1⟩⟩
      ∧ ∀ id t owner listener session,
          .called (.notify id t ⟨1⟩ owner listener session) ∉ k.past := by
  obtain ⟨j, hj, hend⟩ := (Option.any_eq_true
    (fun j : Journal =>
      j.machine.stack.head?.any (fun f : Frame =>
          decide (f.call = .create "p" ⟨1⟩ ⟨"s"⟩ ⟨1⟩ (Sample.request 1).brief))
        && decide (j.host.groups.live? "p" ⟨1⟩
          = some ((Group.first ⟨1⟩ ⟨⟨1⟩, Sample.request 1⟩).connect ⟨"s"⟩))
        && ((j.move? (.answer (.declined "lost"))).bind
          (·.after? Sample.recovering)).any fun k : Journal =>
            (k.host.groups.live? "p" ⟨2⟩).isSome) _).mp
    (show (Sample.start.after? Sample.failing).any _ = true from rfl)
  simp only [Bool.and_eq_true, decide_eq_true_eq, Option.any_eq_true,
    Option.bind_eq_some_iff] at hend
  obtain ⟨⟨⟨f, hf, hcall⟩, hl⟩, k, ⟨j', hmove', hk⟩, hnew⟩ := hend
  obtain ⟨outer, hstack⟩ := List.head?_eq_some_iff.mp hf
  obtain ⟨p, hp, hmove, -, hlive⟩ := failure_ends_one_connection
    (Reached.of_after hj) hstack hcall "lost"
  obtain ⟨-, hfollows, -, hlater⟩ := hlive _ hl
  cases hmove.symm.trans hmove'
  obtain ⟨hgone, -, hlost⟩ := hlater k (leads_of_after hk)
  obtain ⟨-, huntold⟩ := hlost ⟨⟨1⟩, Sample.request 1⟩ List.mem_cons_self
  exact ⟨j, f, outer, p, k, hj, hstack, hp, hfollows, hk, hnew, hgone,
    huntold⟩

end SpellSessions
