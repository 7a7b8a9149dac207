/-
Batches: the requests that are handed over when a provider is connected,
and which of them are still wanted when their turn comes.

The requests of a batch are decided on at once and handed over one after
the other. Between two of them the endpoint has the word, and may enter
the service from inside its call; if that entry takes the group away, the
batch goes on all the same. So the call for a request begins while the
request is ongoing on a live link, unless the group left the table while
an earlier call of the same batch was in progress: then, and only then,
the endpoint is asked for a session that nobody wants any more.

# The order in a round

Requests stand at the front of a round and all belong to one link: where
a request is queued, every call before it asks for a session on the same
link (`Batched`). A call that fails therefore skips the rest of its batch,
and a call that returns well makes no transaction, so nothing but a nested
entry can come between two requests.
-/
import SpellSessions.Proofs.HandOver

namespace SpellSessions

-- ============================================================== the order

/-- The first of two calls asks for a session wherever the second does. -/
def Call.Precedes (c d : Call) : Prop :=
  ∀ l, d.creates l = true → c.creates l = true

/-- Where a frame has a request queued, every call before it, also the one
in progress, asks for a session on the same link. -/
def Frame.Batched (f : Frame) : Prop :=
  (f.call :: f.round.queue).Pairwise Call.Precedes

namespace Transaction

variable {h : Host} {tx : Transaction}

theorem pairwise_hands : (tx.hands h).Pairwise Call.Precedes := by
  cases tx with
  | submit p r =>
      unfold hands
      dsimp only
      split
      · exact List.pairwise_singleton _ _
      · split
        · exact .nil
        · exact List.pairwise_singleton _ _
  | connected l endpoint =>
      unfold hands
      dsimp only
      split
      · exact .nil
      · rw [List.pairwise_map]
        exact List.pairwise_of_forall fun _ _ _ hcreates => hcreates
  | answered a session =>
      unfold hands
      dsimp only
      split
      · exact .nil
      · split
        · exact .nil
        · exact List.pairwise_singleton _ _
  | _ => exact .nil

/-- The calls of a transaction are in order. -/
theorem pairwise_calls (hb : h.groups.Busy) :
    (tx.decision h).calls.Pairwise Call.Precedes := by
  rw [calls_decision hb, List.pairwise_append]
  refine ⟨pairwise_hands, ?_, ?_⟩
  · refine List.pairwise_of_forall_mem_list fun c _ d hd l hcreates => ?_
    have hdisconnect := isDisconnect_of_mem_releases hd
    cases d with
    | create id t e r b => cases hdisconnect
    | _ => cases hcreates
  · intro c _ d hd l hcreates
    have hdisconnect := isDisconnect_of_mem_releases hd
    cases d with
    | create id t e r b => cases hdisconnect
    | _ => cases hcreates

theorem isCreate_of_mem_tail_hands {c : Call} (hc : c ∈ (tx.hands h).tail) :
    c.isCreate = true := by
  cases tx with
  | submit p r =>
      unfold hands at hc
      dsimp only at hc
      split at hc
      · cases hc
      · split at hc <;> cases hc
  | connected l endpoint =>
      unfold hands at hc
      dsimp only at hc
      split at hc
      · cases hc
      · obtain ⟨n, -, rfl⟩ := List.mem_map.mp (List.mem_of_mem_tail hc)
        rfl
  | answered a session =>
      unfold hands at hc
      dsimp only at hc
      split at hc
      · cases hc
      · split at hc <;> cases hc
  | _ => cases hc

/-- The calls that a transaction owes behind the first hand requests over or
release connections. -/
theorem kind_of_mem_tail (hb : h.groups.Busy) {c : Call}
    (hc : c ∈ (tx.decision h).calls.tail) :
    c.isCreate = true ∨ c.isDisconnect = true := by
  rw [calls_decision hb] at hc
  cases hhands : tx.hands h with
  | nil =>
      rw [hhands, List.nil_append] at hc
      exact .inr (isDisconnect_of_mem_releases (List.mem_of_mem_tail hc))
  | cons d rest =>
      rw [hhands, List.cons_append, List.tail_cons] at hc
      rcases List.mem_append.mp hc with hrest | hreleases
      · have htail : c ∈ (tx.hands h).tail := by
          rw [hhands]
          exact hrest
        exact .inl (isCreate_of_mem_tail_hands htail)
      · exact .inr (isDisconnect_of_mem_releases hreleases)

/-- The return of a call owes releases only. -/
theorem isDisconnect_of_return (hb : h.groups.Busy) {c d : Call} {a : Answer}
    (hd : d ∈ ((c.transaction a).decision h).calls) :
    d.isDisconnect = true := by
  rw [calls_decision hb, List.mem_append] at hd
  rcases hd with hhands | hreleases
  · cases c <;> cases a <;> cases hhands
  · exact isDisconnect_of_mem_releases hreleases

theorem not_creates_of_return (hb : h.groups.Busy) {c d : Call} {a : Answer}
    (hd : d ∈ ((c.transaction a).decision h).calls) (l : Link) :
    d.creates l = false := by
  have hreleases := isDisconnect_of_return hb hd
  cases d with
  | disconnect id t => rfl
  | _ => cases hreleases

end Transaction

-- =================================================== a call that begins

theorem Round.next?_eq_some {r : Round} {f : Frame}
    (h : r.next? = some f) :
    r.queue.dropWhile r.skips = f.call :: f.round.queue := by
  unfold Round.next? at h
  split at h
  · cases h
  · next c rest hqueue =>
      cases h
      exact hqueue

theorem Round.mem_of_next {r : Round} {f : Frame} (h : r.next? = some f) :
    f.call ∈ r.queue := by
  refine (List.dropWhile_suffix r.skips).subset ?_
  rw [Round.next?_eq_some h]
  exact List.mem_cons_self

theorem Round.not_skips_next {r : Round} {f : Frame}
    (h : r.next? = some f) : r.skips f.call = false := by
  have hhead := List.head?_dropWhile_not r.skips r.queue
  rw [Round.next?_eq_some h] at hhead
  exact hhead

namespace Journal

variable {j j' k k' : Journal} {mv : Move} {f f' : Frame} {c : Call}
  {l : Link} {r : RequestId}

/-- How a call comes to begin in a move, with the round that it leaves. -/
inductive Begins (j j' : Journal) (f' : Frame) : Prop
  /-- It is the first call that a turn owes. -/
  | opens (tx : Transaction)
      (hhost : j'.host.Matches (tx.decision j.host).host)
      (hcalls : f'.call :: f'.round.queue = (tx.decision j.host).calls)
  /-- It is next in a round of which a call has returned. -/
  | goesOn (f : Frame) (a : Answer) (hf : f ∈ j.machine.stack)
      (hhost : j'.host.Matches ((f.call.transaction a).decision j.host).host)
      (hcalls : f'.call :: f'.round.queue <:+
        f.round.queue ++ ((f.call.transaction a).decision j.host).calls)
      (hfailed : ∀ l, f.call.creates l = true →
        f'.call.creates l = true → a = .accepted)

/-- After a call for a session failed, the round begins no other call for a
session on its link. -/
theorem failed_of_declined {h : Host} {a : Answer}
    (hcreates : f.call.creates l = true) (hcreates' : c.creates l = true)
    (hskips : (f.returned h a).2.skips c = false) : a = .accepted := by
  cases a with
  | accepted => rfl
  | declined reason =>
      obtain ⟨call, round⟩ := f
      cases call with
      | create id t e r b =>
          cases c with
          | create id' t' e' r' b' =>
              have htoken := (Bool.and_eq_true_iff.mp hcreates).2
              have htoken' := (Bool.and_eq_true_iff.mp hcreates').2
              have hsame : t' = t := (of_decide_eq_true htoken').trans
                (of_decide_eq_true htoken).symm
              subst hsame
              simp [Round.skips, Frame.returned, Round.fail, Call.isCreate,
                Call.token] at hskips
          | _ => cases hcreates'
      | _ => cases hcreates

theorem begins_of_enter {around : Surroundings} {e : Entry} {p : Progress}
    {manner : Manner} (htaken : j.machine.enter around e = .taken p)
    (hnext : (Round.start (j.machine.service.enter around e).calls
      manner).next? = some f) :
    Begins j (j.advance (.entered e) p) f := by
  refine .opens _ (matches_of_enter htaken) ?_
  have hcalls : (j.machine.service.enter around e).calls
      = ((e.transaction j.machine.service around).decision j.host).calls :=
    Service.calls_enter e
  rw [hcalls] at hnext
  have hdrop := Round.next?_eq_some hnext
  -- nothing has failed in a round that starts, so nothing is skipped
  have hnone : ∀ calls, (Round.start calls manner).skips = fun _ => false :=
    fun calls => funext (Round.skips_start calls manner)
  rw [hnone, Round.start] at hdrop
  rw [← hdrop]
  cases ((e.transaction j.machine.service around).decision j.host).calls <;> rfl

theorem begins_of_answer {a : Answer} {outer : List Frame} {p : Progress}
    (hstack : j.machine.stack = f :: outer)
    (hhost : p.machine.service.host
      = ((f.call.transaction a).decision j.host).host)
    (hnext : ((f.returned j.host a).2.append
      ((f.call.transaction a).decision j.host).calls).next? = some f') :
    Begins j (j.advance (.returned f.call a) p) f' := by
  have hdrop := Round.next?_eq_some hnext
  refine .goesOn f a (hstack ▸ List.mem_cons_self) ?_ ?_ ?_
  · show p.machine.service.host.Matches _
    rw [hhost]
    exact .refl _
  · rw [← hdrop, ← f.queue_returned j.host a]
    exact List.dropWhile_suffix _
  · intro l hcreates hcreates'
    have hskips := Round.not_skips_next hnext
    exact failed_of_declined hcreates hcreates' hskips

/-- A call in progress after a move was in progress before, or begins. -/
theorem begins_of_mem (hmove : j.move? mv = some j')
    (hf : f' ∈ j'.machine.stack) :
    f' ∈ j.machine.stack ∨ Begins j j' f' := by
  cases moved_of_move hmove with
  | entered around e p hheld htaken =>
      obtain ⟨-, manner, hfollows⟩ := Machine.enter_follows htaken
      exact (hfollows.mem_stack hf).imp_right (begins_of_enter htaken)
  | returned a f outer p hstack hanswer =>
      obtain ⟨hhost, hfollows⟩ := Machine.answer_follows hstack hanswer
      rw [hstack]
      exact (hfollows.mem_stack hf).imp (List.mem_cons_of_mem _)
        (begins_of_answer hstack hhost)
  | aside s hr => exact .inl hf

/-- A call that is the latest moment has just begun, or nothing happened
since. -/
theorem begins_of_called (hmove : j.move? mv = some j')
    {past : List Moment} (hpast : j'.past = .called c :: past) :
    (j.past = j'.past ∧ j'.host.Matches j.host)
      ∨ ∃ f', f'.call = c ∧ Begins j j' f' := by
  cases moved_of_move hmove with
  | entered around e p hheld htaken =>
      obtain ⟨-, manner, hfollows⟩ := Machine.enter_follows htaken
      replace hpast : p.sequel ++ _ = _ := hpast
      unfold Progress.sequel at hpast
      cases hfollows with
      | begins f hnext hstack hreply =>
          rw [hstack, hreply] at hpast
          cases hpast
          exact .inr ⟨f, rfl, begins_of_enter htaken hnext⟩
      | ends reply hnext hstack hreply =>
          rw [hreply] at hpast
          cases hpast
  | returned a f outer p hstack hanswer =>
      obtain ⟨hhost, hfollows⟩ := Machine.answer_follows hstack hanswer
      replace hpast : p.sequel ++ _ = _ := hpast
      unfold Progress.sequel at hpast
      cases hfollows with
      | begins f₁ hnext hstack' hreply =>
          rw [hstack', hreply] at hpast
          cases hpast
          exact .inr ⟨f₁, rfl, begins_of_answer hstack hhost hnext⟩
      | ends reply hnext hstack' hreply =>
          rw [hreply] at hpast
          cases hpast
  | aside s hr => exact .inl ⟨rfl, hr.matches⟩

-- ============================================================ in a run

/-- In a run the requests of every round are in order. -/
theorem Reached.batched (hj : j.Reached) (hf : f ∈ j.machine.stack) :
    f.Batched := by
  induction hj generalizing f with
  | begin rule settings => cases hf
  | move mv hj hmove ih =>
      rcases begins_of_mem hmove hf with hf | hbegins
      · exact ih hf
      unfold Frame.Batched
      cases hbegins with
      | opens tx hhost hcalls =>
          rw [hcalls]
          exact Transaction.pairwise_calls hj.busy
      | goesOn f₀ a hf₀ hhost hcalls hfailed =>
          refine List.Pairwise.sublist hcalls.sublist ?_
          rw [List.pairwise_append]
          have hbefore := (List.pairwise_cons.mp (ih hf₀)).2
          refine ⟨hbefore, Transaction.pairwise_calls hj.busy, ?_⟩
          intro c _ d hd l hcreates
          rw [Transaction.not_creates_of_return hj.busy hd l] at hcreates
          cases hcreates

/-- Where a request is queued, the call in progress is one for a session on
the same link. -/
theorem Reached.creates_of_queued (hj : j.Reached)
    (hf : f ∈ j.machine.stack) (hc : c ∈ f.round.queue)
    (hcreates : c.creates l = true) : f.call.creates l = true :=
  (List.pairwise_cons.mp (hj.batched hf)).1 c hc l hcreates

theorem due_of_queued (hf : f ∈ j.machine.stack)
    (hc : c ∈ f.round.queue) : c ∈ j.ledger.due :=
  List.mem_flatMap.mpr ⟨f, hf, hc⟩

theorem queued_of_due (hc : c ∈ j.ledger.due) :
    ∃ f ∈ j.machine.stack, c ∈ f.round.queue :=
  List.mem_flatMap.mp hc

/-- A call that is queued hands a request over or releases a connection. A
call to connect or to tell an owner is made in the turn that owes it. -/
theorem Reached.kind_of_queued (hj : j.Reached)
    (hf : f ∈ j.machine.stack) (hc : c ∈ f.round.queue) :
    c.isCreate = true ∨ c.isDisconnect = true := by
  induction hj generalizing f with
  | begin rule settings => cases hf
  | move mv hj hmove ih =>
      rcases begins_of_mem hmove hf with hf | hbegins
      · exact ih hf hc
      cases hbegins with
      | opens tx hhost hcalls =>
          refine tx.kind_of_mem_tail hj.busy ?_
          rw [← hcalls]
          exact hc
      | goesOn f₀ a hf₀ hhost hcalls hfailed =>
          have hmem := hcalls.subset (List.mem_cons_of_mem _ hc)
          rcases List.mem_append.mp hmem with hqueued | hnew
          · exact ih hf₀ hqueued
          · exact .inr (Transaction.isDisconnect_of_return hj.busy hnew)

/-- A request that goes on in a round was queued in it before. -/
theorem Reached.queued_of_goesOn (hj : j.Reached) {a : Answer}
    (hcalls : f'.call :: f'.round.queue <:+
      f.round.queue ++ ((f.call.transaction a).decision j.host).calls)
    (hc : c ∈ f'.call :: f'.round.queue) (hcreates : c.creates l = true) :
    c ∈ f.round.queue := by
  rcases List.mem_append.mp (hcalls.subset hc) with hbefore | hnew
  · exact hbefore
  · rw [Transaction.not_creates_of_return hj.busy hnew l] at hcreates
    cases hcreates

/-- Whether a link is live. -/
def IsLive (j : Journal) (l : Link) : Prop :=
  (j.host.groups.live? l.provider l.token).isSome

/-- A request is wanted: it is ongoing on a link that is live. -/
def Wants (j : Journal) (l : Link) (r : RequestId) : Prop :=
  ∃ g, j.host.groups.live? l.provider l.token = some g ∧ g.hasOngoing r

/-- The group of a link left the table in a move of the run, while a call
for a session on the link was in progress and another call was queued
behind it. -/
def LeftMeanwhile (j : Journal) (l : Link) (c : Call) : Prop :=
  ∃ (k k' : Journal) (mv : Move) (f : Frame),
    k.Reached ∧ k.move? mv = some k' ∧ k'.Leads j
      ∧ f ∈ k.machine.stack ∧ f ∈ k'.machine.stack
      ∧ f.call.creates l = true ∧ c ∈ f.round.queue
      ∧ k.IsLive l ∧ ¬ k'.IsLive l

theorem LeftMeanwhile.move (h : j.LeftMeanwhile l c)
    (hmove : j.move? mv = some j') : j'.LeftMeanwhile l c := by
  obtain ⟨k, k', mv₀, f, hk, hleft, hleads, hrest⟩ := h
  exact ⟨k, k', mv₀, f, hk, hleft, .move mv hleads hmove, hrest⟩

/-- Between two requests of a batch the groups stay as they are. -/
theorem matches_of_accepted (hcreates : f.call.creates l = true)
    (hhost : j'.host.Matches
      ((f.call.transaction .accepted).decision j.host).host) :
    j'.host.Matches j.host := by
  cases hcall : f.call with
  | create id t e r b =>
      rw [hcall] at hhost
      exact hhost
  | _ =>
      rw [hcall] at hcreates
      cases hcreates

/-- A request that is queued belongs to a live link, unless the link left
while an earlier request of the batch was handed over. -/
theorem Reached.live_or_left (hj : j.Reached) (hf : f ∈ j.machine.stack)
    (hc : c ∈ f.round.queue) (hasks : c.asks l r = true) :
    j.IsLive l ∨ j.LeftMeanwhile l c := by
  have hcreates := Call.creates_of_asks hasks
  induction hj generalizing f with
  | begin rule settings => cases hf
  | @move j j' mv hj hmove ih =>
      rcases begins_of_mem hmove hf with hbefore | hbegins
      · rcases ih hbefore hc with hlive | hleft
        · by_cases hlive' : j'.IsLive l
          · exact .inl hlive'
          · have hcall := hj.creates_of_queued hbefore hc hcreates
            exact .inr ⟨j, j', mv, f, hj, hmove, .here, hbefore, hf, hcall,
              hc, hlive, hlive'⟩
        · exact .inr (hleft.move hmove)
      cases hbegins with
      | opens tx hhost hcalls =>
          have hmem : c ∈ (tx.decision j.host).calls := by
            rw [← hcalls]
            exact List.mem_cons_of_mem _ hc
          obtain ⟨g, hl, -⟩ :=
            Transaction.ongoing_of_asks hj.busy hmem hasks
          refine .inl ?_
          unfold IsLive
          rw [hhost.live?, hl]
          rfl
      | goesOn f₀ a hf₀ hhost hcalls hfailed =>
          have hc₀ := hj.queued_of_goesOn hcalls
            (List.mem_cons_of_mem _ hc) hcreates
          rcases ih hf₀ hc₀ with hlive | hleft
          · -- the call that returned and the one that begins are in the batch
            have hcall₀ := hj.creates_of_queued hf₀ hc₀ hcreates
            have hcall := (hj.move mv hmove).creates_of_queued hf hc hcreates
            cases hfailed l hcall₀ hcall
            refine .inl ?_
            unfold IsLive
            rw [(matches_of_accepted hcall₀ hhost).live?]
            exact hlive
          · exact .inr (hleft.move hmove)

-- ====================================================== who is still wanted

/-- A request whose call begins is wanted, unless its link left while an
earlier request of the batch was handed over. -/
theorem Reached.wants_or_left (hj : j.Reached) {past : List Moment}
    (hpast : j.past = .called c :: past) (hasks : c.asks l r = true) :
    j.Wants l r ∨ j.LeftMeanwhile l c := by
  have hcreates := Call.creates_of_asks hasks
  induction hj generalizing past with
  | begin rule settings => cases hpast
  | @move j j' mv hj hmove ih =>
      rcases begins_of_called hmove hpast with
        ⟨hsame, hhost⟩ | ⟨f', rfl, hbegins⟩
      · rcases ih (hsame.trans hpast) with hwants | hleft
        · unfold Wants
          rw [hhost.live?]
          exact .inl hwants
        · exact .inr (hleft.move hmove)
      cases hbegins with
      | opens tx hhost hcalls =>
          have hmem : f'.call ∈ (tx.decision j.host).calls := by
            rw [← hcalls]
            exact List.mem_cons_self
          unfold Wants
          rw [hhost.live?]
          exact .inl (Transaction.ongoing_of_asks hj.busy hmem hasks)
      | goesOn f₀ a hf₀ hhost hcalls hfailed =>
          have hc₀ := hj.queued_of_goesOn hcalls List.mem_cons_self hcreates
          have hcall₀ := hj.creates_of_queued hf₀ hc₀ hcreates
          cases hfailed l hcall₀ hcreates
          rcases hj.live_or_left hf₀ hc₀ hasks with hlive | hleft
          · obtain ⟨g, hl⟩ := Option.isSome_iff_exists.mp hlive
            have hongoing := hj.ledger.due_ongoing (due_of_queued hf₀ hc₀)
              hasks hl
            unfold Wants
            rw [(matches_of_accepted hcall₀ hhost).live?]
            exact .inl ⟨g, hl, hongoing⟩
          · exact .inr (hleft.move hmove)

/-- A link that was given out and is not live is not live later on. -/
theorem gone_of_leads (hk : k.Reached) (hleads : k.Leads j)
    (ht : l.token.number ≤ k.host.tokens) (hgone : ¬ k.IsLive l) :
    l.token.number ≤ j.host.tokens ∧ ¬ j.IsLive l := by
  induction hleads with
  | here => exact ⟨ht, hgone⟩
  | @move i j mv hleads hmove ih =>
      obtain ⟨ht, hgone⟩ := ih
      obtain ⟨tx, hhost⟩ := matches_of_move hmove
      unfold IsLive at hgone ⊢
      rw [hhost.tokens, hhost.live?]
      rw [Option.not_isSome_iff_eq_none] at hgone ⊢
      exact ⟨Nat.le_trans ht Transaction.tokens_le_decision,
        Transaction.gone_decision (hk.leads hleads).busy ht hgone⟩

/-- The call for a request begins while the request is ongoing on a live
link if and only if the link did not leave the table while an earlier call
of the same batch was in progress. -/
theorem wants_iff_not_left (hj : j.Reached) {endpoint : Endpoint}
    {brief : Brief} {past : List Moment}
    (hpast : j.past
      = .called (.create l.provider l.token endpoint r brief) :: past) :
    j.Wants l r
      ↔ ¬ j.LeftMeanwhile l
          (.create l.provider l.token endpoint r brief) := by
  have hasks : (Call.create l.provider l.token endpoint r brief).asks l r
      = true := by
    unfold Call.asks
    simp
  constructor
  · rintro ⟨g, hl, -⟩ ⟨k, k', mv, f, hk, hmove, hleads, -, hf', -, hc, -, hgone⟩
    have hk' := hk.move mv hmove
    have ht := hk'.ledger.token_le (due_of_queued hf' hc)
      (Call.creates_of_asks hasks)
    refine (gone_of_leads hk' hleads ht hgone).2 ?_
    unfold IsLive
    rw [hl]
    rfl
  · intro hnot
    exact (hj.wants_or_left hpast hasks).resolve_right hnot

end Journal

namespace Sample

/-- A second request joins the first, and the provider is connected: the
endpoint is asked for the first session. -/
def batch : List Move :=
  waiting ++ [operate (.beginSession "p" (request 2)),
    .enter (around [descriptor])
      (.callback (.connected ⟨"p", ⟨1⟩⟩ ⟨"s"⟩))]

/-- The call that hands over the second request. -/
def second : Call :=
  .create "p" ⟨1⟩ ⟨"s"⟩ ⟨2⟩ (request 2).brief

/-- The user is dropped from inside the first call, which then returns. -/
def dropped : List Move :=
  batch ++ [operate .stopServing, .answer .accepted, .answer .accepted]

end Sample

namespace Journal

/-- Where the first call returns at once, nothing left and the second request
is wanted. -/
theorem second_request_wanted :
    ∃ j, Sample.start.after? (Sample.batch ++ [.answer .accepted]) = some j
      ∧ ¬ j.LeftMeanwhile ⟨"p", ⟨1⟩⟩ Sample.second := by
  obtain ⟨j, hj, hend⟩ := (Option.any_eq_true
    (fun j : Journal => decide (j.past.head? = some (.called Sample.second))
      && (j.host.groups.live? "p" ⟨1⟩).any (·.ongoing.any (·.id = ⟨2⟩))) _).mp
    (show (Sample.start.after? (Sample.batch ++ [.answer .accepted])).any _
      = true from rfl)
  rw [Bool.and_eq_true, decide_eq_true_eq, Option.any_eq_true] at hend
  obtain ⟨hhead, g, hl, hongoing⟩ := hend
  obtain ⟨past, hpast⟩ := List.head?_eq_some_iff.mp hhead
  obtain ⟨n, hn, hid⟩ := List.any_eq_true.mp hongoing
  have hiff := wants_iff_not_left (l := ⟨"p", ⟨1⟩⟩) (Reached.of_after hj) hpast
  exact ⟨j, hj, hiff.mp ⟨g, hl, n, hn, of_decide_eq_true hid⟩⟩

/-- Where the user is dropped during the first call, the endpoint is asked
for the second session although nobody wants it any more. -/
theorem second_request_unwanted :
    (∀ mv ∈ Sample.dropped, mv.isDirect = false)
      ∧ ∃ j past, Sample.start.after? Sample.dropped = some j
        ∧ j.past = .called Sample.second :: past
        ∧ ¬ j.Wants ⟨"p", ⟨1⟩⟩ ⟨2⟩ := by
  refine ⟨by decide, ?_⟩
  obtain ⟨j, hj, hend⟩ := (Option.any_eq_true
    (fun j : Journal => decide (j.past.head? = some (.called Sample.second))
      && (j.host.groups.live? "p" ⟨1⟩).isNone) _).mp
    (show (Sample.start.after? Sample.dropped).any _ = true from rfl)
  rw [Bool.and_eq_true, decide_eq_true_eq, Option.isNone_iff_eq_none] at hend
  obtain ⟨hhead, hgone⟩ := hend
  obtain ⟨past, hpast⟩ := List.head?_eq_some_iff.mp hhead
  refine ⟨j, past, hj, hpast, ?_⟩
  rintro ⟨g, hl, -⟩
  rw [hgone] at hl
  cases hl

end Journal

end SpellSessions
