/-
Requests: none is lost, handed over twice or answered twice.

That nothing happens to a request twice is its account (Account.lean). That
it is not left out has to be followed through rounds, for a round skips
requests. It skips them when a call of the same batch has failed; but the
failure drops all work of the link, so what is skipped is ongoing nowhere
any more (`due_move`). Hence what is ongoing on a live link has its call due
or made (`asked_of_wants`), and made when no call is in progress.
-/
import SpellSessions.Proofs.Account
import SpellSessions.Proofs.Batch

namespace SpellSessions

-- ========================================================= what is skipped

theorem Round.skips_next {r : Round} {f : Frame} (h : r.next? = some f) :
    f.round.skips = r.skips := by
  unfold Round.next? at h
  split at h
  · cases h
  · cases h
    rfl

/-- A call that is queued when a round goes on is skipped, begins, or stays
queued. -/
theorem Progress.Follows.queued {outer : List Frame} {r : Round}
    {p : Progress} (hp : p.Follows outer r) {c : Call} (hc : c ∈ r.queue) :
    r.skips c = true ∨ .called c ∈ p.sequel
      ∨ ∃ f ∈ p.machine.stack, c ∈ f.round.queue := by
  have hsplit : r.queue.takeWhile r.skips ++ r.queue.dropWhile r.skips
      = r.queue := List.takeWhile_append_dropWhile
  rw [← hsplit, List.mem_append] at hc
  unfold Progress.sequel
  rcases hc with hfront | hrest
  · exact .inl (List.all_eq_true.mp List.all_takeWhile c hfront)
  · cases hp with
    | begins f hnext hstack hreply =>
        rw [Round.next?_eq_some hnext, List.mem_cons] at hrest
        rw [hreply, hstack]
        rcases hrest with rfl | hrest
        · exact .inr (.inl (List.mem_singleton.mpr rfl))
        · exact .inr (.inr ⟨f, List.mem_cons_self, hrest⟩)
    | ends reply hnext hstack hreply =>
        unfold Round.next? at hnext
        split at hnext
        · next hqueue =>
            rw [hqueue] at hrest
            cases hrest
        · cases hnext

/-- What a transaction drops all work of is not live any more. -/
theorem Transaction.gone_dropWork {h : Host} (hb : h.groups.Busy)
    (l : Link) :
    ((Transaction.dropWork l).decision h).host.groups.live? l.provider
      l.token = none := by
  refine live?_of_idle hb rfl fun g hl => ?_
  obtain ⟨-, htoken⟩ := GroupTable.live?_eq_some_iff.mp hl
  have hleft : (Transaction.dropWork l).leaves h l.provider g = g.clear :=
    only_self _ htoken
  rw [hleft]
  rfl

namespace Journal

variable {j j' : Journal} {mv : Move} {f : Frame} {c : Call} {l : Link}
  {r : RequestId} {g : Group}

/-- A call in progress was next in its round. -/
theorem next_of_mem (hmove : j.move? mv = some j')
    (hf : f ∈ j'.machine.stack) :
    f ∈ j.machine.stack ∨ ∃ r : Round, r.next? = some f := by
  cases moved_of_move hmove with
  | entered around e p hheld htaken =>
      obtain ⟨-, manner, hp⟩ := Machine.enter_follows htaken
      exact (hp.mem_stack hf).imp_right fun hnext => ⟨_, hnext⟩
  | returned a f' outer p hstack hanswer =>
      obtain ⟨-, hp⟩ := Machine.answer_follows hstack hanswer
      rw [hstack]
      exact (hp.mem_stack hf).imp (List.mem_cons_of_mem _)
        fun hnext => ⟨_, hnext⟩
  | aside s hr => exact .inl hf

/-- A call in progress is not one that its round skips. -/
theorem Reached.not_skips (hj : j.Reached) (hf : f ∈ j.machine.stack) :
    f.round.skips f.call = false := by
  induction hj with
  | begin rule settings => cases hf
  | move mv hj hmove ih =>
      rcases next_of_mem hmove hf with hf | ⟨r, hnext⟩
      · exact ih hf
      · rw [Round.skips_next hnext]
        exact Round.not_skips_next hnext

/-- A request that is skipped when a call returns has lost its link by that
return. -/
theorem Reached.gone_of_skipped (hj : j.Reached) {a : Answer}
    (hf : f ∈ j.machine.stack) (hc : c ∈ f.round.queue)
    (hcreates : c.creates l = true)
    (hskips : (f.returned j.host a).2.skips c = true) :
    ((f.call.transaction a).decision j.host).host.groups.live? l.provider
      l.token = none := by
  have hcall := hj.creates_of_queued hf hc hcreates
  have hnot := hj.not_skips hf
  cases a with
  | accepted =>
      -- nothing failed, so the call in progress would have been skipped
      have hsame : (f.returned j.host .accepted).2 = f.round := by
        unfold Frame.returned
        cases f.call <;> rfl
      rw [hsame] at hskips
      have htoken : ∀ d : Call, d.creates l = true →
          f.round.skips d = f.round.failed.contains l.token := by
        intro d hd
        cases d with
        | create id t e r b =>
            have ht := (Bool.and_eq_true_iff.mp hd).2
            rw [← of_decide_eq_true ht]
            rfl
        | _ => cases hd
      rw [htoken c hcreates, ← htoken f.call hcall, hnot] at hskips
      cases hskips
  | declined reason =>
      cases hcase : f.call with
      | create id t e r b =>
          rw [hcase] at hcall
          obtain ⟨hid, ht⟩ := Bool.and_eq_true_iff.mp hcall
          rw [of_decide_eq_true hid, of_decide_eq_true ht]
          exact Transaction.gone_dropWork hj.busy l
      | _ =>
          rw [hcase] at hcall
          cases hcall

-- ======================================================= nothing is left out

/-- A request whose call is due stays so in a move, or its call begins, or
its link is lost. -/
theorem Reached.due_move (hj : j.Reached) (hmove : j.move? mv = some j')
    (hc : c ∈ j.ledger.due) (hcreates : c.creates l = true) :
    c ∈ j'.ledger.due ∨ .called c ∈ j'.past ∨ ¬ j'.IsLive l := by
  obtain ⟨f, hf, hqueued⟩ := queued_of_due hc
  cases moved_of_move hmove with
  | entered around e p hheld htaken =>
      obtain ⟨-, manner, hp⟩ := Machine.enter_follows htaken
      exact .inl (due_of_queued (hp.outer_suffix.subset hf) hqueued)
  | returned a f₀ outer p hstack hanswer =>
      obtain ⟨hhost, hp⟩ := Machine.answer_follows hstack hanswer
      have hmem := hf
      rw [hstack, List.mem_cons] at hmem
      rcases hmem with rfl | houter
      · have hqueue : c ∈ ((f.returned j.host a).2.append
            ((f.call.transaction a).decision j.host).calls).queue := by
          refine List.mem_append_left _ ?_
          rw [f.queue_returned]
          exact hqueued
        rcases hp.queued hqueue with hskips | hcalled | hdue
        · have hgone := hj.gone_of_skipped hf hqueued hcreates hskips
          refine .inr (.inr ?_)
          unfold IsLive
          replace hhost : (j.advance (.returned f.call a) p).host
              = ((f.call.transaction a).decision j.host).host := hhost
          rw [hhost, hgone]
          exact Bool.false_ne_true
        · exact .inr (.inl (List.mem_append_left _ hcalled))
        · exact .inl (List.mem_flatMap.mpr hdue)
      · exact .inl (due_of_queued (hp.outer_suffix.subset houter) hqueued)
  | aside s hr => exact .inl hc

/-- A move makes one transaction of the groups, and what that hands over is
due after the move, or begins with it. -/
theorem Reached.handed_over_move (hj : j.Reached)
    (hmove : j.move? mv = some j') :
    ∃ tx : Transaction, j'.host.Matches (tx.decision j.host).host
      ∧ ∀ c ∈ (tx.decision j.host).calls, c.creates l = true →
          c ∈ j'.ledger.due ∨ .called c ∈ j'.past := by
  cases moved_of_move hmove with
  | entered around e p hheld htaken =>
      refine ⟨_, matches_of_enter htaken, fun c hc _ => ?_⟩
      obtain ⟨-, manner, hp⟩ := Machine.enter_follows htaken
      have hcalls : (j.machine.service.enter around e).calls = _ :=
        Service.calls_enter e
      rcases hp.queued (c := c) (hcalls ▸ hc) with hskips | hcalled | hdue
      · rw [Round.skips, Round.start, List.contains_nil,
          Bool.and_false] at hskips
        cases hskips
      · exact .inr (List.mem_append_left _ hcalled)
      · exact .inl (List.mem_flatMap.mpr hdue)
  | returned a f outer p hstack hanswer =>
      refine ⟨_, matches_of_answer hstack hanswer, fun c hc hcreates => ?_⟩
      rw [Transaction.not_creates_of_return hj.busy hc l] at hcreates
      cases hcreates
  | aside s hr =>
      exact ⟨.stay, hr.matches, fun _ hc => absurd hc List.not_mem_nil⟩

/-- What is ongoing on a live link has its call due, or made. -/
theorem Reached.asked_of_wants (hj : j.Reached) (hwants : j.Wants l r) :
    ∃ c, c.asks l r = true ∧ (c ∈ j.ledger.due ∨ .called c ∈ j.past) := by
  induction hj with
  | begin rule settings =>
      obtain ⟨g, hl, -⟩ := hwants
      cases hl
  | @move j j' mv hj hmove ih =>
      obtain ⟨g', hl', hongoing⟩ := hwants
      have hlive : j'.IsLive l := Option.isSome_iff_exists.mpr ⟨g', hl'⟩
      obtain ⟨tx, hhost, hcalls⟩ := hj.handed_over_move hmove
      rw [hhost.live?] at hl'
      rcases Transaction.ongoing_origin hj.busy hl' hongoing with
        hbefore | ⟨c, hc, hasks⟩
      · obtain ⟨c, hasks, hdue | hcalled⟩ := ih hbefore
        · have hcreates := Call.creates_of_asks hasks
          rcases hj.due_move hmove hdue hcreates with hdue | hcalled | hgone
          · exact ⟨c, hasks, .inl hdue⟩
          · exact ⟨c, hasks, .inr hcalled⟩
          · exact absurd hlive hgone
        · exact ⟨c, hasks, .inr ((past_of_move hmove).subset hcalled)⟩
      · exact ⟨c, hasks, hcalls c hc (Call.creates_of_asks hasks)⟩

-- ============================================================ on the whole

theorem held_of_request (hl : j.host.groups.live? l.provider l.token = some g)
    {n : NumberedRequest} (hn : n ∈ g.requests) :
    0 < j.host.groups.held l n.id := by
  unfold GroupTable.held
  rw [hl]
  exact Group.held_pos_iff.mpr ⟨n, hn, rfl⟩

theorem concerns_of_request
    (hl : j.host.groups.live? l.provider l.token = some g)
    {n : NumberedRequest} (hn : n ∈ g.requests) :
    j.ledger.Concerns l n.id :=
  Nat.lt_of_lt_of_le (held_of_request hl hn)
    (Nat.le_add_right_of_le (Nat.le_add_right _ _))

/-- The requests that the live groups hold are distinct. -/
theorem Reached.requests_nodup (hj : j.Reached) :
    (j.host.groups.entries.flatMap
      fun e => e.2.requests.map (·.id)).Nodup := by
  have hb := hj.ledger
  have hconcerns : ∀ e ∈ j.host.groups.entries,
      ∀ r ∈ e.2.requests.map (·.id),
        j.ledger.Concerns ⟨e.1, e.2.token⟩ r := by
    intro e he r hr
    obtain ⟨n, hn, rfl⟩ := List.mem_map.mp hr
    exact concerns_of_request (GroupTable.live?_eq_some_iff.mpr ⟨he, rfl⟩) hn
  unfold List.Nodup
  rw [List.pairwise_flatMap]
  constructor
  · intro e he
    refine List.pairwise_map.mpr ?_
    refine (hb.arrived e he).ascending.imp fun {m n} hlt heq => ?_
    rw [heq] at hlt
    exact Nat.lt_irrefl _ hlt
  · have hdistinct := List.pairwise_map.mp j.host.groups.distinct
    refine hdistinct.imp_of_mem fun {d e} hd he hne r hr r' hr' heq => hne ?_
    have hr₂ := hconcerns e he r' hr'
    rw [← heq] at hr₂
    exact congrArg Link.provider
      (hb.link_of_request (hconcerns d hd r hr) hr₂)

/-- What waits was not handed over. -/
theorem Reached.not_handed_over (hj : j.Reached)
    (hl : j.host.groups.live? l.provider l.token = some g)
    {n : NumberedRequest} (hn : n ∈ g.pending) :
    j.ledger.made (·.handsOver n.id) = 0 := by
  have hwaits : 0 < j.ledger.host.groups.waiting l n.id := by
    show 0 < j.host.groups.waiting l n.id
    unfold GroupTable.waiting
    rw [hl]
    exact List.countP_pos_iff.mpr ⟨n, hn, decide_eq_true rfl⟩
  have honce := (hj.ledger.asked_once l n.id).1
  have hlink := hj.ledger.made_handsOver
    (concerns_of_request hl (List.mem_append_right _ hn))
  omega

/-- What is ongoing when no call is in progress was handed over, and its
owner was not told. -/
theorem Reached.handed_over (hj : j.Reached) (hstack : j.machine.stack = [])
    (hl : j.host.groups.live? l.provider l.token = some g)
    {n : NumberedRequest} (hn : n ∈ g.ongoing) :
    j.ledger.made (·.handsOver n.id) = 1
      ∧ j.ledger.made (·.tells n.id) = 0 := by
  have hrequest : n ∈ g.requests := List.mem_append_left _ hn
  have hmade : 0 < j.ledger.made (·.handsOver n.id) := by
    obtain ⟨c, hasks, hdue | hcalled⟩ := hj.asked_of_wants ⟨g, hl, n, hn, rfl⟩
    · obtain ⟨f, hf, -⟩ := queued_of_due hdue
      rw [hstack] at hf
      cases hf
    · exact Ledger.made_pos_iff.mpr
        ⟨c, Call.handsOver_of_asks hasks, hcalled⟩
  have hheld : 0 < j.ledger.host.groups.held l n.id :=
    held_of_request hl hrequest
  have hover := hj.ledger.handed_over_once n.id
  have htold := (hj.ledger.told_once l n.id).1
  have hle := hj.ledger.tells_le (concerns_of_request hl hrequest)
  omega

/-- No request is lost, handed over twice or answered twice. The requests of
the live groups are distinct; each is handed over once at most, and its
owner told once at most and afterwards; and when no call is in progress,
what waits was not handed over, what is ongoing was, with its owner still to
be told, and nothing waits for a provider that is connected. -/
theorem requests_handled_once (hj : j.Reached) :
    (j.host.groups.entries.flatMap fun e => e.2.requests.map (·.id)).Nodup
      ∧ (∀ r, j.past.countP (·.calls (·.handsOver r)) ≤ 1
          ∧ j.past.countP (·.calls (·.tells r)) ≤ 1)
      ∧ (∀ later earlier c r, j.past = later ++ .called c :: earlier →
          c.tells r = true →
            ∃ d, d.handsOver r = true ∧ .called d ∈ earlier)
      ∧ (j.machine.stack = [] →
          ∀ id g, j.host.groups.find? id = some g →
            (∀ n ∈ g.pending,
              j.past.countP (·.calls (·.handsOver n.id)) = 0)
            ∧ (∀ n ∈ g.ongoing,
                j.past.countP (·.calls (·.handsOver n.id)) = 1
                  ∧ j.past.countP (·.calls (·.tells n.id)) = 0)
            ∧ (g.endpoint.isSome = true → g.pending = [])) := by
  have hb := hj.ledger
  refine ⟨hj.requests_nodup, ?_, ?_, ?_⟩
  · exact fun r => ⟨hb.handed_over_once r, hb.owner_told_once r⟩
  · intro later earlier c r hpast htells
    obtain ⟨l, htellsOn⟩ := Call.tellsOn_of_tells htells
    obtain ⟨d, hasks, hd⟩ := hb.told_after_handed_over hpast htellsOn
    exact ⟨d, Call.handsOver_of_asks hasks, hd⟩
  · intro hstack id g hg
    have he := GroupTable.find?_eq_some_iff.mp hg
    have hl : j.host.groups.live? id g.token = some g :=
      GroupTable.live?_of_find? hg
    refine ⟨fun n hn => ?_, fun n hn => ?_, (hb.arrived _ he).drained⟩
    · exact hj.not_handed_over (l := ⟨id, g.token⟩) hl hn
    · exact hj.handed_over (l := ⟨id, g.token⟩) hstack hl hn

end Journal

/-- Both requests of the batch are handed over, and the provider answers the
first. -/
def Sample.answered : List Move :=
  batch ++ [.answer .accepted, .answer .accepted,
    .enter (around [descriptor])
      (.callback (.delivered ⟨"p", ⟨1⟩, ⟨1⟩⟩ (some ⟨"x"⟩))),
    .answer .accepted]

/-- The request that is still ongoing was handed over, and its owner was not
told. -/
theorem Journal.second_request_ongoing :
    ∃ j, Sample.start.after? Sample.answered = some j
      ∧ j.past.countP (·.calls (·.handsOver ⟨2⟩)) = 1
      ∧ j.past.countP (·.calls (·.tells ⟨2⟩)) = 0 := by
  obtain ⟨j, hj, hend⟩ := (Option.any_eq_true
    (fun j : Journal => decide (j.machine.stack = [])
      && (j.host.groups.find? "p").any (·.ongoing.any (·.id = ⟨2⟩))) _).mp
    (show (Sample.start.after? Sample.answered).any _ = true from rfl)
  rw [Bool.and_eq_true, decide_eq_true_eq, Option.any_eq_true] at hend
  obtain ⟨hstack, g, hg, hongoing⟩ := hend
  obtain ⟨n, hn, hid⟩ := List.any_eq_true.mp hongoing
  have hsettled :=
    (requests_handled_once (Reached.of_after hj)).2.2.2 hstack "p" g hg
  have hhanded := hsettled.2.1 n hn
  rw [of_decide_eq_true hid] at hhanded
  exact ⟨j, hj, hhanded⟩

end SpellSessions
