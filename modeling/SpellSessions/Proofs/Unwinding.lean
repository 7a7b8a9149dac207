/-
Unwinding: how an entry is answered once its calls have returned.

An entry that owes calls is answered when the last of them has returned,
however deep the run goes in the meantime: other entries, and the calls that
they owe, come and go above its own call and leave it where it is
(`suffix_or_answer`). What the answer says depends on the entry's own calls
alone. A round without a call to connect ends well, whatever its calls
return (`done_of_unwind`); a call to connect is the first of its round, and
its return decides (`connect_of_unwind`). It takes that no round in progress
has a refusal yet (`Reached.refusal_eq_none`): the refusal of a connection
ends the round at once. So a round that would only log a refusal never has
one to log (`Reached.closing_eq_nil`).
-/
import SpellSessions.Proofs.Admission

namespace SpellSessions

-- ============================================================= one round

theorem Round.refusal_next {r : Round} {f : Frame} (h : r.next? = some f) :
    f.round.refusal = r.refusal := by
  unfold Round.next? at h
  split at h
  · cases h
  · cases h
    rfl

theorem Round.reply_of_no_refusal {r : Round} (h : r.refusal = none) :
    r.reply = .done := by
  cases hmanner : r.manner <;> simp [Round.reply, hmanner, h]

theorem Round.closing_of_no_refusal {r : Round} (h : r.refusal = none) :
    r.closing = [] := by
  cases hmanner : r.manner <;> simp [Round.closing, hmanner, h]

/-- Whether the return of a call is the refusal of a connection. -/
def Call.isRefusedBy : Call → Answer → Bool
  | .connect _ _, .declined _ => true
  | _, _ => false

theorem Call.isRefusedBy_iff {c : Call} {a : Answer} :
    c.isRefusedBy a = true
      ↔ ∃ p t reason, c = .connect p t ∧ a = .declined reason := by
  constructor
  · intro h
    cases c with
    | connect p t =>
        cases a with
        | accepted => cases h
        | declined reason => exact ⟨p, t, reason, rfl, rfl⟩
    | _ => cases a <;> cases h
  · intro h
    obtain ⟨p, t, reason, rfl, rfl⟩ := h
    rfl

/-- Only a refused connection leaves a refusal in its round. -/
theorem Frame.refusal_returned (f : Frame) (h : Host) {a : Answer}
    (hnot : f.call.isRefusedBy a = false) :
    (f.returned h a).2.refusal = f.round.refusal := by
  unfold Frame.returned
  cases a with
  | accepted => cases f.call <;> rfl
  | declined reason =>
      cases hcall : f.call with
      | connect p t =>
          rw [hcall] at hnot
          cases hnot
      | _ => rfl

namespace Machine

variable {m : Machine} {p : Progress} {reply : Reply}

theorem reply_proceed (r : Round) (events : List Event)
    (h : (m.proceed r events).reply = some reply) : reply = r.reply := by
  unfold proceed at h
  cases hnext : r.next? with
  | some f =>
      rw [hnext] at h
      cases h
  | none =>
      rw [hnext] at h
      exact (Option.some.inj h).symm

/-- The reply at the end of a round that goes on after a return. -/
theorem reply_of_answer {a : Answer} {f : Frame} {outer : List Frame}
    (hstack : m.stack = f :: outer) (h : m.answer a = some p)
    (hreply : p.reply = some reply) :
    reply = (f.returned m.service.host a).2.reply := by
  unfold answer at h
  rw [hstack] at h
  cases h
  have hlast := reply_proceed _ _ hreply
  exact hlast

/-- A turn that is taken is answered on the spot, owes nothing, or makes the
first call that it owes. -/
theorem enter_cases {around : Surroundings} {e : Entry}
    (h : m.enter around e = .taken p) :
    (∃ r, (m.service.enter around e).verdict = .replied r
        ∧ p.machine.stack = m.stack ∧ p.reply = some r)
      ∨ (p.machine.stack = m.stack ∧ p.reply = some .done)
      ∨ ∃ f, f.call ∈ (m.service.enter around e).calls
          ∧ p.machine.stack = f :: m.stack := by
  obtain ⟨-, manner, hfollows⟩ := enter_follows h
  cases hfollows with
  | begins f hnext hstack hreply =>
      exact .inr (.inr ⟨f, Round.mem_of_next hnext, hstack⟩)
  | ends reply hnext hstack hreply =>
      unfold enter at h
      dsimp only at h
      split at h
      · next r hverdict =>
          cases h
          exact .inl ⟨r, hverdict, rfl, rfl⟩
      · next calls manner' hverdict =>
          cases h
          have hdone := reply_proceed (.start calls manner') _ hreply
          rw [Round.reply_of_no_refusal rfl] at hdone
          rw [hdone] at hreply
          exact .inr (.inl ⟨hstack, hreply⟩)
      · cases h

end Machine

namespace Journal

variable {j j' k : Journal} {mv : Move} {moves : List Move} {depth : Nat}
  {f : Frame} {outer : List Frame} {p : Provider} {t : Token}

-- ============================================================= unwinding

/-- The journal after moves in turn, while more than the given number of
calls are in progress, up to the moment at which no more than that are. -/
def unwind? (depth : Nat) (j : Journal) : List Move → Option Journal
  | [] => if j.machine.stack.length ≤ depth then some j else none
  | mv :: rest =>
    if j.machine.stack.length ≤ depth then none
    else (j.move? mv).bind (·.unwind? depth rest)

theorem leads_of_unwind (h : j.unwind? depth moves = some k) :
    j.Leads k := by
  induction moves generalizing j with
  | nil =>
      unfold unwind? at h
      split at h
      · cases h
        exact .here
      · cases h
  | cons mv rest ih =>
      unfold unwind? at h
      split at h
      · cases h
      · obtain ⟨j', hmove, hrest⟩ := Option.bind_eq_some_iff.mp h
        exact Leads.trans (.move mv .here hmove) (ih hrest)

/-- Where nothing is left to unwind, no move is made. -/
theorem eq_of_unwind (hstack : j.machine.stack = outer)
    (h : j.unwind? outer.length moves = some k) : k = j := by
  subst hstack
  cases moves with
  | nil =>
      simp only [unwind?, Nat.le_refl, if_true] at h
      exact (Option.some.inj h).symm
  | cons mv rest => simp [unwind?] at h

theorem not_le_of_suffix (hs : f :: outer <:+ j.machine.stack) :
    ¬ j.machine.stack.length ≤ outer.length := by
  have hlength := hs.length_le
  rw [List.length_cons] at hlength
  omega

/-- A call in progress stays where it is until it returns itself. -/
theorem suffix_or_answer (hs : f :: outer <:+ j.machine.stack)
    (hmove : j.move? mv = some j') :
    f :: outer <:+ j'.machine.stack
      ∨ ∃ a, mv = .answer a ∧ j.machine.stack = f :: outer := by
  cases mv with
  | enter around e =>
      obtain ⟨q, hheld, htaken, rfl⟩ := advance_of_enter hmove
      obtain ⟨-, manner, hfollows⟩ := Machine.enter_follows htaken
      exact .inl (hs.trans hfollows.outer_suffix)
  | answer a =>
      obtain ⟨f₀, outer₀, q, hstack, hanswer, rfl⟩ := advance_of_answer hmove
      obtain ⟨-, hfollows⟩ := Machine.answer_follows hstack hanswer
      rw [hstack, List.suffix_cons_iff] at hs
      rcases hs with heq | hbelow
      · exact .inr ⟨a, rfl, heq ▸ hstack⟩
      · exact .inl (hbelow.trans hfollows.outer_suffix)
  | store settings | reorder groups =>
      obtain ⟨s, -, rfl⟩ := reorders_of_aside rfl hmove
      exact .inl hs

-- ====================================================== a call that returns

/-- The reply that a move ends in is what happened last. -/
theorem past_of_reply {q : Progress} {cause : Moment} {reply : Reply}
    (h : q.reply = some reply) :
    (j.advance cause q).past = .replied reply :: cause :: j.past := by
  simp [advance, Progress.sequel, h]

/-- After a return that refuses no connection the round is over or makes
another call, which is no call to connect. -/
theorem Reached.returned_cases (hj : j.Reached) {a : Answer}
    (hstack : j.machine.stack = f :: outer)
    (hrefusal : f.round.refusal = none)
    (hnot : f.call.isRefusedBy a = false)
    (hmove : j.move? (.answer a) = some j') :
    (j'.machine.stack = outer
        ∧ j'.past = .replied .done :: .returned f.call a :: j.past)
      ∨ ∃ f', j'.machine.stack = f' :: outer
          ∧ f'.round.refusal = none ∧ ∀ p t, f'.call ≠ .connect p t := by
  obtain ⟨f₀, outer₀, q, hstack', hanswer, rfl⟩ := advance_of_answer hmove
  cases hstack.symm.trans hstack'
  obtain ⟨-, hfollows⟩ := Machine.answer_follows hstack hanswer
  have hkept := f.refusal_returned j.host hnot
  rw [hrefusal] at hkept
  cases hfollows with
  | begins f' hnext hbegun hreply =>
      right
      refine ⟨f', hbegun, (Round.refusal_next hnext).trans hkept, ?_⟩
      intro p t hcall
      have hmem := Round.mem_of_next hnext
      unfold Round.append at hmem
      rw [f.queue_returned, hcall] at hmem
      rcases List.mem_append.mp hmem with hqueued | hnew
      · exact hj.not_connect_queued (hstack ▸ List.mem_cons_self) hqueued rfl
      · cases Transaction.isDisconnect_of_return hj.busy hnew
  | ends reply hnext hover hreply =>
      left
      have hdone : reply = .done :=
        (Machine.reply_of_answer hstack hanswer hreply).trans
          (Round.reply_of_no_refusal hkept)
      exact ⟨hover, past_of_reply (hdone ▸ hreply)⟩

/-- The refusal of a connection ends the entry that asked for it. -/
theorem Reached.refused_cases (hj : j.Reached) {reason : String}
    (hstack : j.machine.stack = f :: outer) (hcall : f.call = .connect p t)
    (hmove : j.move? (.answer (.declined reason)) = some j') :
    j'.machine.stack = outer
      ∧ j'.past = .replied (.refused (.connectRefused ⟨p.id, reason⟩))
        :: .returned (.connect p t) (.declined reason) :: j.past := by
  have hs : f :: outer <:+ j.machine.stack :=
    hstack ▸ List.suffix_refl (f :: outer)
  obtain ⟨n, ho⟩ := hj.opening_of_connect hs hcall
  obtain ⟨p', outer', -, hframes⟩ := ho.frames_eq
  cases hframes
  cases hcall
  obtain ⟨f₀, outer₀, q, hstack', hanswer, rfl⟩ := advance_of_answer hmove
  cases hstack.symm.trans hstack'
  obtain ⟨q₁, hanswer₁, -, hover, hreply⟩ :=
    Machine.answer_refused hj.busy hstack reason
  cases hanswer₁.symm.trans hanswer
  exact ⟨hover, past_of_reply hreply⟩

/-- No round in progress has a refusal: the refusal of a connection ends its
round. -/
theorem Reached.refusal_eq_none (hj : j.Reached)
    (hf : f ∈ j.machine.stack) : f.round.refusal = none := by
  induction hj generalizing f with
  | begin rule settings => cases hf
  | @move j j' mv hj hmove ih =>
      cases mv with
      | enter around e =>
          obtain ⟨q, hheld, htaken, rfl⟩ := advance_of_enter hmove
          obtain ⟨-, manner, hfollows⟩ := Machine.enter_follows htaken
          rcases hfollows.mem_stack hf with hbefore | hnext
          · exact ih hbefore
          · exact Round.refusal_next hnext
      | answer a =>
          obtain ⟨f₀, outer, q, hstack, -, -⟩ := advance_of_answer hmove
          have hbelow : ∀ f ∈ outer, f.round.refusal = none := by
            intro f hf
            apply ih
            simp [hstack, hf]
          cases hrefused : f₀.call.isRefusedBy a with
          | true =>
              obtain ⟨p, t, reason, hcall, rfl⟩ :=
                Call.isRefusedBy_iff.mp hrefused
              obtain ⟨hover, -⟩ := hj.refused_cases hstack hcall hmove
              rw [hover] at hf
              exact hbelow f hf
          | false =>
              have hf₀ := ih (hstack ▸ List.mem_cons_self)
              rcases hj.returned_cases hstack hf₀ hrefused hmove with
                ⟨hover, -⟩ | ⟨f', hbegun, hrefusal, -⟩
              · rw [hover] at hf
                exact hbelow f hf
              · rw [hbegun] at hf
                rcases List.mem_cons.mp hf with rfl | hf
                · exact hrefusal
                · exact hbelow f hf
      | store settings | reorder groups =>
          obtain ⟨s, -, rfl⟩ := reorders_of_aside rfl hmove
          exact ih hf

/-- A round that goes on after a return has no refusal that would only be
logged. -/
theorem Reached.closing_eq_nil (hj : j.Reached)
    (hf : f ∈ j.machine.stack) (a : Answer) :
    (f.returned j.host a).2.closing = [] := by
  cases hrefused : f.call.isRefusedBy a with
  | true =>
      obtain ⟨p, t, reason, hcall, rfl⟩ := Call.isRefusedBy_iff.mp hrefused
      obtain ⟨inner, outer, hstack⟩ := List.append_of_mem hf
      obtain ⟨n, ho⟩ := hj.opening_of_connect ⟨inner, hstack.symm⟩ hcall
      obtain ⟨p', outer', -, hframes⟩ := ho.frames_eq
      cases hframes
      rfl
  | false =>
      apply Round.closing_of_no_refusal
      rw [f.refusal_returned j.host hrefused]
      exact hj.refusal_eq_none hf

-- ================================================ an entry in its calls

/-- Where the call in progress is no call to connect, its entry ends
well. -/
theorem Reached.done_of_unwind (hj : j.Reached)
    (hs : f :: outer <:+ j.machine.stack)
    (hcall : ∀ p t, f.call ≠ .connect p t)
    (hrun : j.unwind? outer.length moves = some k) :
    k.machine.stack = outer ∧ ∃ past, k.past = .replied .done :: past := by
  induction moves generalizing j f with
  | nil =>
      unfold unwind? at hrun
      rw [if_neg (not_le_of_suffix hs)] at hrun
      cases hrun
  | cons mv rest ih =>
      unfold unwind? at hrun
      rw [if_neg (not_le_of_suffix hs)] at hrun
      obtain ⟨j', hmove, hrest⟩ := Option.bind_eq_some_iff.mp hrun
      have hj' := hj.move mv hmove
      rcases suffix_or_answer hs hmove with hs' | ⟨a, rfl, hstack⟩
      · exact ih hj' hs' hcall hrest
      have hnot : f.call.isRefusedBy a = false := by
        rw [Bool.eq_false_iff]
        intro hrefused
        obtain ⟨p, t, -, hconnect, -⟩ := Call.isRefusedBy_iff.mp hrefused
        exact hcall p t hconnect
      have hrefusal := hj.refusal_eq_none (hstack ▸ List.mem_cons_self)
      rcases hj.returned_cases hstack hrefusal hnot hmove with
        ⟨hover, hpast⟩ | ⟨f', hbegun, -, hcall'⟩
      · cases eq_of_unwind hover hrest
        exact ⟨hover, _, hpast⟩
      · exact ih hj' (hbegun ▸ List.suffix_refl _) hcall' hrest

/-- Where the call in progress is a call to connect, its return decides how
its entry ends. -/
theorem Reached.connect_of_unwind (hj : j.Reached)
    (hs : f :: outer <:+ j.machine.stack) (hcall : f.call = .connect p t)
    (hrun : j.unwind? outer.length moves = some k) :
    k.machine.stack = outer
      ∧ ∃ reply past, k.past = .replied reply :: past
        ∧ (reply = .done
              ∧ .returned (.connect p t) .accepted ∈ k.past
            ∨ ∃ reason, reply = .refused (.connectRefused ⟨p.id, reason⟩)
              ∧ .returned (.connect p t) (.declined reason) ∈ k.past) := by
  induction moves generalizing j with
  | nil =>
      unfold unwind? at hrun
      rw [if_neg (not_le_of_suffix hs)] at hrun
      cases hrun
  | cons mv rest ih =>
      unfold unwind? at hrun
      rw [if_neg (not_le_of_suffix hs)] at hrun
      obtain ⟨j', hmove, hrest⟩ := Option.bind_eq_some_iff.mp hrun
      have hj' := hj.move mv hmove
      rcases suffix_or_answer hs hmove with hs' | ⟨a, rfl, hstack⟩
      · exact ih hj' hs' hrest
      cases a with
      | declined reason =>
          obtain ⟨hover, hpast⟩ := hj.refused_cases hstack hcall hmove
          cases eq_of_unwind hover hrest
          refine ⟨hover, _, _, hpast, .inr ⟨reason, rfl, ?_⟩⟩
          simp [hpast]
      | accepted =>
          have hnot : f.call.isRefusedBy .accepted = false := by
            simp [Call.isRefusedBy, hcall]
          have hreturned : .returned (.connect p t) .accepted ∈ j'.past := by
            obtain ⟨f₀, outer₀, q, hstack', -, rfl⟩ := advance_of_answer hmove
            cases hstack.symm.trans hstack'
            simp [advance, hcall]
          have hrefusal := hj.refusal_eq_none (hstack ▸ List.mem_cons_self)
          rcases hj.returned_cases hstack hrefusal hnot hmove with
            ⟨hover, hpast⟩ | ⟨f', hbegun, -, hcall'⟩
          · cases eq_of_unwind hover hrest
            exact ⟨hover, .done, _, hpast, .inl ⟨rfl, hreturned⟩⟩
          · obtain ⟨hover, past, hpast⟩ := hj'.done_of_unwind
              (hbegun ▸ List.suffix_refl _) hcall' hrest
            have hlater := past_of_leads (leads_of_unwind hrest)
            exact ⟨hover, .done, past, hpast,
              .inl ⟨rfl, hlater.subset hreturned⟩⟩

end Journal

end SpellSessions
