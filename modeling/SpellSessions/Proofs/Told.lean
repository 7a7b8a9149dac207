/-
Told: when an owner is told of a session, and when never again.

One move tells an owner, the answer of the provider to a request that is
ongoing (`told_move`), and the listener of the request is registered by the
same move and by no other (`registered_move`). The call that tells an owner
is never queued, so it begins in the turn that owes it. A request that was
given out and that no group holds is therefore done with: no group holds it
ever again, and nobody is told of it any more (`forgotten`).
-/
import SpellSessions.Proofs.Agenda
import SpellSessions.Proofs.Batch
import SpellSessions.Proofs.Transaction.Origin

namespace SpellSessions

-- ====================================================== what was given out

namespace Ledger

variable {b b' : Ledger} {l : Link} {r : RequestId}

/-- Of a request that was given out, nothing is added to what is held, due
to be told or told. -/
theorem Leads.told_le (hb : b.Reached) (h : b.Leads b')
    (hr : r.number ≤ b.host.requests) :
    b'.host.groups.held l r + b'.due.countP (·.tellsOn l r)
        + b'.made (·.tellsOn l r)
      ≤ b.host.groups.held l r + b.due.countP (·.tellsOn l r)
        + b.made (·.tellsOn l r) := by
  induction h with
  | here => exact Nat.le_refl _
  | @step b₁ b₂ hleads hstep ih =>
      have hb₁ := hb.leads hleads
      obtain ⟨tx, htx⟩ := hstep.transacts
      have hcounted := htx.counted (·.tellsOn l r)
      have hheld := tx.held_decision (l := l) (r := r) hb₁.busy
      have hgiven := hleads.requests_le
      have hold : ¬ (tx.joins b₁.host = some l ∧ r = b₁.host.freshRequest) := by
        intro hnew
        have hnumber : r.number = b₁.host.requests + 1 :=
          congrArg RequestId.number hnew.2
        omega
      rw [if_neg hold] at hheld
      rw [GroupTable.held_of_perm htx.host.entries]
      omega

/-- A request that was given out belongs to no link that it did not belong
to before. -/
theorem Leads.concerns (hb : b.Reached) (h : b.Leads b')
    (hr : r.number ≤ b.host.requests) (hlink : b'.Concerns l r) :
    b.Concerns l r := by
  induction h with
  | here => exact hlink
  | @step b₁ b₂ hleads hstep ih =>
      obtain ⟨tx, htx⟩ := hstep.transacts
      rcases htx.concerns (hb.leads hleads) hlink with hold | ⟨-, rfl⟩
      · exact ih hold
      · have hgiven := hleads.requests_le
        exact absurd hr (Nat.not_le_of_lt (Nat.lt_succ_of_le hgiven))

end Ledger

namespace Journal

variable {j j' k k' : Journal} {mv : Move} {c : Call} {id : ProviderId}
  {t : Token} {r : RequestId} {owner : Owner} {listener : ListenerId}
  {session : Option Session} {l : Link}

-- ============================================================ what began

/-- A call began after the moment of a journal. -/
def CalledSince (j k : Journal) (c : Call) : Prop :=
  ∃ later, k.past = later ++ j.past ∧ .called c ∈ later

theorem CalledSince.leads (h : j.CalledSince k c) (hleads : k.Leads k') :
    j.CalledSince k' c := by
  obtain ⟨later, hpast, hc⟩ := h
  obtain ⟨latest, hpast'⟩ := past_of_leads hleads
  refine ⟨latest ++ later, ?_, List.mem_append_right _ hc⟩
  rw [List.append_assoc, ← hpast, hpast']

theorem CalledSince.of_leads (hleads : j.Leads k) (h : k.CalledSince k' c) :
    j.CalledSince k' c := by
  obtain ⟨latest, hpast', hc⟩ := h
  obtain ⟨later, hpast⟩ := past_of_leads hleads
  refine ⟨latest ++ later, ?_, List.mem_append_left _ hc⟩
  rw [List.append_assoc, hpast, hpast']

/-- What began in a run of two parts began in one of them. -/
theorem CalledSince.cases_leads (hleads : j.Leads j')
    (hleads' : j'.Leads k) (h : j.CalledSince k c) :
    j.CalledSince j' c ∨ j'.CalledSince k c := by
  obtain ⟨all, hpast, hc⟩ := h
  obtain ⟨first, hfirst⟩ := past_of_leads hleads
  obtain ⟨second, hsecond⟩ := past_of_leads hleads'
  have hall : all = second ++ first := by
    rw [← hfirst, ← List.append_assoc, hpast] at hsecond
    exact (List.append_cancel_right hsecond).symm
  rw [hall, List.mem_append] at hc
  rcases hc with hc | hc
  · exact .inr ⟨second, hsecond.symm, hc⟩
  · exact .inl ⟨first, hfirst.symm, hc⟩

/-- What begins when a round goes on is next in the round. -/
theorem next_of_sequel {outer : List Frame} {round : Round} {p : Progress}
    (hp : p.Follows outer round) (hc : .called c ∈ p.sequel) :
    ∃ f, round.next? = some f ∧ f.call = c := by
  unfold Progress.sequel at hc
  cases hp with
  | begins f hnext hstack hreply =>
      rw [hstack, hreply] at hc
      cases List.mem_singleton.mp hc
      exact ⟨f, hnext, rfl⟩
  | ends reply hnext hstack hreply =>
      rw [hreply] at hc
      cases List.mem_singleton.mp hc

/-- A call that begins in a move is one that the entry owes, or goes on in
the round of a call that returned. -/
theorem CalledSince.due_of_move (hmove : j.move? mv = some j')
    (h : j.CalledSince j' c) :
    (∃ around e, mv = .enter around e
        ∧ c ∈ ((e.transaction j.machine.service around).decision
            j.host).calls)
      ∨ ∃ f a, f ∈ j.machine.stack ∧ mv = .answer a
          ∧ c ∈ f.round.queue
            ++ ((f.call.transaction a).decision j.host).calls := by
  obtain ⟨later, hpast, hc⟩ := h
  cases mv with
  | enter around e =>
      obtain ⟨p, hheld, htaken, rfl⟩ := advance_of_enter hmove
      obtain ⟨-, manner, hfollows⟩ := Machine.enter_follows htaken
      have hlater : later = p.sequel ++ [.entered e] := by
        refine List.append_cancel_right (hpast.symm.trans ?_)
        exact (List.append_assoc p.sequel [.entered e] j.past).symm
      rw [hlater, List.mem_append] at hc
      rcases hc with hc | hc
      · obtain ⟨f, hnext, rfl⟩ := next_of_sequel hfollows hc
        have hmem := Round.mem_of_next hnext
        replace hmem : f.call ∈ (j.machine.service.enter around e).calls :=
          hmem
        rw [Service.calls_enter] at hmem
        exact .inl ⟨around, e, rfl, hmem⟩
      · cases List.mem_singleton.mp hc
  | answer a =>
      obtain ⟨f, outer, p, hstack, hanswer, rfl⟩ := advance_of_answer hmove
      obtain ⟨-, hfollows⟩ := Machine.answer_follows hstack hanswer
      have hlater : later = p.sequel ++ [.returned f.call a] := by
        refine List.append_cancel_right (hpast.symm.trans ?_)
        exact (List.append_assoc p.sequel [.returned f.call a] j.past).symm
      rw [hlater, List.mem_append] at hc
      rcases hc with hc | hc
      · obtain ⟨f', hnext, rfl⟩ := next_of_sequel hfollows hc
        have hmem := Round.mem_of_next hnext
        unfold Round.append at hmem
        rw [f.queue_returned] at hmem
        exact .inr ⟨f, a, hstack ▸ List.mem_cons_self, rfl, hmem⟩
      · cases List.mem_singleton.mp hc
  | store settings | reorder groups =>
      obtain ⟨s, -, rfl⟩ := reorders_of_aside rfl hmove
      have hnone : later = [] := List.self_eq_append_left.mp hpast
      rw [hnone] at hc
      cases hc

-- =========================================================== who is told

/-- No call that tells an owner is queued. -/
theorem Reached.not_told_queued (hj : j.Reached) {f : Frame}
    (hf : f ∈ j.machine.stack) (hc : c ∈ f.round.queue) (l : Link) :
    c.tellsOn l r = false := by
  rcases hj.kind_of_queued hf hc with hcreate | hdisconnect
  · cases c with
    | create id t e r' b => rfl
    | _ => cases hcreate
  · cases c with
    | disconnect id t => rfl
    | _ => cases hdisconnect

/-- A move that tells an owner is the answer to a request that was ongoing,
and the owner is told by the first call that the answer owes. -/
theorem Reached.told_move (hj : j.Reached) (hmove : j.move? mv = some j')
    (hc : j.CalledSince j' (.notify id t r owner listener session)) :
    (∃ around, mv
        = .enter around (.callback (.delivered ⟨id, t, r⟩ session)))
      ∧ ∃ g n, j.host.groups.live? id t = some g ∧ n ∈ g.ongoing
          ∧ n.id = r ∧ n.request.owner = owner
          ∧ n.request.listener = listener := by
  rcases hc.due_of_move hmove with
    ⟨around, e, rfl, hdue⟩ | ⟨f, a, hf, rfl, hdue⟩
  · obtain ⟨htx, g, n, hl, hn, howner, hlistener⟩ :=
      Transaction.answer_of_told hj.busy hdue
    have he : e = .callback (.delivered ⟨id, t, r⟩ session) :=
      Entry.callback_of_transaction htx
    have hid := List.find?_some hn
    exact ⟨⟨around, congrArg _ he⟩, g, n, hl, List.mem_of_find?_eq_some hn,
      of_decide_eq_true hid, howner, hlistener⟩
  · exfalso
    rcases List.mem_append.mp hdue with hqueued | hnew
    · have hnot := hj.not_told_queued (r := r) hf hqueued ⟨id, t⟩
      simp [Call.tellsOn] at hnot
    · cases Transaction.isDisconnect_of_return hj.busy hnew

/-- A listener is registered on a link. -/
def Registers (j : Journal) (l : Link) (x : ListenerId) : Prop :=
  ∃ g, j.host.groups.live? l.provider l.token = some g ∧ x ∈ g.listeners

/-- A listener that is registered after a transaction was registered before,
or an answer that the transaction makes registers it. -/
theorem Reached.registered_decision (hj : j.Reached) {tx : Transaction}
    (hhost : j'.host.Matches (tx.decision j.host).host)
    (h : j'.Registers l listener) :
    j.Registers l listener
      ∨ ∃ g n session, j.host.groups.live? l.provider l.token = some g
          ∧ tx = .answered ⟨l.provider, l.token, n.id⟩ session
          ∧ g.ongoing.find? (·.id = n.id) = some n
          ∧ n.request.listener = listener := by
  obtain ⟨g', hl', hmem⟩ := h
  rw [hhost.live?] at hl'
  obtain ⟨he', htoken⟩ := GroupTable.live?_eq_some_iff.mp hl'
  rcases Transaction.listener_origin hj.busy he' hmem with hold | hnew
  · obtain ⟨g, he, hsame, hlistener⟩ := hold
    have hl : j.host.groups.live? l.provider l.token = some g :=
      GroupTable.live?_eq_some_iff.mpr ⟨he, hsame.trans htoken⟩
    exact .inl ⟨g, hl, hlistener⟩
  · rw [htoken] at hnew
    exact .inr hnew

/-- A listener that is registered after a move was registered before, or
the move tells the owner of its request. -/
theorem Reached.registered_move (hj : j.Reached)
    (hmove : j.move? mv = some j') (h : j'.Registers l listener) :
    j.Registers l listener
      ∨ ∃ r owner session, j.CalledSince j'
          (.notify l.provider l.token r owner listener session) := by
  cases mv with
  | enter around e =>
      obtain ⟨p, hheld, htaken, rfl⟩ := advance_of_enter hmove
      have hhost : (j.advance (.entered e) p).host.Matches _ :=
        matches_of_enter htaken
      rcases hj.registered_decision hhost h with
        hold | ⟨g, n, session, hl, htx, hn, rfl⟩
      · exact .inl hold
      -- the answer owes one call, which begins with it
      right
      refine ⟨n.id, n.request.owner, session, p.sequel ++ [.entered e], ?_,
        List.mem_append_left _ ?_⟩
      · exact (List.append_assoc p.sequel [.entered e] j.past).symm
      obtain ⟨-, manner, hfollows⟩ := Machine.enter_follows htaken
      rw [Service.calls_enter, htx,
        show j.machine.service.host = j.host from rfl,
        Transaction.calls_of_answer hj.busy hl hn] at hfollows
      unfold Progress.sequel
      cases hfollows with
      | begins f hnext hstack hreply =>
          cases hnext
          rw [hreply, hstack]
          exact List.mem_singleton.mpr rfl
      | ends reply hnext hstack hreply => cases hnext
  | answer a =>
      obtain ⟨f, outer, p, hstack, hanswer, rfl⟩ := advance_of_answer hmove
      have hhost : (j.advance (.returned f.call a) p).host.Matches _ :=
        matches_of_answer hstack hanswer
      rcases hj.registered_decision hhost h with
        hold | ⟨g, n, session, -, htx, -⟩
      · exact .inl hold
      · exact absurd htx (Ledger.transaction_ne_answered _ _ _ _)
  | store settings | reorder groups =>
      obtain ⟨s, hr, rfl⟩ := reorders_of_aside rfl hmove
      obtain ⟨g, hl, hmem⟩ := h
      exact .inl ⟨g, (hr.live? _ _).symm.trans hl, hmem⟩

/-- From a moment without groups on, a listener is registered once the
owner of its request is told. -/
theorem Reached.registered_since (hj : j.Reached)
    (hnone : j.host.groups.entries = []) (hleads : j.Leads k)
    (h : k.Registers l listener) :
    ∃ r owner session, j.CalledSince k
      (.notify l.provider l.token r owner listener session) := by
  induction hleads with
  | here =>
      obtain ⟨g, hl, -⟩ := h
      have he := (GroupTable.live?_eq_some_iff.mp hl).1
      rw [hnone] at he
      cases he
  | @move k k' mv hleads hmove ih =>
      rcases (hj.leads hleads).registered_move hmove h with hold | hnew
      · obtain ⟨r, owner, session, hc⟩ := ih hold
        exact ⟨r, owner, session, hc.leads (.move mv .here hmove)⟩
      · obtain ⟨r, owner, session, hc⟩ := hnew
        exact ⟨r, owner, session, hc.of_leads hleads⟩

-- ======================================================== done with

/-- Some live group holds a request: it waits there, or is ongoing. -/
def Holds (j : Journal) (r : RequestId) : Prop :=
  ∃ id g, j.host.groups.find? id = some g ∧ ∃ n ∈ g.requests, n.id = r

theorem Wants.holds (h : j.Wants l r) : j.Holds r := by
  obtain ⟨g, hl, n, hn, hid⟩ := h
  have he := (GroupTable.live?_eq_some_iff.mp hl).1
  exact ⟨l.provider, g, GroupTable.find?_eq_some_iff.mpr he, n,
    List.mem_append_left _ hn, hid⟩

theorem holds_iff : j.Holds r ↔ ∃ l, 0 < j.host.groups.held l r := by
  constructor
  · intro h
    obtain ⟨id, g, hg, hn⟩ := h
    have hl : j.host.groups.live? id g.token = some g :=
      GroupTable.live?_of_find? hg
    refine ⟨⟨id, g.token⟩, ?_⟩
    unfold GroupTable.held
    rw [hl]
    exact Group.held_pos_iff.mpr hn
  · intro h
    obtain ⟨l, hheld⟩ := h
    unfold GroupTable.held at hheld
    cases hl : j.host.groups.live? l.provider l.token with
    | none =>
        rw [hl] at hheld
        exact absurd hheld (Nat.lt_irrefl 0)
    | some g =>
        rw [hl] at hheld
        have he := (GroupTable.live?_eq_some_iff.mp hl).1
        exact ⟨l.provider, g, GroupTable.find?_eq_some_iff.mpr he,
          Group.held_pos_iff.mp hheld⟩

/-- A request whose link is gone is held nowhere: it belonged to no other
link. -/
theorem Reached.not_holds_of_gone (hj : j.Reached)
    (hconcerns : j.ledger.Concerns l r) (hleads : j.Leads k)
    (hgone : ¬ k.IsLive l) : ¬ k.Holds r := by
  intro hholds
  obtain ⟨l', hheld⟩ := holds_iff.mp hholds
  have hlater : k.ledger.Concerns l' r :=
    Nat.lt_of_lt_of_le hheld
      (Nat.le_add_right_of_le (Nat.le_add_right _ _))
  have hbefore := hleads.ledger.concerns hj.ledger
    (hj.ledger.number_le hconcerns) hlater
  cases hj.ledger.link_of_request hbefore hconcerns
  have hnone := Option.not_isSome_iff_eq_none.mp hgone
  simp [GroupTable.held, hnone] at hheld

/-- A request that was given out and that no group holds is done with: no
group ever holds it again, and nobody is told of it any more. -/
theorem Reached.forgotten (hj : j.Reached)
    (hr : r.number ≤ j.host.requests) (hnot : ¬ j.Holds r)
    (hleads : j.Leads k) :
    ¬ k.Holds r
      ∧ ∀ id t owner listener session,
          ¬ j.CalledSince k (.notify id t r owner listener session) := by
  obtain ⟨later, hpast⟩ := past_of_leads hleads
  -- whatever the link, only what was told before has been told
  have hle : ∀ l : Link, k.host.groups.held l r
      + later.countP (·.calls (·.tellsOn l r)) = 0 := by
    intro l
    have htold := Ledger.Leads.told_le (l := l) hj.ledger hleads.ledger hr
    have hheld : j.host.groups.held l r = 0 := by
      by_contra hpos
      exact hnot (holds_iff.mpr ⟨l, Nat.pos_of_ne_zero hpos⟩)
    have hdue : j.ledger.due.countP (·.tellsOn l r) = 0 := by
      rw [List.countP_eq_zero]
      intro c hc htells
      obtain ⟨f, hf, hqueued⟩ := queued_of_due hc
      rw [hj.not_told_queued hf hqueued l] at htells
      cases htells
    have hmade : k.ledger.made (·.tellsOn l r)
        = later.countP (·.calls (·.tellsOn l r))
          + j.ledger.made (·.tellsOn l r) := by
      show k.past.countP _ = _ + j.past.countP _
      rw [← hpast, List.countP_append]
    replace htold : k.host.groups.held l r + _ + _
      ≤ j.host.groups.held l r + _ + _ := htold
    omega
  constructor
  · intro hholds
    obtain ⟨l, hpos⟩ := holds_iff.mp hholds
    have := hle l
    omega
  · intro id t owner listener session hcalled
    obtain ⟨since, hsince, hc⟩ := hcalled
    have hsame : since = later := by
      rw [← hpast] at hsince
      exact (List.append_cancel_right hsince).symm
    have hpos : 0 < later.countP (·.calls (·.tellsOn ⟨id, t⟩ r)) := by
      rw [← hsame, List.countP_pos_iff]
      exact ⟨_, hc, by simp [Moment.calls, Call.tellsOn]⟩
    have := hle ⟨id, t⟩
    omega

end Journal

end SpellSessions
