/-
Registrations: with how many providers a listener is registered.

Whoever asks for a session names its listener, and nobody compares that name
with those that are registered elsewhere. So a listener for which sessions
were asked of two providers is registered with both, and giving it up once
takes both connections down (`listener_registered_twice`).

What goes wrong goes wrong in one kind of move: the provider answers a
request whose listener is registered with another provider by then. A run
keeps all listeners apart if and only if it makes no such move, and it makes
none while every listener is named to one provider only. While they are
apart, giving a listener up turns to its own group and to no other
(`registered_apart_iff`).
-/
import SpellSessions.Proofs.Admission
import SpellSessions.Proofs.Fanout

namespace SpellSessions

/-- No listener is registered with two providers. -/
def GroupTable.Apart (t : GroupTable) : Prop :=
  ∀ k id id' g g', t.find? id = some g → t.find? id' = some g' →
    k ∈ g.listeners → k ∈ g'.listeners → id = id'

theorem GroupTable.apart_empty : empty.Apart := by
  intro k id id' g g' hg
  cases hg

theorem GroupTable.apart_of_perm {t t' : GroupTable}
    (h : t.entries.Perm t'.entries) : t.Apart ↔ t'.Apart := by
  unfold Apart
  simp only [find?_of_perm h]

/-- An answer through the handle finds a request whose listener is
registered with another provider. -/
def ReplyHandle.Crosses (a : ReplyHandle) (t : GroupTable) : Prop :=
  ∃ g n id g', t.live? a.provider a.token = some g
    ∧ g.ongoing.find? (·.id = a.request) = some n
    ∧ id ≠ a.provider ∧ t.find? id = some g'
    ∧ n.request.listener ∈ g'.listeners

-- ======================================================= a registration more

namespace Transaction

variable {h : Host} {tx : Transaction} {id : ProviderId} {g' : Group}
  {k : ListenerId}

/-- A registration after a transaction was there before, or an answer of
that provider makes it. -/
theorem registration_origin (hb : h.groups.Busy)
    (hg' : (tx.decision h).host.groups.find? id = some g')
    (hk : k ∈ g'.listeners) :
    (∃ g, h.groups.find? id = some g ∧ k ∈ g.listeners)
      ∨ ∃ a session g n, tx = .answered a session ∧ a.provider = id
          ∧ h.groups.live? a.provider a.token = some g
          ∧ g.ongoing.find? (·.id = a.request) = some n
          ∧ n.request.listener = k := by
  have he := GroupTable.find?_eq_some_iff.mp hg'
  rcases listener_origin hb he hk with hold | hnew
  · obtain ⟨g, hg, -, hmem⟩ := hold
    exact .inl ⟨g, GroupTable.find?_eq_some_iff.mpr hg, hmem⟩
  · obtain ⟨g, n, session, hl, htx, hn, hlistener⟩ := hnew
    exact .inr ⟨_, session, g, n, htx, rfl, hl, hn, hlistener⟩

/-- A transaction keeps listeners apart, unless it is an answer that
crosses. -/
theorem apart_decision (hb : h.groups.Busy) (ha : h.groups.Apart)
    (hnot : ∀ a session, tx = .answered a session → ¬ a.Crosses h.groups) :
    (tx.decision h).host.groups.Apart := by
  intro k id id' g g' hg hg' hk hk'
  by_contra hne
  rcases registration_origin hb hg hk with ⟨g₀, hg₀, hk₀⟩ | hnew
  · rcases registration_origin hb hg' hk' with ⟨g₀', hg₀', hk₀'⟩ | hnew
    · exact hne (ha k id id' g₀ g₀' hg₀ hg₀' hk₀ hk₀')
    · obtain ⟨a, session, g₁, n, htx, rfl, hl, hn, rfl⟩ := hnew
      exact hnot a session htx ⟨g₁, n, id, g₀, hl, hn, hne, hg₀, hk₀⟩
  · obtain ⟨a, session, g₁, n, htx, rfl, hl, hn, rfl⟩ := hnew
    rcases registration_origin hb hg' hk' with ⟨g₀', hg₀', hk₀'⟩ | hnew
    · exact hnot a session htx
        ⟨g₁, n, id', g₀', hl, hn, Ne.symm hne, hg₀', hk₀'⟩
    · -- one answer registers with one provider
      obtain ⟨a', session', -, -, htx', rfl, -⟩ := hnew
      cases htx.symm.trans htx'
      exact hne rfl

/-- After an answer that crosses, the listener of the request is registered
with two providers. -/
theorem not_apart_of_crosses (hb : h.groups.Busy) {a : ReplyHandle}
    (hc : a.Crosses h.groups) (session : Option Session) :
    ¬ ((Transaction.answered a session).decision h).host.groups.Apart := by
  obtain ⟨g, n, id, g', hl, hn, hne, hg', hk'⟩ := hc
  obtain ⟨he, htoken⟩ := GroupTable.live?_eq_some_iff.mp hl
  obtain ⟨hret, hwork⟩ := hb _ he
  -- the group that is answered registers the listener
  have hfinish := Group.finish?_of_live hret a.request
  rw [hn] at hfinish
  have hfinished := Group.finished_of_some hfinish
  have hleft : (Transaction.answered a session).leaves h a.provider g
      = g.finished a.request :=
    only_self (l := a.link) (·.finished a.request) htoken
  have hafter : ((Transaction.answered a session).decision
      h).host.groups.find? a.provider = _ :=
    find?_decision hb (GroupTable.find?_eq_some_iff.mpr he)
  rw [hleft, Group.isIdle_finished hwork, if_neg Bool.false_ne_true]
    at hafter
  -- the other one stays as it is
  have he' := GroupTable.find?_eq_some_iff.mp hg'
  have hother : a.link ≠ ⟨id, g'.token⟩ := by
    intro hsame
    exact hne (congrArg Link.provider hsame).symm
  have hleft' : (Transaction.answered a session).leaves h id g' = g' := by
    show a.link.only (·.finished a.request) id g' = g'
    exact only_of_ne (l := ⟨id, g'.token⟩) hother rfl
  have hafter' : ((Transaction.answered a session).decision
      h).host.groups.find? id = _ := find?_decision hb hg'
  rw [hleft', (hb _ he').2, if_neg Bool.false_ne_true] at hafter'
  intro ha
  refine hne (ha n.request.listener _ _ _ _ hafter' hafter hk' ?_)
  rw [hfinished]
  exact Group.mem_insertListener.mpr (.inl rfl)

end Transaction

-- ============================================================= over a run

/-- The move is an answer that crosses. -/
def Move.Crosses (j : Journal) : Move → Prop
  | .enter _ (.callback (.delivered a _)) => a.Crosses j.host.groups
  | _ => False

/-- What an entry that asks for a session names: the provider and the
listener. -/
def Moment.asked? : Moment → Option (ProviderId × ListenerId)
  | .entered e => e.session?.map fun (id, r) => (id, r.listener)
  | _ => none

/-- The listener that an entry gives up. -/
def Entry.givesUp? : Entry → Option ListenerId
  | .operation (.endSession _ k) => some k
  | .operation (.listenerLost k) => some k
  | .direct (.releaseListener k) => some k
  | _ => none

/-- An entry that gives a listener up does just that, or nothing. -/
theorem Entry.transaction_of_givesUp {e : Entry} {k : ListenerId}
    (h : e.givesUp? = some k) (s : Service) (around : Surroundings) :
    e.transaction s around = .releaseListener k
      ∨ e.transaction s around = .stay := by
  cases e with
  | operation op =>
      cases op with
      | endSession c l =>
          cases h
          unfold transaction Operation.transaction
          dsimp only
          cases s.turnedAway? around c with
          | none => exact .inl rfl
          | some refusal => exact .inr rfl
      | listenerLost l =>
          cases h
          exact .inl rfl
      | _ => cases h
  | callback report => cases h
  | direct entry =>
      cases entry with
      | releaseListener l =>
          cases h
          exact .inl rfl
      | _ => cases h

namespace Journal

variable {j j' : Journal} {mv : Move} {id : ProviderId} {g : Group}
  {k : ListenerId}

/-- The sessions that were asked for: of which provider, and for which
listener. -/
def asked (j : Journal) : List (ProviderId × ListenerId) :=
  j.past.filterMap Moment.asked?

/-- Every listener was named to one provider only. -/
def NamedOnce (j : Journal) : Prop :=
  ∀ a ∈ j.asked, ∀ b ∈ j.asked, a.2 = b.2 → a.1 = b.1

instance (j : Journal) : Decidable j.NamedOnce :=
  inferInstanceAs (Decidable (∀ a ∈ j.asked, ∀ b ∈ j.asked, _))

/-- A move keeps listeners apart if and only if it is no answer that
crosses. -/
theorem Reached.apart_move (hj : j.Reached) (ha : j.host.groups.Apart)
    (hmove : j.move? mv = some j') :
    j'.host.groups.Apart ↔ ¬ mv.Crosses j := by
  cases mv with
  | enter around e =>
      obtain ⟨p, -, htaken, rfl⟩ := advance_of_enter hmove
      have hapart : (j.advance (.entered e) p).host.groups.Apart ↔ _ :=
        GroupTable.apart_of_perm (matches_of_enter htaken).entries
      rw [hapart]
      constructor
      · intro hafter hc
        cases e with
        | callback report =>
            cases report with
            | delivered a session =>
                exact Transaction.not_apart_of_crosses hj.busy hc session
                  hafter
            | _ => exact hc
        | _ => exact hc
      · intro hnot
        refine Transaction.apart_decision hj.busy ha fun a session htx => ?_
        have he : e = .callback (.delivered a session) :=
          Entry.callback_of_transaction htx
        subst he
        exact hnot
  | answer a =>
      obtain ⟨f, outer, p, hstack, hanswer, rfl⟩ := advance_of_answer hmove
      have hapart : (j.advance (.returned f.call a) p).host.groups.Apart ↔ _ :=
        GroupTable.apart_of_perm (matches_of_answer hstack hanswer).entries
      rw [hapart]
      refine iff_of_true ?_ not_false
      refine Transaction.apart_decision hj.busy ha fun b session htx => ?_
      exact absurd htx (Ledger.transaction_ne_answered _ _ _ _)
  | store settings | reorder groups =>
      obtain ⟨s, hr, rfl⟩ := reorders_of_aside rfl hmove
      exact iff_of_true ((GroupTable.apart_of_perm hr.entries).mpr ha) not_false

theorem asked_of_move (hmove : j.move? mv = some j') :
    j.asked ⊆ j'.asked := by
  obtain ⟨later, hpast⟩ := past_of_move hmove
  unfold asked
  rw [← hpast, List.filterMap_append]
  exact List.subset_append_right _ _

/-- A move makes one transaction, and what it submits was asked for. -/
theorem submits_of_move (hmove : j.move? mv = some j') :
    ∃ tx : Transaction, j'.host.Matches (tx.decision j.host).host
      ∧ ∀ p r, tx = .submit p r → (p.id, r.listener) ∈ j'.asked := by
  cases moved_of_move hmove with
  | entered around e p hheld htaken =>
      refine ⟨_, matches_of_enter htaken, fun q r htx => ?_⟩
      obtain ⟨hasks, -⟩ := Entry.asks_of_submit htx
      refine List.mem_filterMap.mpr ⟨.entered e, ?_, ?_⟩
      · exact List.mem_append_right _ List.mem_cons_self
      · show e.session?.map _ = _
        rw [hasks]
        rfl
  | returned a f outer p hstack hanswer =>
      refine ⟨_, matches_of_answer hstack hanswer, fun q r htx => ?_⟩
      exact absurd htx (transaction_ne_submit f.call a q r)
  | aside s hr => exact ⟨.stay, hr.matches, nofun⟩

/-- A group works for listeners that were named to its provider. -/
theorem Reached.asked_of_work (hj : j.Reached)
    (hg : j.host.groups.find? id = some g) :
    (∀ n ∈ g.requests, (id, n.request.listener) ∈ j.asked)
      ∧ ∀ k ∈ g.listeners, (id, k) ∈ j.asked := by
  induction hj generalizing id g with
  | begin rule settings => cases hg
  | @move j j' mv hj hmove ih =>
      obtain ⟨tx, hhost, hsubmits⟩ := submits_of_move hmove
      have hstays := asked_of_move hmove
      rw [hhost.find?] at hg
      constructor
      · intro n hn
        have he := GroupTable.find?_eq_some_iff.mp hg
        rcases Transaction.request_origin hj.busy he hn with hold | hnew
        · obtain ⟨g₀, hg₀, -, hn₀⟩ := hold
          have hbefore := ih (GroupTable.find?_eq_some_iff.mpr hg₀)
          exact hstays (hbefore.1 n hn₀)
        · obtain ⟨p, r, htx, rfl, rfl⟩ := hnew
          exact hsubmits p r htx
      · intro k hk
        rcases Transaction.registration_origin hj.busy hg hk with
          hold | hnew
        · obtain ⟨g₀, hg₀, hk₀⟩ := hold
          exact hstays ((ih hg₀).2 k hk₀)
        · obtain ⟨a, session, g₀, n, -, rfl, hl, hn, rfl⟩ := hnew
          obtain ⟨he, -⟩ := GroupTable.live?_eq_some_iff.mp hl
          have hbefore := ih (GroupTable.find?_eq_some_iff.mpr he)
          have hmem : n ∈ g₀.requests :=
            List.mem_append_left _ (List.mem_of_find?_eq_some hn)
          exact hstays (hbefore.1 n hmem)

/-- While every listener is named to one provider only, they are apart. -/
theorem Reached.apart_of_namedOnce (hj : j.Reached) (hnamed : j.NamedOnce) :
    j.host.groups.Apart := by
  intro k id id' g g' hg hg' hk hk'
  exact hnamed _ ((hj.asked_of_work hg).2 k hk) _
    ((hj.asked_of_work hg').2 k hk') rfl

-- ======================================================== giving one up

/-- Where listeners are apart, giving one up changes its own group only, and
releases no other connection. -/
theorem Reached.releaseListener_of_apart (hj : j.Reached)
    (ha : j.host.groups.Apart) (hg : j.host.groups.find? id = some g)
    (hk : k ∈ g.listeners) :
    (∀ id', id' ≠ id →
      (j.host.releaseListener k).host.groups.find? id'
        = j.host.groups.find? id')
      ∧ ((j.host.releaseListener k).calls = []
        ∨ (j.host.releaseListener k).calls = [.disconnect id g.token]) := by
  have hforeign : ∀ id' g', id' ≠ id →
      j.host.groups.find? id' = some g' → k ∉ g'.listeners :=
    fun id' g' hne hg' hk' => hne (ha k id' id g' g hg' hg hk' hk)
  have hother : ∀ id' g', id' ≠ id →
      j.host.groups.find? id' = some g' → ¬ g'.OnlyServes k := by
    intro id' g' hne hg' honly
    refine hforeign id' g' hne hg' ?_
    rw [honly.2.2]
    exact List.mem_singleton.mpr rfl
  constructor
  · intro id' hne
    refine Option.ext fun g' => ?_
    rw [Host.find?_releaseListener hj.busy hj.ledger.listed]
    have hsame : ∀ g₀, j.host.groups.find? id' = some g₀ →
        { g₀ with listeners := g₀.listeners.filter (· ≠ k) } = g₀ := by
      intro g₀ hg₀
      have hnone := hforeign id' g₀ hne hg₀
      rw [List.filter_eq_self.mpr]
      intro l hl
      exact decide_eq_true fun heq => hnone (heq ▸ hl)
    constructor
    · intro h
      obtain ⟨g₀, hg₀, -, rfl⟩ := h
      rw [hsame g₀ hg₀]
      exact hg₀
    · intro hg'
      exact ⟨g', hg', hother id' g' hne hg', (hsame g' hg').symm⟩
  · rw [Host.calls_releaseListener hj.busy,
      GroupTable.filterMap_at id fun e he hne => if_neg fun honly =>
        hother e.1 e.2 hne (GroupTable.find?_eq_some_iff.mpr he) honly.1,
      hg]
    show (if _ then _ else none : Option Call).toList = []
      ∨ (if _ then _ else none : Option Call).toList = _
    split
    · exact .inr rfl
    · exact .inl rfl

/-- An entry that gives a listener up changes the group of that listener
only, and releases no other connection. -/
theorem Reached.enter_of_givesUp (hj : j.Reached)
    (ha : j.host.groups.Apart) {e : Entry} (hgives : e.givesUp? = some k)
    (hg : j.host.groups.find? id = some g) (hk : k ∈ g.listeners)
    (around : Surroundings) :
    let turn := j.machine.service.enter around e
    (∀ id', id' ≠ id →
      turn.service.host.groups.find? id' = j.host.groups.find? id')
      ∧ (turn.calls = [] ∨ turn.calls = [.disconnect id g.token]) := by
  intro turn
  have hhost : turn.service.host = _ := Service.host_enter e
  have hgroups : turn.service.host.groups
      = ((e.transaction j.machine.service around).decision
          j.host).host.groups := by
    rw [hhost]
    exact e.serves_keeps Host.groups (fun _ _ _ _ => rfl) _
  have hcalls : turn.calls
      = ((e.transaction j.machine.service around).decision
          j.host).calls := Service.calls_enter e
  rw [hgroups, hcalls]
  rcases e.transaction_of_givesUp hgives j.machine.service around with
    hrelease | hstay
  · rw [hrelease]
    exact hj.releaseListener_of_apart ha hg hk
  · rw [hstay]
    exact ⟨fun _ _ => rfl, .inl rfl⟩

/-- A run keeps every listener registered with at most one provider if and
only if no answer of it finds a request whose listener is registered with
another provider. That is so while every listener is named to one provider
only. And while it is so, giving a listener up changes its own group only
and releases no other connection. -/
theorem registered_apart_iff (rule : DefaultRule) (settings : Settings)
    (moves : List Move) :
    ((begin rule settings).Throughout (·.host.groups.Apart) moves
      ↔ (begin rule settings).EveryMove (fun j mv => ¬ mv.Crosses j) moves)
      ∧ ∀ j, (begin rule settings).after? moves = some j →
        (j.NamedOnce → j.host.groups.Apart)
        ∧ (j.host.groups.Apart →
          ∀ around e k id g, e.givesUp? = some k →
            j.host.groups.find? id = some g → k ∈ g.listeners →
            let turn := j.machine.service.enter around e
            (∀ id', id' ≠ id →
              turn.service.host.groups.find? id'
                = j.host.groups.find? id')
            ∧ (turn.calls = [] ∨ turn.calls = [.disconnect id g.token])) := by
  refine ⟨?_, fun j hafter => ⟨?_, ?_⟩⟩
  · refine throughout_iff (I := Reached) (A := fun _ => True) ?_
      (.begin rule settings) GroupTable.apart_empty fun _ _ => trivial
    intro j mv j' hj ha _ hmove
    exact ⟨hj.move mv hmove, hj.apart_move ha hmove⟩
  · exact (Reached.of_after hafter).apart_of_namedOnce
  · intro ha around e k id g hgives hg hk
    exact (Reached.of_after hafter).enter_of_givesUp ha hgives hg hk around

end Journal

/-- Two providers are asked for a session each, for the given listeners, and
both answer. -/
def Sample.both (k l : UInt64) : List Move :=
  [.enter (around [descriptor, other]) (.operation (.changeUser ⟨0⟩ true)),
    operate (.beginSession "p" (request k)), .answer .accepted,
    operate (.beginSession "q" (request l)), .answer .accepted,
    .enter (around []) (.callback (.connected ⟨"p", ⟨1⟩⟩ ⟨"s"⟩)),
    .answer .accepted,
    .enter (around []) (.callback (.connected ⟨"q", ⟨2⟩⟩ ⟨"t"⟩)),
    .answer .accepted,
    .enter (around [])
      (.callback (.delivered ⟨"p", ⟨1⟩, ⟨1⟩⟩ (some ⟨"x"⟩))),
    .answer .accepted,
    .enter (around [])
      (.callback (.delivered ⟨"q", ⟨2⟩, ⟨2⟩⟩ (some ⟨"y"⟩))),
    .answer .accepted]

namespace Journal

/-- Two listeners with a provider each are apart, and when the session of
the first is given up, the provider of the second goes on serving it. -/
theorem second_session_kept :
    ∃ j, Sample.start.after? (Sample.both 1 2) = some j
      ∧ j.host.groups.Apart
      ∧ ((j.machine.service.enter (Sample.around [])
          (.operation (.endSession ⟨0, ⟨0⟩⟩ ⟨1⟩))).service.host.groups.find?
            "q").map (·.listeners) = some [⟨2⟩] := by
  obtain ⟨j, hj, hend⟩ := (Option.any_eq_true
    (fun j : Journal => decide j.NamedOnce
      && ((j.host.groups.find? "p").any fun g : Group =>
          g.hasListener ⟨1⟩)
      && decide ((j.host.groups.find? "q").map (·.listeners)
        = some [⟨2⟩])) _).mp
    (show (Sample.start.after? (Sample.both 1 2)).any _ = true from rfl)
  rw [Bool.and_eq_true, Bool.and_eq_true, decide_eq_true_eq,
    Option.any_eq_true, decide_eq_true_eq] at hend
  obtain ⟨⟨hnamed, g, hg, hk⟩, hq⟩ := hend
  obtain ⟨hapart, hgiven⟩ :=
    (registered_apart_iff _ _ _).2 j hj
  have ha := hapart hnamed
  obtain ⟨hother, -⟩ := hgiven ha (Sample.around [])
    (.operation (.endSession ⟨0, ⟨0⟩⟩ ⟨1⟩)) ⟨1⟩ "p" g rfl hg
    (List.contains_iff_mem.mp hk)
  refine ⟨j, hj, ha, ?_⟩
  rw [hother "q" (by decide)]
  exact hq

/-- One listener for which sessions were asked of two providers is
registered with both, and giving it up takes both connections down. -/
theorem listener_registered_twice :
    (∀ mv ∈ Sample.both 1 1, mv.isDirect = false)
      ∧ ∃ j, Sample.start.after? (Sample.both 1 1) = some j
        ∧ ¬ j.host.groups.Apart
        ∧ (j.machine.service.enter (Sample.around [])
            (.operation (.endSession ⟨0, ⟨0⟩⟩ ⟨1⟩))).calls
          = [.disconnect "p" ⟨1⟩, .disconnect "q" ⟨2⟩] := by
  refine ⟨by decide, ?_⟩
  obtain ⟨j, hj, hend⟩ := (Option.any_eq_true
    (fun j : Journal =>
      ((j.host.groups.find? "p").any fun g : Group => g.hasListener ⟨1⟩)
      && ((j.host.groups.find? "q").any fun g : Group =>
          g.hasListener ⟨1⟩)
      && decide ((j.machine.service.enter (Sample.around [])
            (.operation (.endSession ⟨0, ⟨0⟩⟩ ⟨1⟩))).calls
          = [.disconnect "p" ⟨1⟩, .disconnect "q" ⟨2⟩])) _).mp
    (show (Sample.start.after? (Sample.both 1 1)).any _ = true from rfl)
  rw [Bool.and_eq_true, Bool.and_eq_true, Option.any_eq_true,
    Option.any_eq_true, decide_eq_true_eq] at hend
  obtain ⟨⟨⟨g, hg, hk⟩, g', hg', hk'⟩, hcalls⟩ := hend
  refine ⟨j, hj, fun ha => ?_, hcalls⟩
  have hsame := ha ⟨1⟩ "p" "q" g g' hg hg' (List.contains_iff_mem.mp hk)
    (List.contains_iff_mem.mp hk')
  revert hsame
  decide

end Journal

end SpellSessions
