/-
Releases: a connection that was established is released once, and never
otherwise.

Two places release a connection: the teardown of its group, and the
return of the call that connects, when the group left during that call. It
is counted that exactly one of them does so. Under each token one call to
connect falls due (`connects_once`); a link whose group is live and still
connecting has that call due or running (`opening_le`); and the links
whose call came back well are those that stand, those whose release is
due, and those that were released (`standing_eq`). A release is thus never
made before the call to connect came back well, nor twice, and none is
left out once no call is due.
-/
import SpellSessions.Proofs.Teardown
import SpellSessions.Proofs.Transaction.Calls

namespace SpellSessions

-- ======================================================= moments of a link

namespace Moment

variable {m : Moment} {l : Link} {t : Token}

theorem calls_connects_iff :
    m.calls (·.connects l) = true
      ↔ ∃ p, p.id = l.provider ∧ m = .called (.connect p l.token) := by
  constructor
  · intro h
    cases m with
    | called c =>
        obtain ⟨p, hid, rfl⟩ := Call.connects_iff.mp h
        exact ⟨p, hid, rfl⟩
    | _ => cases h
  · rintro ⟨p, hid, rfl⟩
    exact Call.connects_iff.mpr ⟨p, hid, rfl⟩

theorem accepts_connects_iff :
    m.accepts (·.connects l) = true
      ↔ ∃ p, p.id = l.provider
          ∧ m = .returned (.connect p l.token) .accepted := by
  constructor
  · intro h
    cases m with
    | returned c a =>
        cases a with
        | declined reason => cases h
        | accepted =>
            obtain ⟨p, hid, rfl⟩ := Call.connects_iff.mp h
            exact ⟨p, hid, rfl⟩
    | _ => cases h
  · rintro ⟨p, hid, rfl⟩
    exact Call.connects_iff.mpr ⟨p, hid, rfl⟩

theorem calls_releasesUnder_iff :
    m.calls (·.releasesUnder t) = true
      ↔ ∃ id, m = .called (.disconnect id t) := by
  constructor
  · intro h
    cases m with
    | called c =>
        cases c with
        | disconnect id t' =>
            cases of_decide_eq_true h
            exact ⟨id, rfl⟩
        | _ => cases h
    | _ => cases h
  · rintro ⟨id, rfl⟩
    simp [calls, Call.releasesUnder]

theorem calls_releases_iff :
    m.calls (·.releases l) = true
      ↔ m = .called (.disconnect l.provider l.token) := by
  constructor
  · intro h
    cases m with
    | called c =>
        cases c with
        | disconnect id t =>
            obtain ⟨hid, htoken⟩ := Bool.and_eq_true_iff.mp h
            cases of_decide_eq_true hid
            cases of_decide_eq_true htoken
            rfl
        | _ => cases h
    | _ => cases h
  · rintro rfl
    simp [calls, Call.releases]

end Moment

-- =================================================== a step, transaction-wise

/-- The return of a call ends the connecting of a link if the call connects
it. -/
theorem Call.endsConnecting_transaction (c : Call) (a : Answer) (l : Link) :
    (c.transaction a).endsConnecting l = c.connects l := by
  have hiff : ∀ (id : ProviderId) (t : Token),
      decide ((⟨id, t⟩ : Link) = l)
        = (decide (id = l.provider) && decide (t = l.token)) := by
    intro id t
    rw [← Bool.decide_and]
    refine decide_eq_decide.mpr ⟨?_, ?_⟩
    · rintro rfl
      exact ⟨rfl, rfl⟩
    · rintro ⟨rfl, rfl⟩
      rfl
  cases c with
  | connect p t => cases a <;> exact hiff p.id t
  | _ => cases a <;> rfl

/-- No entry ends the connecting of a link. -/
theorem Transaction.not_endsConnecting_of_isOpenTo {tx : Transaction}
    {past : List Moment} (l : Link) (h : tx.isOpenTo past = true) :
    tx.endsConnecting l = false := by
  cases tx with
  | established l' => cases h
  | forgetRefused l' => cases h
  | _ => rfl

/-- When the call that connects a link returns, the link is no longer
opening; it stands or is released if the call came back well, and is gone
if not. -/
theorem Call.settles {h : Host} {c : Call} {l : Link}
    (hb : h.groups.Busy) (hc : c.connects l = true) (a : Answer) :
    ((c.transaction a).decision h).host.groups.opening l = 0
      ∧ ((c.transaction a).decision h).host.groups.standing l
          + ((c.transaction a).decision h).calls.countP (·.releases l)
        = if (Moment.returned c a).accepts (·.connects l) then 1 else 0 := by
  cases c with
  | connect p t =>
      obtain ⟨hid, htoken⟩ := Bool.and_eq_true_iff.mp hc
      obtain ⟨provider, token⟩ := l
      cases of_decide_eq_true hid
      cases of_decide_eq_true htoken
      cases a with
      | accepted =>
          have hmoment : (Moment.returned (connect p token) .accepted).accepts
              (·.connects ⟨p.id, token⟩) = true := hc
          rw [hmoment]
          exact Transaction.standing_established hb
      | declined reason => exact Transaction.standing_forgetRefused hb
  | _ => cases hc

namespace Ledger

variable {b : Ledger}

-- ============================================== one connect for each token

/-- Under one token one call to connect is due or was made, at most, and
none under a token that was not given out. -/
theorem Reached.connects_once (hb : b.Reached) (t : Token) :
    b.due.countP (·.connectsUnder t) + b.made (·.connectsUnder t) ≤ 1
      ∧ (b.host.tokens < t.number →
          b.due.countP (·.connectsUnder t) + b.made (·.connectsUnder t)
            = 0) := by
  induction hb with
  | begin => exact ⟨Nat.zero_le _, fun _ => rfl⟩
  | @step b _ hb hstep ih =>
      obtain ⟨tx, htx⟩ := hstep.transacts
      have hcounted := htx.counted (·.connectsUnder t)
      have htokens := htx.host.tokens.trans tx.tokens_decision
      rw [Transaction.countP_connectsUnder hb.busy] at hcounted
      split at hcounted
      · next hfresh =>
          have hnumber : t.number = b.host.tokens + 1 :=
            congrArg Token.number hfresh
          have hlen := tx.length_opens_le b.host
          omega
      · omega

/-- A token under which a call to connect was made counts as given out. -/
theorem Reached.token_le_of_made (hb : b.Reached) {t : Token}
    (hmade : 0 < b.made (·.connectsUnder t)) :
    t.number ≤ b.host.tokens := by
  by_contra hbeyond
  have := (hb.connects_once t).2 (Nat.lt_of_not_le hbeyond)
  omega

-- ================================================== links that are opening

/-- A link that is opening has its call to connect due or running. -/
theorem Reached.opening_le (hb : b.Reached) (l : Link) :
    b.host.groups.opening l
      ≤ b.due.countP (·.connects l) + b.running.countP (·.connects l) := by
  induction hb with
  | begin => exact Nat.zero_le _
  | step hb hstep ih =>
      cases hstep with
      | enters e tx h' hopen hmatch =>
          have h := tx.opening_decision hb.busy
            (tx.not_endsConnecting_of_isOpenTo l hopen)
          rw [GroupTable.opening_of_perm hmatch.entries, List.countP_append]
          dsimp only
          omega
      | returns c a others mine theirs hrunning hdue =>
          have hends := c.endsConnecting_transaction a l
          rw [hdue, List.countP_append, hrunning, List.countP_cons] at ih
          rw [List.countP_append, List.countP_append]
          cases hc : c.connects l with
          | false =>
              have h := Transaction.opening_decision hb.busy (hends.trans hc)
              rw [hc, if_neg Bool.false_ne_true] at ih
              dsimp only at h ih ⊢
              omega
          | true =>
              rw [(Call.settles hb.busy hc a).1]
              exact Nat.zero_le _
      | skips c rest hdue hcreate =>
          have hc : c.connects l = false := by
            cases c with
            | create id t e r s => rfl
            | _ => cases hcreate
          rw [hdue, List.countP_cons, hc] at ih
          exact ih
      | begins c rest hdue =>
          rw [hdue, List.countP_cons] at ih
          rw [List.countP_cons]
          dsimp only
          omega
      | replies r => exact ih
      | reorders h' hmatch =>
          rw [GroupTable.opening_of_perm hmatch.entries]
          exact ih

-- ================================================= links that were opened

theorem made_connects_le (b : Ledger) (l : Link) :
    b.made (·.connects l) ≤ b.made (·.connectsUnder l.token) := by
  refine List.countP_mono_left fun m _ hm => ?_
  obtain ⟨p, -, rfl⟩ := Moment.calls_connects_iff.mp hm
  exact decide_eq_true rfl

/-- A call to connect a link that is running is the only one there was. -/
theorem Reached.accepted_eq_zero (hb : b.Reached) {l : Link}
    (hrunning : 0 < b.running.countP (·.connects l)) :
    b.accepted (·.connects l) = 0 := by
  have honce := (hb.connects_once l.token).1
  have hmade := hb.made_eq (·.connects l)
  have hreturned := b.accepted_le_returned (·.connects l)
  have hunder := b.made_connects_le l
  omega

/-- The links whose call to connect came back well are those that stand,
those whose release is due, and those that were released. -/
theorem Reached.standing_eq (hb : b.Reached) (l : Link) :
    b.host.groups.standing l + b.due.countP (·.releases l)
        + b.made (·.releases l)
      = b.accepted (·.connects l) := by
  induction hb with
  | begin => rfl
  | step hb hstep ih =>
      unfold made accepted at ih ⊢
      cases hstep with
      | enters e tx h' hopen hmatch =>
          have h := tx.standing_decision hb.busy
            (tx.not_endsConnecting_of_isOpenTo l hopen)
          rw [GroupTable.standing_of_perm hmatch.entries, List.countP_append]
          simp only [List.countP_cons, Moment.calls, Moment.accepts,
            Bool.false_eq_true, if_false] at ih ⊢
          omega
      | returns c a others mine theirs hrunning hdue =>
          have hends := c.endsConnecting_transaction a l
          rw [hdue, List.countP_append] at ih
          simp only [List.countP_append, List.countP_cons, Moment.calls,
            Bool.false_eq_true, if_false] at ih ⊢
          cases hc : c.connects l with
          | false =>
              have h := Transaction.standing_decision hb.busy (hends.trans hc)
              have hmoment : (Moment.returned c a).accepts (·.connects l)
                  = false := by
                cases a with
                | accepted => exact hc
                | declined reason => rfl
              rw [hmoment, if_neg Bool.false_ne_true]
              omega
          | true =>
              -- the call was running, so the link neither stands nor stood
              have h := (Call.settles hb.busy hc a).2
              have hzero := hb.accepted_eq_zero (l := l) (by
                rw [hrunning, List.countP_cons, if_pos hc]
                exact Nat.succ_pos _)
              unfold accepted at hzero
              omega
      | skips c rest hdue hcreate =>
          have hc : c.releases l = false := by
            cases c with
            | create id t e r s => rfl
            | _ => cases hcreate
          rw [hdue, List.countP_cons, hc] at ih
          exact ih
      | begins c rest hdue =>
          rw [hdue, List.countP_cons] at ih
          simp only [List.countP_cons, Moment.calls, Moment.accepts,
            Bool.false_eq_true, if_false] at ih ⊢
          omega
      | replies r => exact ih
      | reorders h' hmatch =>
          rw [GroupTable.standing_of_perm hmatch.entries]
          exact ih

-- =============================================== one link for each token

/-- At most one member of a list is of a kind that is counted once. -/
theorem eq_of_countP_le_one {α : Type} {q : α → Bool} {xs : List α} {x y : α}
    (h : xs.countP q ≤ 1) (hx : x ∈ xs) (hy : y ∈ xs) (hqx : q x = true)
    (hqy : q y = true) : x = y := by
  rw [List.countP_eq_length_filter] at h
  have hx' := List.mem_filter.mpr ⟨hx, hqx⟩
  have hy' := List.mem_filter.mpr ⟨hy, hqy⟩
  match hfilter : xs.filter q with
  | [] =>
      rw [hfilter] at hx'
      cases hx'
  | [z] =>
      rw [hfilter, List.mem_singleton] at hx' hy'
      rw [hx', hy']
  | _ :: _ :: _ =>
      rw [hfilter] at h
      simp at h

/-- A link that was connected well has the return of its call in the
past. -/
theorem returned_of_accepted {l : Link}
    (h : 0 < b.accepted (·.connects l)) :
    ∃ p, p.id = l.provider
      ∧ .returned (.connect p l.token) .accepted ∈ b.past := by
  obtain ⟨m, hm, haccepts⟩ := List.countP_pos_iff.mp h
  obtain ⟨p, hid, rfl⟩ := Moment.accepts_connects_iff.mp haccepts
  exact ⟨p, hid, hm⟩

/-- A link that was connected well was called to connect. -/
theorem Reached.connect_called (hb : b.Reached) {l : Link}
    (h : 0 < b.accepted (·.connects l)) :
    ∃ p, p.id = l.provider ∧ .called (.connect p l.token) ∈ b.past := by
  have hmade := hb.made_eq (·.connects l)
  have hreturned := b.accepted_le_returned (·.connects l)
  have hpos : 0 < b.made (·.connects l) := by omega
  obtain ⟨m, hm, hcalls⟩ := List.countP_pos_iff.mp hpos
  obtain ⟨p, hid, rfl⟩ := Moment.calls_connects_iff.mp hcalls
  exact ⟨p, hid, hm⟩

/-- Under one token one link is connected well, at most. -/
theorem Reached.link_unique (hb : b.Reached) {id id' : ProviderId} {t : Token}
    (h : 0 < b.accepted (·.connects ⟨id, t⟩))
    (h' : 0 < b.accepted (·.connects ⟨id', t⟩)) : id = id' := by
  obtain ⟨p, rfl, hp⟩ := hb.connect_called h
  obtain ⟨p', rfl, hp'⟩ := hb.connect_called h'
  have honce : b.made (·.connectsUnder t) ≤ 1 := by
    have := (hb.connects_once t).1
    omega
  have hself : ∀ p : Provider,
      (Moment.called (.connect p t)).calls (·.connectsUnder t) = true :=
    fun p => decide_eq_true rfl
  have heq := eq_of_countP_le_one honce hp hp' (hself p) (hself p')
  cases heq
  rfl

theorem Reached.accepted_of_released (hb : b.Reached) {id : ProviderId}
    {t : Token} (h : .called (.disconnect id t) ∈ b.past) :
    0 < b.accepted (·.connects ⟨id, t⟩) := by
  have hmade : 0 < b.made (·.releases ⟨id, t⟩) :=
    List.countP_pos_iff.mpr ⟨_, h, Moment.calls_releases_iff.mpr rfl⟩
  have hstanding := hb.standing_eq ⟨id, t⟩
  omega

theorem Reached.accepted_of_due (hb : b.Reached) {id : ProviderId}
    {t : Token} (h : .disconnect id t ∈ b.due) :
    0 < b.accepted (·.connects ⟨id, t⟩) := by
  have hdue : 0 < b.due.countP (·.releases ⟨id, t⟩) :=
    List.countP_pos_iff.mpr ⟨_, h, by simp [Call.releases]⟩
  have hstanding := hb.standing_eq ⟨id, t⟩
  omega

/-- A call to connect comes back well once, at most. -/
theorem Reached.accepted_le_one (hb : b.Reached) (l : Link) :
    b.accepted (·.connects l) ≤ 1 := by
  have honce := (hb.connects_once l.token).1
  have hmade := hb.made_eq (·.connects l)
  have hreturned := b.accepted_le_returned (·.connects l)
  have hunder := b.made_connects_le l
  omega

/-- Under one token one release is made, at most. -/
theorem Reached.releases_once (hb : b.Reached) (t : Token) :
    b.made (·.releasesUnder t) ≤ 1 := by
  by_cases hnone : b.made (·.releasesUnder t) = 0
  · omega
  · obtain ⟨m, hm, hcalls⟩ :=
      List.countP_pos_iff.mp (Nat.pos_of_ne_zero hnone)
    obtain ⟨id, rfl⟩ := Moment.calls_releasesUnder_iff.mp hcalls
    -- the link of one release is the link of every other
    have hlink : b.made (·.releasesUnder t) ≤ b.made (·.releases ⟨id, t⟩) := by
      refine List.countP_mono_left fun m' hm' hcalls' => ?_
      obtain ⟨id', rfl⟩ := Moment.calls_releasesUnder_iff.mp hcalls'
      cases hb.link_unique (hb.accepted_of_released hm)
        (hb.accepted_of_released hm')
      exact Moment.calls_releases_iff.mpr rfl
    have hstanding := hb.standing_eq ⟨id, t⟩
    have hle := hb.accepted_le_one ⟨id, t⟩
    omega

/-- When a release begins, the call to connect has come back well. -/
theorem Reached.release_after_connect (hb : b.Reached) {id : ProviderId}
    {t : Token} {later earlier : List Moment}
    (hpast : b.past = later ++ .called (.disconnect id t) :: earlier) :
    ∃ p, p.id = id ∧ .returned (.connect p t) .accepted ∈ earlier := by
  obtain ⟨b₀, hb₀, rfl, hdue⟩ := hb.called_was_due hpast
  exact returned_of_accepted (hb₀.accepted_of_due hdue)

-- ========================================================== nothing owed

/-- When no call is due or running, the links connected well are those that
stand and those that were released. -/
theorem Reached.settled (hb : b.Reached) (hdue : b.due = [])
    (hrunning : b.running = []) (l : Link) :
    b.host.groups.opening l = 0
      ∧ b.host.groups.standing l + b.made (·.releases l)
        = b.accepted (·.connects l) := by
  have hopening := hb.opening_le l
  have hstanding := hb.standing_eq l
  rw [hdue, hrunning] at hopening
  rw [hdue] at hstanding
  exact ⟨Nat.le_zero.mp hopening, hstanding⟩

/-- When no call is due or running, what was connected well was released if
and only if no live group stands for it. -/
theorem Reached.released_iff (hb : b.Reached) (hdue : b.due = [])
    (hrunning : b.running = []) (t : Token) :
    (∃ id, .called (.disconnect id t) ∈ b.past)
      ↔ (∃ p, .returned (.connect p t) .accepted ∈ b.past)
        ∧ ∀ id g, b.host.groups.find? id = some g → g.token ≠ t := by
  constructor
  · rintro ⟨id, hreleased⟩
    have haccepted := hb.accepted_of_released hreleased
    obtain ⟨p, -, hreturned⟩ := returned_of_accepted haccepted
    refine ⟨⟨p, hreturned⟩, ?_⟩
    intro id' g hg htoken
    have hlive : b.host.groups.live? id' t = some g :=
      GroupTable.live?_eq_some_iff.mpr
        ⟨GroupTable.find?_eq_some_iff.mp hg, htoken⟩
    obtain ⟨hopening, hstanding⟩ := hb.settled hdue hrunning ⟨id', t⟩
    unfold GroupTable.opening at hopening
    unfold GroupTable.standing at hstanding
    rw [hlive, Option.any_some] at hopening hstanding
    have hconnecting : g.connecting = false := by
      cases hc : g.connecting with
      | false => rfl
      | true =>
          rw [hc] at hopening
          cases hopening
    rw [hconnecting] at hstanding
    have hpos : 0 < b.accepted (·.connects ⟨id', t⟩) := by
      rw [← hstanding]
      exact Nat.lt_of_lt_of_le Nat.one_pos (Nat.le_add_right _ _)
    cases hb.link_unique haccepted hpos
    have hmade : 0 < b.made (·.releases ⟨id, t⟩) :=
      List.countP_pos_iff.mpr
        ⟨_, hreleased, Moment.calls_releases_iff.mpr rfl⟩
    have hle := hb.accepted_le_one ⟨id, t⟩
    have hone : (!false).toNat = 1 := rfl
    omega
  · rintro ⟨⟨p, hreturned⟩, hgone⟩
    have haccepted : 0 < b.accepted (·.connects ⟨p.id, t⟩) :=
      List.countP_pos_iff.mpr
        ⟨_, hreturned, Moment.accepts_connects_iff.mpr ⟨p, rfl, rfl⟩⟩
    have hnone : b.host.groups.live? p.id t = none :=
      GroupTable.live?_eq_none_iff.mpr fun g hg =>
        hgone p.id g (GroupTable.find?_eq_some_iff.mpr hg)
    obtain ⟨-, hstanding⟩ := hb.settled hdue hrunning ⟨p.id, t⟩
    unfold GroupTable.standing at hstanding
    rw [hnone, Option.any_none, Bool.toNat_false, Nat.zero_add] at hstanding
    rw [← hstanding] at haccepted
    obtain ⟨m, hm, hcalls⟩ := List.countP_pos_iff.mp haccepted
    rw [Moment.calls_releases_iff] at hcalls
    exact ⟨p.id, hcalls ▸ hm⟩

end Ledger

/-- Under each token a run makes one call to connect at most and one release
at most; a release begins only after the call to connect came back well;
and once no call is in progress, what was connected well was released if
and only if no live group carries the token. -/
theorem Journal.connection_released_once {j : Journal} (hj : j.Reached)
    (t : Token) :
    j.past.countP (·.calls (·.connectsUnder t)) ≤ 1
      ∧ j.past.countP (·.calls (·.releasesUnder t)) ≤ 1
      ∧ (∀ later earlier id,
          j.past = later ++ .called (.disconnect id t) :: earlier →
            ∃ p, p.id = id
              ∧ .returned (.connect p t) .accepted ∈ earlier)
      ∧ (j.machine.stack = [] →
          ((∃ id, .called (.disconnect id t) ∈ j.past)
            ↔ (∃ p, .returned (.connect p t) .accepted ∈ j.past)
              ∧ ∀ id g, j.host.groups.find? id = some g →
                  g.token ≠ t)) := by
  have hb := hj.ledger
  refine ⟨?_, hb.releases_once t, ?_, ?_⟩
  · exact Nat.le_of_add_left_le (hb.connects_once t).1
  · intro later earlier id hpast
    exact hb.release_after_connect hpast
  · intro hstack
    have hdue : j.ledger.due = [] := by
      unfold ledger
      rw [hstack]
      rfl
    have hrunning : j.ledger.running = [] := by
      unfold ledger
      rw [hstack]
      rfl
    exact hb.released_iff hdue hrunning t

/-- The user is dropped while the connector is called; then the connector
returns, and the release after it. -/
def Sample.dropping : List Move :=
  opening ++ [operate .stopServing, .answer .accepted, .answer .accepted]

/-- A connection whose group left while the connector was called is released
once the connector has returned. -/
theorem Journal.late_connection_released :
    ∃ j, Sample.start.after? Sample.dropping = some j
      ∧ ∃ id, .called (.disconnect id ⟨1⟩) ∈ j.past := by
  obtain ⟨j, hj, hend⟩ := (Option.any_eq_true
    (fun j : Journal => decide (j.machine.stack = [])
      && decide (j.host.groups.entries = [])
      && decide (.returned (.connect Sample.provider ⟨1⟩) .accepted ∈ j.past))
    _).mp (show (Sample.start.after? Sample.dropping).any _ = true from rfl)
  simp only [Bool.and_eq_true, decide_eq_true_eq] at hend
  obtain ⟨⟨hstack, hnone⟩, hreturned⟩ := hend
  have hsettled :=
    (connection_released_once (Reached.of_after hj) ⟨1⟩).2.2.2 hstack
  refine ⟨j, hj, hsettled.mpr ⟨⟨_, hreturned⟩, fun id g hg => ?_⟩⟩
  rw [GroupTable.find?_eq_some_iff, hnone] at hg
  cases hg

end SpellSessions
