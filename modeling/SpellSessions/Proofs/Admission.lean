/-
Admission: a refused connection drops the request that asked for it, and
nothing else.

The entry that opens a group makes the call to connect, and it is answered
when that call has returned (`Opening`). Until then a request for the same
provider waits outside, so the group works for the one request that opened
it, whatever callbacks and other entries do in the meantime
(`Opening.worksFor`). Conversely a call to connect that is in progress was
made by such an entry, as its only call (`opening_of_connect`), so that a
refusal is the answer to that entry.
-/
import SpellSessions.Proofs.Batch
import SpellSessions.Proofs.Described
import SpellSessions.Proofs.Release
import SpellSessions.Proofs.Transaction.Opening

namespace SpellSessions

-- =================================================== an entry that asks

/-- The provider and the request of an entry that asks for a session. -/
def Entry.session? : Entry → Option (ProviderId × Request)
  | .operation (.beginSession id r) => some (id, r)
  | .direct (.request p r) => some (p.id, r)
  | _ => none

/-- Only an entry that asks for a session submits a request, while the
provider is not connecting; and it is answered with the refusal of a
connection, if there is one. -/
theorem Entry.asks_of_submit {e : Entry} {s : Service}
    {around : Surroundings} {p : Provider} {r : Request}
    (h : e.transaction s around = .submit p r) :
    e.session? = some (p.id, r) ∧ s.host.isConnecting p.id = false
      ∧ (s.enter around e).verdict
          = .owes (s.enter around e).calls .reported := by
  cases e with
  | operation op =>
      cases op with
      | beginSession id r' =>
          unfold transaction Operation.transaction Service.submission at h
          dsimp only at h
          split at h
          · cases h
          · next hallowed =>
              split at h
              · cases h
              · next hnot =>
                  split at h
                  · cases h
                  · next p' hp =>
                      cases h
                      obtain ⟨rfl, -⟩ := Registry.get?_eq_some hp
                      simp only [Bool.or_eq_true, not_or, Bool.not_eq_true,
                        and_assoc] at hnot
                      obtain ⟨hid, hcon, hserving⟩ := hnot
                      refine ⟨rfl, hcon, ?_⟩
                      unfold Service.enter Service.operate Service.forCaller
                        Service.beginSession Service.resumeSession
                      dsimp only
                      rw [hallowed, hid, hcon, hserving, hp]
                      rfl
      | endSession c l =>
          unfold transaction Operation.transaction at h
          dsimp only at h
          split at h <;> cases h
      | _ => cases h
  | callback report => cases report <;> cases h
  | direct entry =>
      cases entry with
      | request p' r' =>
          unfold transaction DirectEntry.transaction at h
          dsimp only at h
          split at h
          · cases h
          · next hnot =>
              cases h
              rw [Bool.not_eq_true] at hnot
              refine ⟨rfl, hnot, ?_⟩
              unfold Service.enter Service.direct
              dsimp only
              rw [hnot]
              rfl
      | _ => cases h

namespace Machine

variable {m : Machine} {p : Progress}

/-- An entry whose one call is to connect makes the call, and reports the
refusal. -/
theorem enter_connect {around : Surroundings} {e : Entry}
    {q : Provider} {t : Token}
    (hverdict : (m.service.enter around e).verdict
      = .owes [.connect q t] .reported)
    (htaken : m.enter around e = .taken p) :
    p.machine.stack = ⟨.connect q t, .start [] .reported⟩ :: m.stack := by
  unfold enter at htaken
  dsimp only at htaken
  rw [hverdict] at htaken
  cases htaken
  rfl

/-- A refused connection ends the entry that asked for it. -/
theorem answer_refused (hb : m.service.host.groups.Busy) {q : Provider}
    {t : Token} {outer : List Frame}
    (hstack : m.stack = ⟨.connect q t, .start [] .reported⟩ :: outer)
    (reason : String) :
    ∃ p, m.answer (.declined reason) = some p
      ∧ p.machine.service.host
        = ((Transaction.forgetRefused ⟨q.id, t⟩).decision m.service.host).host
      ∧ p.machine.stack = outer
      ∧ p.reply = some (.refused (.connectRefused ⟨q.id, reason⟩)) := by
  have hcalls : ((Transaction.forgetRefused ⟨q.id, t⟩).decision
      m.service.host).calls = [] := Transaction.calls_decision hb
  have hcalls' : ((m.service.host.stay [.connectRefused ⟨q.id, reason⟩]).andThen
      (·.forgetRefused q.id t)).calls = [] := hcalls
  unfold answer
  rw [hstack]
  dsimp only [Frame.returned]
  rw [hcalls']
  exact ⟨_, rfl, rfl, rfl, rfl⟩

end Machine

namespace Journal

variable {j j' k : Journal} {mv : Move} {f : Frame} {outer frames : List Frame}
  {l : Link} {n : NumberedRequest} {g : Group} {c : Call} {p : Provider}
  {t : Token}

-- ============================================================ an opening

/-- An entry asked for a session and opened the link for it, as the first
one of its provider; and the call to connect that it made is still in
progress, in the middle of the given calls, so that it is not answered. -/
inductive Opening (l : Link) (n : NumberedRequest) (frames : List Frame) :
    Journal → Prop
  /-- The entry comes, and its call begins. -/
  | begins {k k' : Journal} (around : Surroundings) (e : Entry)
      (p : Provider) (hk : k.Reached)
      (hmove : k.move? (.enter around e) = some k')
      (hasks : e.session? = some (p.id, n.request))
      (hid : n.id = k.host.freshRequest)
      (hlink : l = ⟨p.id, k.host.freshToken⟩)
      (hnone : k.host.groups.find? p.id = none)
      (hframes : frames
        = ⟨.connect p l.token, .start [] .reported⟩ :: k.machine.stack)
      (hstack : k'.machine.stack = frames) : Opening l n frames k'
  /-- The call has not returned. -/
  | lasts {j j' : Journal} (mv : Move) (ho : Opening l n frames j)
      (hmove : j.move? mv = some j') (hs : frames <:+ j'.machine.stack) :
      Opening l n frames j'

theorem Opening.reached (ho : Opening l n frames j) : j.Reached := by
  induction ho with
  | begins around e p hk hmove => exact hk.move _ hmove
  | lasts mv _ hmove _ ih => exact ih.move mv hmove

theorem Opening.suffix (ho : Opening l n frames j) :
    frames <:+ j.machine.stack := by
  cases ho with
  | begins around e p hk hmove hasks hid hlink hnone hframes hstack =>
      exact hstack ▸ List.suffix_refl frames
  | lasts mv ho hmove hs => exact hs

theorem Opening.frames_eq (ho : Opening l n frames j) :
    ∃ p outer, p.id = l.provider
      ∧ frames = ⟨.connect p l.token, .start [] .reported⟩ :: outer := by
  induction ho with
  | begins around e p hk hmove hasks hid hlink hnone hframes hstack =>
      exact ⟨p, _, by rw [hlink], hframes⟩
  | lasts mv ho hmove hs ih => exact ih

-- ============================================== calls that are in progress

/-- No call to connect is queued: it is made in the turn that owes it. -/
theorem Reached.not_connect_queued (hj : j.Reached)
    (hf : f ∈ j.machine.stack) (hc : c ∈ f.round.queue) :
    c ≠ .connect p t := by
  rintro rfl
  rcases hj.kind_of_queued hf hc with hcreate | hdisconnect
  · cases hcreate
  · cases hdisconnect

/-- An entry that owes a call to connect opens the link. -/
theorem Reached.opening_of_enter (hj : j.Reached) {around : Surroundings}
    {e : Entry} (hmove : j.move? (.enter around e) = some j')
    (hc : .connect p t ∈ ((e.transaction j.machine.service around).decision
      j.host).calls) :
    ∃ n, Opening ⟨p.id, t⟩ n j'.machine.stack j' := by
  obtain ⟨r, htx, hnone, rfl, hone⟩ :=
    Transaction.submit_of_connect hj.busy hc
  obtain ⟨hasks, -, hverdict⟩ := Entry.asks_of_submit htx
  obtain ⟨q, hheld, htaken, rfl⟩ := advance_of_enter hmove
  have hcalls : (j.machine.service.enter around e).calls = _ :=
    Service.calls_enter e
  rw [hcalls] at hverdict
  replace hverdict : (j.machine.service.enter around e).verdict
    = .owes [.connect p j.host.freshToken] .reported := hone ▸ hverdict
  have hstack := Machine.enter_connect hverdict htaken
  exact ⟨⟨j.host.freshRequest, r⟩, .begins around e p hj hmove hasks rfl rfl
    hnone hstack rfl⟩

/-- When a call returns, no call to connect begins: one that is in progress
afterwards was made before. -/
theorem Reached.suffix_of_answer (hj : j.Reached) {a : Answer}
    (hmove : j.move? (.answer a) = some j')
    (hs : f :: outer <:+ j'.machine.stack) (hcall : f.call = .connect p t) :
    f :: outer <:+ j.machine.stack.tail := by
  obtain ⟨f₀, outer₀, q, hstack, hanswer, rfl⟩ := advance_of_answer hmove
  obtain ⟨-, hfollows⟩ := Machine.answer_follows hstack hanswer
  rw [hstack, List.tail_cons]
  replace hs : f :: outer <:+ q.machine.stack := hs
  cases hfollows with
  | begins f₁ hnext hstack' hreply =>
      rw [hstack', List.suffix_cons_iff] at hs
      rcases hs with heq | hs
      · exfalso
        cases heq
        have hmem : f.call ∈ (f₀.returned j.host a).2.queue
            ++ ((f₀.call.transaction a).decision j.host).calls :=
          Round.mem_of_next hnext
        rw [f₀.queue_returned, hcall] at hmem
        rcases List.mem_append.mp hmem with hqueued | hnew
        · exact hj.not_connect_queued (hstack ▸ List.mem_cons_self) hqueued rfl
        · cases Transaction.isDisconnect_of_return hj.busy hnew
      · exact hs
  | ends reply hnext hstack' hreply =>
      rw [hstack'] at hs
      exact hs

/-- A call to connect that is in progress was made by an entry that opened
its link. -/
theorem Reached.opening_of_connect (hj : j.Reached)
    (hs : f :: outer <:+ j.machine.stack) (hcall : f.call = .connect p t) :
    ∃ n, Opening ⟨p.id, t⟩ n (f :: outer) j := by
  induction hj with
  | begin rule settings => cases List.suffix_nil.mp hs
  | @move j j' mv hj hmove ih =>
      have hlasts : f :: outer <:+ j.machine.stack →
          ∃ n, Opening ⟨p.id, t⟩ n (f :: outer) j' := by
        intro hbefore
        obtain ⟨n, ho⟩ := ih hbefore
        exact ⟨n, .lasts mv ho hmove hs⟩
      cases mv with
      | enter around e =>
          obtain ⟨q, hheld, htaken, rfl⟩ := advance_of_enter hmove
          obtain ⟨-, manner, hfollows⟩ := Machine.enter_follows htaken
          have hstack : q.machine.stack
              = (j.advance (.entered e) q).machine.stack := rfl
          cases hfollows with
          | begins f₁ hnext hstack' hreply =>
              rw [← hstack, hstack', List.suffix_cons_iff] at hs
              rcases hs with heq | hbefore
              · -- the call begins with this entry
                have hmem : f₁.call ∈ (j.machine.service.enter around e).calls
                  := Round.mem_of_next hnext
                rw [Service.calls_enter, ← (List.cons.inj heq).1, hcall] at hmem
                obtain ⟨n, ho⟩ := hj.opening_of_enter hmove hmem
                rw [← hstack, hstack', ← heq] at ho
                exact ⟨n, ho⟩
              · exact hlasts hbefore
          | ends reply hnext hstack' hreply =>
              rw [← hstack, hstack'] at hs
              exact hlasts hs
      | answer a =>
          have htail := hj.suffix_of_answer hmove hs hcall
          exact hlasts (htail.trans (List.tail_suffix _))
      | store settings | reorder groups =>
          obtain ⟨s, -, rfl⟩ := reorders_of_aside rfl hmove
          exact hlasts hs

/-- Of the calls in progress one connects a link, at most. -/
theorem Reached.running_connects_le (hj : j.Reached) (t : Token) :
    j.machine.stack.countP (·.call.connectsUnder t) ≤ 1 := by
  have honce := (hj.ledger.connects_once t).1
  have hmade := hj.ledger.made_eq (·.connectsUnder t)
  have hrunning : j.ledger.running.countP (·.connectsUnder t)
      = j.machine.stack.countP (·.call.connectsUnder t) := List.countP_map
  omega

-- ====================================================== the work it opened

/-- What a move does to a link whose call to connect is in progress: it does
not end the connecting, and nobody submits to its group. -/
theorem Opening.transacts (ho : Opening l n frames j)
    (hmove : j.move? mv = some j') (hs : frames <:+ j'.machine.stack) :
    ∃ tx : Transaction, j'.host.Matches (tx.decision j.host).host
      ∧ tx.endsConnecting l = false
      ∧ ∀ p r, tx = .submit p r → j.host.isConnecting p.id = false := by
  have hj := ho.reached
  cases mv with
  | enter around e =>
      obtain ⟨q, hheld, htaken, rfl⟩ := advance_of_enter hmove
      refine ⟨_, matches_of_enter htaken, ?_, fun p r htx => ?_⟩
      · exact Transaction.not_endsConnecting_of_isOpenTo l
          (e.isOpenTo_transaction j.machine.service around hheld)
      · exact (Entry.asks_of_submit htx).2.1
  | answer a =>
      obtain ⟨p, outer, hid, rfl⟩ := ho.frames_eq
      have htail := hj.suffix_of_answer hmove hs rfl
      obtain ⟨f₀, outer₀, q, hstack, hanswer, rfl⟩ := advance_of_answer hmove
      refine ⟨_, matches_of_answer hstack hanswer, ?_, fun p r htx => ?_⟩
      · -- the call that returns is another one
        rw [Call.endsConnecting_transaction, Bool.eq_false_iff]
        intro hconnects
        have honce := hj.running_connects_le l.token
        rw [hstack, List.tail_cons] at htail
        have hunder : f₀.call.connectsUnder l.token = true := by
          obtain ⟨p', -, hcall⟩ := Call.connects_iff.mp hconnects
          rw [hcall]
          exact decide_eq_true rfl
        have hpos : 0 < outer₀.countP (·.call.connectsUnder l.token) :=
          List.countP_pos_iff.mpr ⟨_, htail.subset List.mem_cons_self,
            decide_eq_true rfl⟩
        rw [hstack, List.countP_cons, if_pos hunder] at honce
        omega
      · cases hcall : f₀.call with
        | _ =>
            rw [hcall] at htx
            cases a <;> cases htx
  | store settings | reorder groups =>
      obtain ⟨s, hr, rfl⟩ := reorders_of_aside rfl hmove
      exact ⟨.stay, hr.matches, rfl, fun _ _ => nofun⟩

theorem Opening.token_le (ho : Opening l n frames j) :
    l.token.number ≤ j.host.tokens := by
  have hj := ho.reached
  obtain ⟨p, outer, -, rfl⟩ := ho.frames_eq
  have hmade := hj.ledger.made_eq (·.connectsUnder l.token)
  have hrunning : 0 < j.ledger.running.countP (·.connectsUnder l.token) := by
    refine List.countP_pos_iff.mpr ⟨.connect p l.token, ?_, decide_eq_true rfl⟩
    exact List.mem_map.mpr ⟨_, ho.suffix.subset List.mem_cons_self, rfl⟩
  exact hj.ledger.token_le_of_made (by omega)

theorem Reached.submit_of_stack (hj : j.Reached) {around : Surroundings}
    {e : Entry} {q : Progress} {round : Round}
    (htaken : j.machine.enter around e = .taken q)
    (hstack : q.machine.stack = ⟨.connect p t, round⟩ :: j.machine.stack) :
    ∃ r, e.transaction j.machine.service around = .submit p r := by
  obtain ⟨-, manner, hfollows⟩ := Machine.enter_follows htaken
  cases hfollows with
  | begins f₁ hnext hstack' hreply =>
      have hmem : f₁.call ∈ (j.machine.service.enter around e).calls :=
        Round.mem_of_next hnext
      rw [hstack] at hstack'
      rw [Service.calls_enter, ← (List.cons.inj hstack').1] at hmem
      obtain ⟨r, htx, -⟩ := Transaction.submit_of_connect hj.busy hmem
      exact ⟨r, htx⟩
  | ends reply hnext hstack' hreply =>
      rw [hstack] at hstack'
      exact absurd hstack' (List.cons_ne_self _ _)

/-- While the call to connect is in progress, the group of the link is
connecting, and works for the request that opened it. -/
theorem Opening.worksFor (ho : Opening l n frames j)
    (hl : j.host.groups.live? l.provider l.token = some g) :
    g.connecting = true ∧ g.WorksFor n := by
  induction ho generalizing g with
  | @begins k k' around e p hk hmove hasks hid hlink hnone hframes hstack =>
      obtain ⟨q, hheld, htaken, rfl⟩ := advance_of_enter hmove
      subst hlink
      obtain ⟨r, htx⟩ := hk.submit_of_stack htaken (hstack.trans hframes)
      have hhost := matches_of_enter htaken
      rw [htx] at hhost
      have hr := (Entry.asks_of_submit htx).1
      rw [hasks] at hr
      replace hl : q.machine.service.host.groups.live? p.id k.host.freshToken
        = some g := hl
      rw [hhost.live?] at hl
      have hbefore : k.host.groups.live? p.id k.host.freshToken = none := by
        unfold GroupTable.live?
        rw [hnone]
        rfl
      obtain ⟨hopened, -⟩ := Transaction.live?_opened hk.busy hbefore hl
      unfold Transaction.opens at hopened
      dsimp only at hopened
      rw [hnone] at hopened
      cases List.mem_singleton.mp hopened
      obtain ⟨id, request⟩ := n
      cases hid
      cases hr
      exact ⟨rfl, Group.worksFor_first _ _⟩
  | @lasts j j' mv ho hmove hs ih =>
      have hj := ho.reached
      obtain ⟨tx, hhost, hnot, hsubmit⟩ := ho.transacts hmove hs
      rw [hhost.live?] at hl
      cases hbefore : j.host.groups.live? l.provider l.token with
      | none =>
          have hgone := tx.gone_decision hj.busy ho.token_le hbefore
          rw [hgone] at hl
          cases hl
      | some g₀ =>
          obtain ⟨hconnecting, hworks⟩ := ih hbefore
          obtain ⟨he, htoken⟩ := GroupTable.live?_eq_some_iff.mp hbefore
          have hothers : ∀ p r, tx = .submit p r → p.id ≠ l.provider := by
            rintro p r htx hid
            have hwaits := hsubmit p r htx
            unfold Host.isConnecting at hwaits
            rw [hid, GroupTable.find?_eq_some_iff.mpr he, Option.any_some,
              hconnecting] at hwaits
            cases hwaits
          rw [Transaction.live?_decision hj.busy hbefore] at hl
          split at hl
          · cases hl
          · next hwork =>
              cases hl
              rw [Bool.not_eq_true] at hwork
              refine ⟨?_, Transaction.worksFor_leaves hworks
                (hj.busy _ he).1 hothers hwork⟩
              rw [Transaction.leaves_connecting_of_not_ends htoken hnot]
              exact hconnecting

/-- A group that is connecting was opened by an entry that is not
answered. -/
theorem Reached.opening_of_connecting (hj : j.Reached)
    (hl : j.host.groups.live? l.provider l.token = some g)
    (hconnecting : g.connecting = true) :
    ∃ n frames, Opening l n frames j := by
  have hopening := hj.ledger.opening_le l
  have hone : j.ledger.host.groups.opening l = 1 := by
    show j.host.groups.opening l = 1
    unfold GroupTable.opening
    rw [hl, Option.any_some, hconnecting]
    rfl
  have hdue : j.ledger.due.countP (·.connects l) = 0 := by
    rw [List.countP_eq_zero]
    intro c hc hconnects
    obtain ⟨f, hf, hqueued⟩ := queued_of_due hc
    obtain ⟨p, -, rfl⟩ := Call.connects_iff.mp hconnects
    exact hj.not_connect_queued hf hqueued rfl
  have hrunning : 0 < j.ledger.running.countP (·.connects l) := by omega
  obtain ⟨c, hc, hconnects⟩ := List.countP_pos_iff.mp hrunning
  obtain ⟨f, hf, rfl⟩ := List.mem_map.mp hc
  obtain ⟨p, hid, hcall⟩ := Call.connects_iff.mp hconnects
  obtain ⟨inner, outer, hstack⟩ := List.append_of_mem hf
  obtain ⟨n, ho⟩ := hj.opening_of_connect ⟨inner, hstack.symm⟩ hcall
  obtain ⟨provider, token⟩ := l
  cases hid
  exact ⟨n, _, ho⟩

-- ============================================================= a refusal

/-- A refused connection drops no request but the one that asked for it. A
group that is connecting has one item of work, that of the request for
which an entry opened it that is not answered; and when a call to connect
is refused, the entry that made it is answered with the refusal, and every
group stays as it is but the one that it opened, which works for its
request. -/
theorem refusal_drops_own_request (hj : j.Reached) :
    (∀ id g, j.host.groups.find? id = some g → g.connecting = true →
        g.pending.length + g.ongoing.length + g.listeners.length = 1
          ∧ ∃ n frames, Opening ⟨id, g.token⟩ n frames j ∧ g.WorksFor n)
      ∧ ∀ f outer p t reason, j.machine.stack = f :: outer →
          f.call = .connect p t →
            ∃ j' n, j.move? (.answer (.declined reason)) = some j'
              ∧ j'.machine.stack = outer
              ∧ j'.past
                = .replied (.refused (.connectRefused ⟨p.id, reason⟩))
                  :: .returned (.connect p t) (.declined reason) :: j.past
              ∧ Opening ⟨p.id, t⟩ n (f :: outer) j
              ∧ ∀ id g, j.host.groups.find? id = some g →
                  j'.host.groups.find? id = some g
                    ∨ id = p.id ∧ g.token = t ∧ g.WorksFor n := by
  constructor
  · intro id g hg hconnecting
    have hl : j.host.groups.live? id g.token = some g :=
      GroupTable.live?_of_find? hg
    obtain ⟨n, frames, ho⟩ :=
      hj.opening_of_connecting (l := ⟨id, g.token⟩) hl hconnecting
    obtain ⟨-, hworks⟩ := ho.worksFor hl
    exact ⟨hworks.length_eq_one, n, frames, ho, hworks⟩
  · intro f outer p t reason hstack hcall
    have hs : f :: outer <:+ j.machine.stack :=
      hstack ▸ List.suffix_refl (f :: outer)
    obtain ⟨n, ho⟩ := hj.opening_of_connect hs hcall
    obtain ⟨p', outer', -, hframes⟩ := ho.frames_eq
    cases hframes
    cases hcall
    obtain ⟨q, hanswer, hhost, houter, hreply⟩ :=
      Machine.answer_refused hj.busy hstack reason
    refine ⟨j.advance (.returned (.connect p t) (.declined reason)) q, n,
      move?_of_answered hstack hanswer, houter, ?_, ho, ?_⟩
    · unfold advance Progress.sequel
      rw [hreply]
      rfl
    · intro id g hg
      show q.machine.service.host.groups.find? id = some g ∨ _
      have he := GroupTable.find?_eq_some_iff.mp hg
      have hfind := (Transaction.forgetRefused ⟨p.id, t⟩).find?_decision
        hj.busy hg
      rw [show q.machine.service.host = _ from hhost]
      cases hof : (⟨p.id, t⟩ : Link).isOf id g with
      | true =>
          obtain ⟨hid, htoken⟩ := Bool.and_eq_true_iff.mp hof
          replace hid : p.id = id := of_decide_eq_true hid
          replace htoken : t = g.token := of_decide_eq_true htoken
          subst hid htoken
          have hl : j.host.groups.live? p.id g.token = some g :=
            GroupTable.live?_eq_some_iff.mpr ⟨he, rfl⟩
          exact .inr ⟨rfl, rfl, (ho.worksFor hl).2⟩
      | false =>
          have hsame : (Transaction.forgetRefused ⟨p.id, t⟩).leaves j.host id g
              = g := if_neg (by rw [hof]; exact Bool.false_ne_true)
          rw [hsame, (hj.busy _ he).2, if_neg Bool.false_ne_true] at hfind
          exact .inl hfind

end Journal

/-- From inside the call that connects it the provider is connected, and
answers the request. -/
def Sample.hasty : List Move :=
  opening ++ [.enter (around []) (.callback (.connected ⟨"p", ⟨1⟩⟩ ⟨"s"⟩)),
    .answer .accepted,
    .enter (around [])
      (.callback (.delivered ⟨"p", ⟨1⟩, ⟨1⟩⟩ (some ⟨"x"⟩))),
    .answer .accepted]

/-- Where the connection is refused after all, the listener that is dropped
is that of the request that is refused. -/
theorem Journal.hasty_connection_refused :
    ∃ j j' n g, Sample.start.after? Sample.hasty = some j
      ∧ j.move? (.answer (.declined "busy")) = some j'
      ∧ j.host.groups.find? "p" = some g ∧ g.listeners = [⟨1⟩]
      ∧ j'.host.groups.find? "p" = none
      ∧ Opening ⟨"p", ⟨1⟩⟩ n j.machine.stack j ∧ g.WorksFor n := by
  obtain ⟨j, hj, hend⟩ := (Option.any_eq_true
    (fun j : Journal =>
      decide (j.machine.stack.map Frame.call
          = [.connect Sample.provider ⟨1⟩])
        && (j.host.groups.find? "p").any
          (fun g : Group => decide (g.listeners = [⟨1⟩]))
        && (j.move? (.answer (.declined "busy"))).any
          (fun j' : Journal => (j'.host.groups.find? "p").isNone)) _).mp
    (show (Sample.start.after? Sample.hasty).any _ = true from rfl)
  rw [Bool.and_eq_true, Bool.and_eq_true, decide_eq_true_eq] at hend
  obtain ⟨⟨hcalls, hlistener⟩, hlast⟩ := hend
  obtain ⟨g, hg, hlisteners⟩ := (Option.any_eq_true _ _).mp hlistener
  obtain ⟨j', hmove, hgone⟩ := (Option.any_eq_true _ _).mp hlast
  obtain ⟨f, outer, hstack, hcall, -⟩ := List.map_eq_cons_iff.mp hcalls
  obtain ⟨j₁, n, hmove₁, -, -, ho, hgroups⟩ :=
    (refusal_drops_own_request (Reached.of_after hj)).2 f outer
      Sample.provider ⟨1⟩ "busy" hstack hcall
  cases hmove₁.symm.trans hmove
  have hgone := Option.isNone_iff_eq_none.mp hgone
  refine ⟨j, j', n, g, hj, hmove, hg, of_decide_eq_true hlisteners, hgone,
    hstack ▸ ho, ?_⟩
  rcases hgroups "p" g hg with hstays | ⟨-, -, hworks⟩
  · rw [hgone] at hstays
    cases hstays
  · exact hworks

end SpellSessions
