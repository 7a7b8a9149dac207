/-
Turns and returns: which transaction each of them makes, and what else it
changes.

A turn of the service makes one transaction of the groups, named by
`Entry.transaction`, and replaces the registry, the user and whether the
user is served, as `Entry.serves` says; the turn owes the calls of its
transaction and no others (`host_enter`, `calls_enter`). The return of a
call makes the transaction that `Call.transaction` names. What the machine
does with the calls, whichever of the two owes them, is `Follows`: the
next call of the round begins, or the round is over.
-/
import SpellSessions.Proofs.Transaction.Effect

namespace SpellSessions

-- ================================================== what an entry makes

/-- The request for a session that goes on to the groups: the provider is
named and known and does not keep the caller waiting, and the caller's user
is being served. -/
def Service.submission (s : Service) (id : ProviderId) (r : Request) :
    Transaction :=
  if id.isEmpty || s.host.isConnecting id
      || !s.host.isServing r.caller.user then .stay
  else
    match s.host.registry.get? id with
    | none => .stay
    | some p => .submit p r

/-- The transaction of an operation. -/
def Operation.transaction (s : Service) (around : Surroundings) :
    Operation → Transaction
  | .changeUser _ _ => .retireEvery
  | .stopServing => .retireEvery
  | .listenerLost l => .releaseListener l
  | .beginSession id r =>
    match s.turnedAway? around r.caller with
    | some _ => .stay
    | none => s.submission id r
  | .endSession c l =>
    match s.turnedAway? around c with
    | some _ => .stay
    | none => .releaseListener l
  | _ => .stay

/-- The transaction of a callback. -/
def Callback.transaction : Callback → Transaction
  | .connected link endpoint => .connected link endpoint
  | .disconnected link => .disconnected link
  | .delivered handle session => .answered handle session

/-- The transaction of a direct entry. -/
def DirectEntry.transaction (s : Service) : DirectEntry → Transaction
  | .request p r => if s.host.isConnecting p.id then .stay else .submit p r
  | .releaseListener l => .releaseListener l
  | .retireEvery => .retireEvery

/-- The transaction of an entry. -/
def Entry.transaction (s : Service) (around : Surroundings) :
    Entry → Transaction
  | .operation op => op.transaction s around
  | .callback report => report.transaction
  | .direct entry => entry.transaction s

/-- The registry that discovery gives for a user. -/
def Surroundings.registryFor (around : Surroundings) (u : UserId) : Registry :=
  (Registry.ofDescriptors (around.discover u)).value

/-- What an operation makes of the registry, the user and whether the user
is served. -/
def Operation.serves (s : Service) (around : Surroundings) :
    Operation → Host → Host
  | .changeUser u unlocked => fun h =>
    { h with
      registry := if unlocked then around.registryFor u else .empty
      user := some u
      active := unlocked }
  | .userUnlocked u => fun h =>
    if s.host.user = some u && !s.host.active then
      { h with registry := around.registryFor u, active := true }
    else h
  | .stopServing => fun h => { h with registry := .empty, active := false }
  | .packagesChanged news => fun h =>
    if s.host.isServing news.user then
      { h with registry := around.registryFor news.user }
    else h
  | _ => id

/-- What an entry makes of the registry, the user and whether the user is
served. -/
def Entry.serves (s : Service) (around : Surroundings) : Entry → Host → Host
  | .operation op => op.serves s around
  | _ => id

/-- The calls that a turn owes. -/
def Turn.calls (t : Turn) : List Call :=
  match t.verdict with
  | .owes calls _ => calls
  | _ => []

/-- Whether an event is a log entry. -/
def Event.isNotice : Event → Bool
  | .noticed _ => true
  | _ => false

/-- What is seen besides the log: discovery asked, selections stored, and
collaborators called. -/
def Event.acts (events : List Event) : List Event :=
  events.filter (!·.isNotice)

-- ============================================= the parts of an operation

namespace Service

variable {s : Service} {around : Surroundings}

theorem ensureSelection_keeps (d : Draft) (u : UserId) :
    (ensureSelection d around u).service.host = d.service.host
      ∧ (ensureSelection d around u).calls = d.calls := by
  unfold ensureSelection
  split
  · exact ⟨rfl, rfl⟩
  · dsimp only
    split <;> exact ⟨rfl, rfl⟩

theorem beginServing_host (d : Draft) (u : UserId) :
    (beginServing d around u).service.host
        = { d.service.host with
            registry := around.registryFor u, active := true }
      ∧ (beginServing d around u).calls = d.calls :=
  ensureSelection_keeps _ u

theorem verdict_packagesChanged (s : Service) (around : Surroundings)
    (news : PackageNews) :
    (s.packagesChanged around news).verdict = .replied .done := by
  unfold packagesChanged
  split
  · rfl
  · dsimp only
    cases s.providerFor? news.user with
    | none => rfl
    | some current =>
        dsimp only
        split
        · rfl
        · cases (replacement _ around current).value <;> rfl

/-- A change of packages rebuilds the registry of the user served. -/
theorem packagesChanged_host (news : PackageNews) :
    (s.packagesChanged around news).service.host
        = (Operation.packagesChanged news).serves s around s.host
      ∧ (s.packagesChanged around news).calls = [] := by
  constructor
  · unfold packagesChanged Operation.serves
    dsimp only
    cases s.host.isServing news.user with
    | false => rfl
    | true =>
        rw [Bool.not_true, if_neg Bool.false_ne_true, if_pos rfl]
        split
        · rfl
        · split
          · rfl
          · split <;> rfl
  · unfold Turn.calls
    rw [verdict_packagesChanged]

/-- A session that is asked for is submitted, or nothing happens. -/
theorem beginSession_host (id : ProviderId) (r : Request) :
    (s.beginSession id r).service.host
        = ((s.submission id r).decision s.host).host
      ∧ (s.beginSession id r).calls
        = ((s.submission id r).decision s.host).calls := by
  unfold beginSession resumeSession submission
  cases id.isEmpty with
  | true => exact ⟨rfl, rfl⟩
  | false =>
      cases s.host.isConnecting id with
      | true => exact ⟨rfl, rfl⟩
      | false =>
          cases s.host.isServing r.caller.user with
          | false => exact ⟨rfl, rfl⟩
          | true => cases s.host.registry.get? id <;> exact ⟨rfl, rfl⟩

-- ========================================================= every entry

/-- A caller who is turned away changes nothing. -/
theorem forCaller_host {turn : Turn} {tx : Transaction} (c : Caller)
    (hturn : turn.service.host = (tx.decision s.host).host
      ∧ turn.calls = (tx.decision s.host).calls) :
    let tx' : Transaction :=
      match s.turnedAway? around c with
      | some _ => .stay
      | none => tx
    (s.forCaller around c turn).service.host = (tx'.decision s.host).host
      ∧ (s.forCaller around c turn).calls = (tx'.decision s.host).calls := by
  unfold forCaller
  cases s.turnedAway? around c with
  | none => exact hturn
  | some refusal => exact ⟨rfl, rfl⟩

theorem forCaller_asks {turn : Turn} (c : Caller)
    (hturn : turn.service.host = s.host ∧ turn.calls = []) :
    (s.forCaller around c turn).service.host = s.host
      ∧ (s.forCaller around c turn).calls = [] := by
  unfold forCaller
  split
  · exact ⟨rfl, rfl⟩
  · exact hturn

/-- What an operation makes of the host, and the calls it owes. -/
theorem operate_host (op : Operation) :
    (s.operate around op).service.host
        = op.serves s around ((op.transaction s around).decision s.host).host
      ∧ (s.operate around op).calls
        = ((op.transaction s around).decision s.host).calls := by
  cases op with
  | changeUser u unlocked =>
      cases unlocked with
      | false => exact ⟨rfl, rfl⟩
      | true =>
          exact beginServing_host _ u
  | userUnlocked u =>
      unfold operate userUnlocked Operation.serves
      dsimp only
      split
      · exact beginServing_host _ u
      · exact ⟨rfl, rfl⟩
  | stopServing => exact ⟨rfl, rfl⟩
  | packagesChanged news => exact packagesChanged_host news
  | listenerLost l => exact ⟨rfl, rfl⟩
  | askProvider c context => exact forCaller_asks c ⟨rfl, rfl⟩
  | askSubtype c input allowImplicit => exact forCaller_asks c ⟨rfl, rfl⟩
  | beginSession id r => exact forCaller_host r.caller (beginSession_host id r)
  | endSession c l => exact forCaller_host c ⟨rfl, rfl⟩
  | askEnabled c => exact forCaller_asks c ⟨rfl, rfl⟩
  | askProviders c => exact forCaller_asks c ⟨rfl, rfl⟩
  | selectProvider c id =>
      refine forCaller_asks c ?_
      unfold selectProvider
      split <;> exact ⟨rfl, rfl⟩
  | selectSubtype c hash => exact forCaller_asks c ⟨rfl, rfl⟩

theorem direct_host (entry : DirectEntry) :
    (s.direct entry).service.host
        = ((entry.transaction s).decision s.host).host
      ∧ (s.direct entry).calls
        = ((entry.transaction s).decision s.host).calls := by
  cases entry with
  | request p r =>
      unfold direct DirectEntry.transaction
      dsimp only
      split <;> exact ⟨rfl, rfl⟩
  | releaseListener l => exact ⟨rfl, rfl⟩
  | retireEvery => exact ⟨rfl, rfl⟩

/-- What an entry makes of the host. -/
theorem host_enter (e : Entry) :
    (s.enter around e).service.host
      = e.serves s around
          ((e.transaction s around).decision s.host).host := by
  cases e with
  | operation op => exact (operate_host op).1
  | callback report => cases report <;> rfl
  | direct entry => exact (direct_host entry).1

/-- A turn owes the calls of its transaction. -/
theorem calls_enter (e : Entry) :
    (s.enter around e).calls
      = ((e.transaction s around).decision s.host).calls := by
  cases e with
  | operation op => exact (operate_host op).2
  | callback report => cases report <;> rfl
  | direct entry => exact (direct_host entry).2

end Service

/-- Serving changes neither groups nor numbers given out: whatever reads
neither the registry nor the user reads the same. -/
theorem Entry.serves_keeps {s : Service} {around : Surroundings}
    {e : Entry} {α : Type} (part : Host → α)
    (hp : ∀ h registry user active,
      part { h with registry := registry, user := user, active := active }
        = part h)
    (h : Host) : part (e.serves s around h) = part h := by
  cases e with
  | operation op =>
      cases op with
      | changeUser u unlocked => exact hp h _ _ _
      | userUnlocked u =>
          unfold serves Operation.serves
          dsimp only
          split
          · exact hp h _ h.user _
          · rfl
      | stopServing => exact hp h _ h.user _
      | packagesChanged news =>
          unfold serves Operation.serves
          dsimp only
          split
          · exact hp h _ h.user h.active
          · rfl
      | _ => rfl
  | callback report => rfl
  | direct entry => rfl

/-- Only a callback makes the transaction of a callback. -/
theorem Entry.callback_of_transaction {e : Entry} {s : Service}
    {around : Surroundings} {report : Callback}
    (h : e.transaction s around = report.transaction) :
    e = .callback report := by
  have hsubmission : ∀ id r, s.submission id r ≠ report.transaction := by
    intro id r
    unfold Service.submission
    split
    · cases report <;> exact nofun
    · split <;> cases report <;> exact nofun
  cases e with
  | operation op =>
      cases op with
      | beginSession id r =>
          unfold transaction Operation.transaction at h
          dsimp only at h
          split at h
          · cases report <;> cases h
          · exact absurd h (hsubmission id r)
      | endSession c listener =>
          unfold transaction Operation.transaction at h
          dsimp only at h
          split at h <;> cases report <;> cases h
      | _ => cases report <;> cases h
  | callback report' => cases report' <;> cases report <;> cases h <;> rfl
  | direct entry =>
      cases entry with
      | request p r =>
          unfold transaction DirectEntry.transaction at h
          dsimp only at h
          split at h <;> cases report <;> cases h
      | _ => cases report <;> cases h

-- ================================================= what a return makes

/-- The transaction that the return of a call makes. -/
def Call.transaction : Call → Answer → Transaction
  | .connect p t, .accepted => .established ⟨p.id, t⟩
  | .connect p t, .declined _ => .forgetRefused ⟨p.id, t⟩
  | .create id t _ _ _, .declined _ => .dropWork ⟨id, t⟩
  | .notify id t _ _ l _, .declined _ => .ownerLost ⟨id, t⟩ l
  | _, _ => .stay

/-- What a return makes of the host. -/
theorem Frame.host_returned (f : Frame) (h : Host) (a : Answer) :
    (f.returned h a).1.host = ((f.call.transaction a).decision h).host := by
  unfold Frame.returned
  cases a <;> cases f.call <;> rfl

/-- A return owes the calls of its transaction. -/
theorem Frame.calls_returned (f : Frame) (h : Host) (a : Answer) :
    (f.returned h a).1.calls = ((f.call.transaction a).decision h).calls := by
  unfold Frame.returned
  cases a <;> cases f.call <;> rfl

-- ================================================== what the machine does

namespace Round

variable {r : Round} {c : Call} {rest : List Call}

/-- Nothing has failed in a round that starts, so it skips nothing. -/
theorem skips_start (calls : List Call) (manner : Manner) (c : Call) :
    (Round.start calls manner).skips c = false := by
  unfold skips start
  rw [List.contains_nil, Bool.and_false]

theorem next?_of_skips (hqueue : r.queue = c :: rest)
    (hskips : r.skips c = true) :
    r.next? = ({ r with queue := rest } : Round).next? := by
  unfold next?
  rw [hqueue, List.dropWhile_cons_of_pos hskips]
  rfl

theorem next?_of_not_skips (hqueue : r.queue = c :: rest)
    (hskips : ¬ r.skips c = true) :
    r.next? = some ⟨c, { r with queue := rest }⟩ := by
  unfold next?
  rw [hqueue, List.dropWhile_cons_of_neg hskips]

end Round

/-- How a round goes on from the calls in progress around it. -/
inductive Progress.Follows (outer : List Frame) (r : Round)
    (p : Progress) : Prop
  /-- The next call of the round begins. -/
  | begins (f : Frame) (hnext : r.next? = some f)
      (hstack : p.machine.stack = f :: outer) (hreply : p.reply = none)
  /-- The round is over. -/
  | ends (reply : Reply) (hnext : r.next? = none)
      (hstack : p.machine.stack = outer) (hreply : p.reply = some reply)

/-- A call in progress when a round went on was in progress around it, or is
the next of the round. -/
theorem Progress.Follows.mem_stack {outer : List Frame} {r : Round}
    {p : Progress} (hp : p.Follows outer r) {f : Frame}
    (hf : f ∈ p.machine.stack) : f ∈ outer ∨ r.next? = some f := by
  cases hp with
  | begins f' hnext hstack hreply =>
      rw [hstack, List.mem_cons] at hf
      rcases hf with rfl | hf
      · exact .inr hnext
      · exact .inl hf
  | ends reply hnext hstack hreply =>
      rw [hstack] at hf
      exact .inl hf

theorem Progress.Follows.outer_suffix {outer : List Frame} {r : Round}
    {p : Progress} (hp : p.Follows outer r) : outer <:+ p.machine.stack := by
  cases hp with
  | begins f hnext hstack hreply => exact ⟨[f], hstack.symm⟩
  | ends reply hnext hstack hreply => exact ⟨[], hstack.symm⟩

namespace Machine

variable {m : Machine} {p : Progress}

/-- A round that goes on leaves the service alone and follows. -/
theorem proceed_follows (r : Round) (events : List Event) :
    (m.proceed r events).machine.service = m.service
      ∧ (m.proceed r events).Follows m.stack r := by
  unfold proceed
  cases hnext : r.next? with
  | none => exact ⟨rfl, .ends r.reply hnext rfl rfl⟩
  | some f => exact ⟨rfl, .begins f hnext rfl rfl⟩

/-- An operation that is answered on the spot. -/
theorem enter_operation {around : Surroundings} {op : Operation}
    {s : Service} {events : List Event} {reply : Reply}
    (h : m.service.operate around op = ⟨s, events, .replied reply⟩) :
    m.enter around (.operation op)
      = .taken ⟨{ m with service := s }, events, some reply⟩ := by
  unfold enter
  dsimp only [Service.enter]
  rw [h]

/-- An operation that owes calls goes on with the first of them. -/
theorem enter_operation_owing {around : Surroundings} {op : Operation}
    {s : Service} {events : List Event} {calls : List Call}
    {manner : Manner}
    (h : m.service.operate around op = ⟨s, events, .owes calls manner⟩) :
    m.enter around (.operation op)
      = .taken (({ m with service := s } : Machine).proceed
          (.start calls manner) events) := by
  unfold enter
  dsimp only [Service.enter]
  rw [h]

/-- A change of packages is answered at once. -/
theorem enter_packagesChanged (m : Machine) (around : Surroundings)
    (news : PackageNews) :
    m.enter around (.operation (.packagesChanged news))
      = .taken
          ⟨{ m with
              service := (m.service.packagesChanged around news).service },
            (m.service.packagesChanged around news).events, some .done⟩ := by
  unfold enter
  dsimp only [Service.enter, Service.operate]
  rw [Service.verdict_packagesChanged]

/-- A turn that is taken ends in the round of the calls it owes. -/
theorem enter_follows {around : Surroundings} {e : Entry}
    (h : m.enter around e = .taken p) :
    p.machine.service = (m.service.enter around e).service
      ∧ ∃ manner, p.Follows m.stack
          (.start (m.service.enter around e).calls manner) := by
  unfold enter at h
  dsimp only at h
  unfold Turn.calls
  split at h
  · next r hv =>
      cases h
      rw [hv]
      exact ⟨rfl, .reported, .ends r rfl rfl rfl⟩
  · next calls manner hv =>
      cases h
      rw [hv]
      obtain ⟨hs, hf⟩ := proceed_follows (m := { m with
        service := (m.service.enter around e).service })
        (.start calls manner) (m.service.enter around e).events
      exact ⟨hs, manner, hf⟩
  · cases h

/-- A return goes on with the round that made the call. -/
theorem answer_follows {a : Answer} {f : Frame} {outer : List Frame}
    (hstack : m.stack = f :: outer) (h : m.answer a = some p) :
    p.machine.service.host
        = ((f.call.transaction a).decision m.service.host).host
      ∧ p.Follows outer ((f.returned m.service.host a).2.append
          ((f.call.transaction a).decision m.service.host).calls) := by
  unfold answer at h
  rw [hstack] at h
  cases h
  rw [← f.host_returned, ← f.calls_returned]
  obtain ⟨hs, hf⟩ := proceed_follows (m := ⟨{ m.service with
      host := (f.returned m.service.host a).1.host }, outer⟩)
    ((f.returned m.service.host a).2.append
      (f.returned m.service.host a).1.calls)
    ((f.returned m.service.host a).1.notices.map .noticed)
  exact ⟨congrArg Service.host hs, hf⟩

end Machine

end SpellSessions
