/-
Switching: a user who is locked when its turn begins, and unlocked later.

A switch has two parts. It retires everything that is there and makes it the
new user's turn (`Service.passedTo`), and it begins to serve the user
(`Service.serving`). For a user who is unlocked both are made in one turn,
else the second is left to the turn that tells of the unlocking. In between
lie the calls that release what was retired. They look at nothing and change
nothing (`Journal.unwind_releases`), so the service comes out alike.

# A switch and its calls

An operation is performed together with its calls: it enters, and each of the
calls that it owes returns, before anything else enters
(`Journal.perform?`). How the releases are answered makes no difference.
-/
import SpellSessions.Proofs.Connecting
import SpellSessions.Proofs.Serving
import SpellSessions.Proofs.Stores
import SpellSessions.Proofs.TurnedAway
import SpellSessions.Proofs.Unwinding

namespace SpellSessions

-- ================================================ retiring what is there

namespace Host

variable {h : Host}

/-- To retire every group changes nothing but the groups. -/
theorem host_retireEvery (hb : h.groups.Busy) :
    h.retireEvery.host = h.withGroups .empty := by
  have hrest : (Transaction.retireEvery.decision h).host.withGroups .empty
      = h.withGroups .empty :=
    Transaction.decision_keeps (·.withGroups .empty) (fun _ _ => rfl) nofun
  have hgroups : h.retireEvery.host.groups = .empty :=
    GroupTable.eq_of_entries (Transaction.entries_retireEvery hb)
  rw [← hrest, ← hgroups]
  rfl

/-- Where no group is connecting, the connections of all of them are released,
and nobody is called but for that. -/
theorem calls_retireEvery_of_settled (hb : h.groups.Busy)
    (hsettled : ∀ e ∈ h.groups.entries, e.2.connecting = false) :
    h.retireEvery.calls
      = h.connections.map fun l => .disconnect l.1 l.2 := by
  rw [Transaction.calls_retireEvery hb]
  unfold connections
  rw [List.map_map, ← List.filterMap_eq_map]
  refine List.filterMap_congr fun e he => ?_
  rw [hsettled e he]
  rfl

end Host

-- ============================================== the two parts of a switch

namespace Service

variable {s s' : Service} {around : Surroundings} {u : UserId}

/-- The service once it is a user's turn who is not served yet: nothing is
known, and no group is left. -/
def passedTo (s : Service) (u : UserId) : Service :=
  { s with
    host :=
      { s.host with
        registry := .empty, user := some u, active := false
        groups := .empty } }

/-- What is stored once a user is served: a selection that names a known
provider stays, and any other gives way to the default, if there is one. -/
def selectionFor (s : Service) (around : Surroundings) (u : UserId) :
    Settings :=
  match (around.registryFor u).get? (s.settings.providerOf u) with
  | some _ => s.settings
  | none =>
    match (s.rule.choose (around.registryFor u) none around.system).value with
    | none => s.settings
    | some p => s.settings.adopt p u

/-- The service once it serves the user whose turn it is. -/
def serving (s : Service) (around : Surroundings) (u : UserId) : Service :=
  { s with
    host := { s.host with registry := around.registryFor u, active := true }
    settings := s.selectionFor around u }

theorem service_beginServing (d : Draft) (around : Surroundings)
    (u : UserId) :
    (beginServing d around u).service = d.service.serving around u := by
  have hcurrent : ((rediscover d around u).mapHost fun h =>
      { h with active := true }).service.providerFor? u
      = (around.registryFor u).get? (d.service.settings.providerOf u) :=
    providerFor?_of_sound (Registry.sound_ofDescriptors _)
  unfold beginServing ensureSelection serving selectionFor
  rw [hcurrent]
  cases (around.registryFor u).get? (d.service.settings.providerOf u) with
  | some p => rfl
  | none =>
      show (match (d.service.rule.choose (around.registryFor u) none
        around.system).value with
        | none => _
        | some p => _ : Draft).service = _
      cases (d.service.rule.choose (around.registryFor u) none
        around.system).value <;> rfl

/-- The turn of a switch as far as it is the same for every user. -/
def switched (s : Service) (u : UserId) (unlocked : Bool) : Draft :=
  ((standDown s.draft).mapHost fun h => { h with user := some u }).note
    (.switchingUser u unlocked)

theorem service_switched (hb : s.host.groups.Busy) (u : UserId)
    (unlocked : Bool) : (s.switched u unlocked).service = s.passedTo u := by
  show { s with
    host := { s.host.retireEvery.host with
      registry := .empty, active := false, user := some u } } = _
  rw [Host.host_retireEvery hb]
  rfl

/-- What a switch to a user comes to. -/
theorem operate_changeUser (hb : s.host.groups.Busy) (around : Surroundings)
    (u : UserId) (unlocked : Bool) :
    ∃ events, s.operate around (.changeUser u unlocked)
      = ⟨if unlocked then (s.passedTo u).serving around u else s.passedTo u,
          events, .owes s.host.retireEvery.calls .logged⟩ := by
  have hswitched := service_switched hb u unlocked
  cases unlocked with
  | false =>
      refine ⟨(s.switched u false).events, ?_⟩
      show (s.switched u false).owing .logged = _
      unfold Draft.owing
      rw [hswitched]
      rfl
  | true =>
      refine ⟨(beginServing (s.switched u true) around u).events, ?_⟩
      show (beginServing (s.switched u true) around u).owing .logged = _
      unfold Draft.owing
      rw [service_beginServing, hswitched, (beginServing_host _ u).2]
      rfl

/-- A user who is unlocked while it waits to be served is served. -/
theorem operate_userUnlocked (around : Surroundings)
    (huser : s.host.user = some u) (hwaits : s.host.active = false) :
    ∃ events, s.operate around (.userUnlocked u)
      = ⟨s.serving around u, events, .owes [] .logged⟩ := by
  have hwaiting : (decide (s.host.user = some u) && !s.host.active)
      = true := by
    rw [decide_eq_true huser, hwaits]
    rfl
  refine ⟨(beginServing s.draft around u).events, ?_⟩
  unfold operate userUnlocked
  dsimp only
  rw [if_pos hwaiting]
  unfold Draft.owing
  rw [service_beginServing, (beginServing_host s.draft u).2]
  rfl

/-- A user who is unlocked is not served if it is another user's turn, or is
served already. -/
theorem operate_userUnlocked_of_not_waiting (around : Surroundings)
    (h : s.host.user ≠ some u ∨ s.host.active = true) :
    s.operate around (.userUnlocked u) = ⟨s, [], .owes [] .logged⟩ := by
  unfold operate userUnlocked
  dsimp only
  rw [if_neg]
  · rfl
  · rw [Bool.and_eq_true, decide_eq_true_eq, Bool.not_eq_true']
    rintro ⟨huser, hwaits⟩
    rcases h with hother | hactive
    · exact hother huser
    · rw [hactive] at hwaits
      cases hwaits

end Service

-- ================================================= an operation performed

namespace Machine

variable {m : Machine} {r : Round} {c : Call} {outer : List Frame}

/-- Where no call is left, the reply is due. -/
theorem proceed_nil (m : Machine) (events : List Event) :
    m.proceed (.start [] .logged) events = ⟨m, events, some .done⟩ := by
  simp [proceed, Round.start, Round.next?, Round.closing, Round.reply]

/-- The first call of a round in which nothing has failed begins. -/
theorem proceed_cons (m : Machine) (c : Call) (rest : List Call)
    (events : List Event) :
    m.proceed (.start (c :: rest) .logged) events
      = ⟨⟨m.service, ⟨c, .start rest .logged⟩ :: m.stack⟩,
          events ++ [.called c], none⟩ := by
  simp [proceed, Round.start, Round.next?, Round.skips]

/-- The return of a release changes nothing, whatever the answer. -/
theorem answer_disconnect (hc : c.isDisconnect = true)
    (hstack : m.stack = ⟨c, r⟩ :: outer) (a : Answer) :
    m.answer a
      = some ((⟨m.service, outer⟩ : Machine).proceed r []) := by
  have hqueue : r.append [] = r := by
    unfold Round.append
    rw [List.append_nil]
  cases c with
  | disconnect id t =>
      unfold answer
      rw [hstack]
      cases a <;> exact congrArg (fun r => some (proceed _ r [])) hqueue
  | _ => cases hc

end Machine

/-- The call that begins at a moment. -/
def Moment.call? : Moment → Option Call
  | .called c => some c
  | _ => none

namespace Journal

variable {j k : Journal}

/-- The calls made so far, the latest first. -/
def callsMade (j : Journal) : List Call :=
  j.past.filterMap (·.call?)

theorem callsMade_advance (j : Journal) {cause : Moment} (p : Progress)
    (hcause : cause.call? = none) :
    (j.advance cause p).callsMade
      = p.sequel.filterMap (·.call?) ++ j.callsMade := by
  unfold callsMade advance
  rw [List.filterMap_append, List.filterMap_cons_none hcause]

/-- The journal once an operation is performed, with all the calls that it
makes: they return with the given answers in turn, and nothing else happens in
the meantime. -/
def perform? (j : Journal) (around : Surroundings) (op : Operation)
    (answers : List Answer) : Option Journal :=
  (j.move? (.enter around (.operation op))).bind
    (·.unwind? j.machine.stack.length (answers.map .answer))

/-- Releases that are owed are made one after the other, and leave the machine
as it was. -/
theorem unwind_releases {m : Machine} {calls : List Call}
    {answers : List Answer} (hreleases : ∀ c ∈ calls, c.isDisconnect = true)
    (hall : answers.length = calls.length) (j : Journal) (cause : Moment)
    (hcause : cause.call? = none) (events : List Event) :
    ∃ k, (j.advance cause
        (m.proceed (.start calls .logged) events)).unwind? m.stack.length
          (answers.map .answer) = some k
      ∧ k.machine = m ∧ k.callsMade = calls.reverse ++ j.callsMade
      ∧ k.past.head? = some (.replied .done) := by
  -- the induction is on the calls still to be made: the return of one is the
  -- cause of what follows
  induction calls generalizing answers j cause events with
  | nil =>
      rw [List.length_eq_zero_iff.mp hall, m.proceed_nil]
      exact ⟨_, if_pos (Nat.le_refl _), rfl, j.callsMade_advance _ hcause, rfl⟩
  | cons c rest ih =>
      obtain ⟨a, answers', rfl⟩ := List.exists_cons_of_length_eq_add_one hall
      have hrest : ∀ c' ∈ rest, c'.isDisconnect = true := fun c' hc' =>
        hreleases c' (List.mem_cons_of_mem c hc')
      have hc := hreleases c List.mem_cons_self
      rw [m.proceed_cons]
      generalize hj' : j.advance cause _ = j'
      have hstack : j'.machine.stack
          = ⟨c, .start rest .logged⟩ :: m.stack := hj' ▸ rfl
      have hmachine : (⟨j'.machine.service, m.stack⟩ : Machine) = m :=
        hj' ▸ rfl
      have hmade : j'.callsMade = c :: j.callsMade := by
        rw [← hj', j.callsMade_advance _ hcause]
        rfl
      have hmove := move?_of_answered hstack
        (Machine.answer_disconnect hc hstack a)
      rw [hmachine] at hmove
      obtain ⟨k, hk, hback, hcalls, hlast⟩ :=
        ih hrest (Nat.succ.inj hall) j' (.returned c a) rfl []
      refine ⟨k, ?_, hback, ?_, hlast⟩
      · rw [List.map_cons]
        unfold unwind?
        rw [if_neg, hmove]
        · exact hk
        · rw [hstack]
          exact Nat.not_succ_le_self _
      · rw [hcalls, hmade, List.reverse_cons, List.append_assoc]
        rfl

/-- An operation that owes releases only is performed. -/
theorem perform_of_releases {around : Surroundings} {op : Operation}
    {s : Service} {events : List Event} {calls : List Call}
    {answers : List Answer}
    (hturn : j.machine.service.operate around op
      = ⟨s, events, .owes calls .logged⟩)
    (hreleases : ∀ c ∈ calls, c.isDisconnect = true)
    (hall : answers.length = calls.length) :
    ∃ k, j.perform? around op answers = some k
      ∧ k.machine = ⟨s, j.machine.stack⟩
      ∧ k.callsMade = calls.reverse ++ j.callsMade
      ∧ k.past.head? = some (.replied .done) := by
  have hmove := j.move?_of_taken rfl (Machine.enter_operation_owing hturn)
  obtain ⟨k, hk, hrest⟩ := unwind_releases (m := ⟨s, j.machine.stack⟩)
    hreleases hall j (.entered (.operation op)) rfl events
  refine ⟨k, ?_, hrest⟩
  unfold perform?
  rw [hmove]
  exact hk

end Journal

-- ==================================================== locked or unlocked

/-- What a switch to a user leads to, once the user is served. -/
structure Service.TakenOver (s : Service) (around : Surroundings) (u : UserId)
    (s' : Service) : Prop where
  rule : s'.rule = s.rule
  /-- Everything that was there is gone; no token and no request id is given
  out. -/
  host : s'.host
    = { s.host with
        registry := around.registryFor u, user := some u, active := true
        groups := .empty }
  /-- A selection that names a known provider is left as it is, with its
  subtype. -/
  kept : ∀ p,
    (around.registryFor u).get? (s.settings.providerOf u) = some p →
    s'.settings = s.settings
  /-- Any other gives way to the default provider, with an automatic
  subtype. -/
  adopted : ∀ p,
    (around.registryFor u).get? (s.settings.providerOf u) = none →
    (s.rule.choose (around.registryFor u) none around.system).value = some p →
    s'.settings = s.settings.adopt p u
  /-- Without providers nothing is stored. -/
  unchosen : (around.registryFor u).isEmpty = true → s'.settings = s.settings
  /-- A provider is selected, unless there is none. -/
  selected :
    (s'.providerFor? u).isSome = true ↔ (around.registryFor u).isEmpty = false

namespace Service

variable {s : Service} {around : Surroundings} {u : UserId} {p : Provider}

theorem selectionFor_of_known
    (h : (around.registryFor u).get? (s.settings.providerOf u) = some p) :
    s.selectionFor around u = s.settings := by
  unfold selectionFor
  rw [h]

theorem selectionFor_of_chosen
    (hunknown : (around.registryFor u).get? (s.settings.providerOf u) = none)
    (hchosen : (s.rule.choose (around.registryFor u) none around.system).value
      = some p) :
    s.selectionFor around u = s.settings.adopt p u := by
  unfold selectionFor
  rw [hunknown, hchosen]

/-- Without providers no selection is known, and none is chosen. -/
theorem selectionFor_of_empty (h : (around.registryFor u).isEmpty = true) :
    s.selectionFor around u = s.settings := by
  have hunknown : (around.registryFor u).get? (s.settings.providerOf u)
      = none := by
    rw [Registry.get?_eq_find?, List.isEmpty_iff.mp h]
    rfl
  unfold selectionFor
  rw [hunknown, DefaultRule.choose_eq_none_iff.mpr h]

/-- A user who is served has a provider, unless there is none. -/
theorem selected_iff (s : Service) (around : Surroundings) (u : UserId) :
    ((s.serving around u).providerFor? u).isSome = true
      ↔ (around.registryFor u).isEmpty = false := by
  have hsound : (around.registryFor u).Sound :=
    Registry.sound_ofDescriptors _
  have hcurrent : (s.serving around u).providerFor? u
      = (around.registryFor u).get?
          ((s.selectionFor around u).providerOf u) :=
    providerFor?_of_sound hsound
  rw [hcurrent, ← Bool.not_eq_true]
  constructor
  · intro hsome hempty
    rw [Registry.get?_eq_find?, List.isEmpty_iff.mp hempty] at hsome
    cases hsome
  · intro hproviders
    cases hknown :
        (around.registryFor u).get? (s.settings.providerOf u) with
    | some p =>
        rw [selectionFor_of_known hknown, hknown]
        rfl
    | none =>
        cases hchoice : (s.rule.choose (around.registryFor u) none
            around.system).value with
        | none =>
            exact absurd (DefaultRule.choose_eq_none_iff.mp hchoice) hproviders
        | some p =>
            have hp : (around.registryFor u).get? p.id = some p :=
              hsound.get?_eq_some_iff.mpr
                ⟨DefaultRule.mem_of_choose hchoice, rfl⟩
            rw [selectionFor_of_chosen hknown hchoice,
              Settings.providerOf_adopt, hp]
            rfl

theorem takenOver (s : Service) (around : Surroundings) (u : UserId) :
    s.TakenOver around u ((s.passedTo u).serving around u) where
  rule := rfl
  host := rfl
  kept := fun _ hknown => selectionFor_of_known hknown
  adopted := fun _ hunknown hchosen => selectionFor_of_chosen hunknown hchosen
  unchosen := selectionFor_of_empty
  selected := selected_iff _ around u

end Service

namespace Journal

variable {j : Journal}

/-- Where no call is in progress no group is connecting. -/
theorem Reached.not_connecting (hj : j.Reached)
    (hidle : j.machine.stack = []) :
    ∀ e ∈ j.host.groups.entries, e.2.connecting = false := by
  rintro ⟨id, g⟩ he
  have hg : j.host.groups.find? id = some g :=
    GroupTable.find?_eq_some_iff.mpr he
  rw [Bool.eq_false_iff]
  intro hconnecting
  obtain ⟨f, hf, -⟩ := (hj.connecting_iff hg).mp hconnecting
  rw [hidle] at hf
  cases hf

/-- A switch to a user, performed where no call is in progress: every live
connection is released. -/
theorem Reached.perform_changeUser (hj : j.Reached)
    (hidle : j.machine.stack = []) (u : UserId) (unlocked : Bool)
    (around : Surroundings) {answers : List Answer}
    (hall : answers.length = j.host.groups.size) :
    ∃ k, j.perform? around (.changeUser u unlocked) answers = some k
      ∧ k.machine
        = .idle (if unlocked then
              (j.machine.service.passedTo u).serving around u
            else j.machine.service.passedTo u)
      ∧ k.callsMade
        = (j.host.connections.map fun l => .disconnect l.1 l.2).reverse
            ++ j.callsMade
      ∧ k.past.head? = some (.replied .done) := by
  have hcalls : j.machine.service.host.retireEvery.calls
      = j.host.connections.map fun l => .disconnect l.1 l.2 :=
    Host.calls_retireEvery_of_settled hj.busy (hj.not_connecting hidle)
  obtain ⟨events, hturn⟩ :=
    j.machine.service.operate_changeUser hj.busy around u unlocked
  rw [hcalls] at hturn
  rw [Machine.idle, ← hidle]
  refine perform_of_releases hturn ?_ ?_
  · intro c hc
    obtain ⟨l, -, rfl⟩ := List.mem_map.mp hc
    rfl
  · rw [hall, List.length_map, Host.connections, List.length_map]
    rfl

/-- The unlocking of a user who waits to be served, performed. -/
theorem perform_userUnlocked {u : UserId} (around : Surroundings)
    (huser : j.host.user = some u) (hwaits : j.host.active = false) :
    ∃ k, j.perform? around (.userUnlocked u) [] = some k
      ∧ k.machine = ⟨j.machine.service.serving around u, j.machine.stack⟩
      ∧ k.callsMade = j.callsMade
      ∧ k.past.head? = some (.replied .done) := by
  obtain ⟨events, hturn⟩ :=
    Service.operate_userUnlocked around huser hwaits
  exact perform_of_releases hturn (fun c hc => nomatch hc) rfl

/-- A switch to a user who is locked, and the unlocking of the user after it,
lead to the same machine as a switch to the user unlocked, and release the
same connections, those of all groups; how the releases are answered does not
matter. The user is then served: a selection that names a known provider is
left alone, any other gives way to the default, and the user has a provider
unless there is none. To unlock a user whose turn it is not, or who is served
already, changes nothing and is seen by nobody. -/
theorem unlocked_later_alike (hj : j.Reached) (hidle : j.machine.stack = [])
    (u : UserId) (before around : Surroundings) (answers answers' : List Answer)
    (hall : answers.length = j.host.groups.size)
    (hall' : answers'.length = j.host.groups.size) :
    (∃ k₁ k₂ k, j.perform? before (.changeUser u false) answers = some k₁
        ∧ k₁.perform? around (.userUnlocked u) [] = some k₂
        ∧ j.perform? around (.changeUser u true) answers' = some k
        ∧ k₂.machine = k.machine ∧ k.machine.stack = []
        ∧ k₂.callsMade = k.callsMade
        ∧ k.callsMade
          = (j.host.connections.map fun l => .disconnect l.1 l.2).reverse
              ++ j.callsMade
        ∧ (∀ i ∈ [k₁, k₂, k], i.past.head? = some (.replied .done))
        ∧ j.machine.service.TakenOver around u k.machine.service
        ∧ ∀ around' c context, around'.allows c = true → c.user = u →
            ∃ o, k.machine.enter around' (.operation (.askProvider c context))
                = .taken ⟨k.machine, [], some (.provider o)⟩
              ∧ (o.isSome = true ↔ (around.registryFor u).isEmpty = false))
      ∧ ∀ (m : Machine) (around' : Surroundings),
          m.service.host.user ≠ some u ∨ m.service.host.active = true →
          m.enter around' (.operation (.userUnlocked u))
            = .taken ⟨m, [], some .done⟩ := by
  constructor
  · obtain ⟨k₁, hk₁, hmachine₁, hcalls₁, hlast₁⟩ :=
      hj.perform_changeUser hidle u false before hall
    obtain ⟨k, hk, hmachine, hcalls, hlast⟩ :=
      hj.perform_changeUser hidle u true around hall'
    have hwaiting : k₁.machine.service = j.machine.service.passedTo u :=
      congrArg Machine.service hmachine₁
    obtain ⟨k₂, hk₂, hmachine₂, hcalls₂, hlast₂⟩ :=
      k₁.perform_userUnlocked around
        (congrArg (·.host.user) hwaiting) (congrArg (·.host.active) hwaiting)
    have hsame : k₂.machine = k.machine := by
      rw [hmachine₂, hmachine, hmachine₁]
      rfl
    have hserved : k.machine.service.host.isServing u = true := by
      rw [hmachine]
      exact Host.isServing_iff.mpr ⟨rfl, rfl⟩
    have htaken : j.machine.service.TakenOver around u k.machine.service := by
      rw [hmachine]
      exact j.machine.service.takenOver around u
    refine ⟨k₁, k₂, k, hk₁, hk₂, hk, hsame, congrArg Machine.stack hmachine,
      ?_, hcalls, ?_, htaken, ?_⟩
    · rw [hcalls₂, hcalls₁, hcalls]
    · simp [hlast₁, hlast₂, hlast]
    · rintro around' c context hallows rfl
      refine ⟨_, Machine.enter_operation ?_, htaken.selected⟩
      exact Service.forCaller_of_served hallows hserved
  · intro m around' h
    have hturn := Service.operate_userUnlocked_of_not_waiting around' h
    exact (Machine.enter_operation_owing hturn).trans
      (congrArg Reception.taken (m.proceed_nil []))

end Journal

/-- While a session with a provider is waited for, it becomes another user's
turn: the provider is released and the one provider of that user is selected,
whether the user was unlocked from the beginning or is later. -/
theorem Journal.neighbour_unlocked_later :
    ∃ j k₁ k₂ k : Journal, Sample.start.after? Sample.waiting = some j
      ∧ j.perform? (Sample.around []) (.changeUser ⟨1⟩ false) [.accepted]
        = some k₁
      ∧ k₁.perform? (Sample.around [Sample.listed "q" "other"])
          (.userUnlocked ⟨1⟩) [] = some k₂
      ∧ j.perform? (Sample.around [Sample.listed "q" "other"])
          (.changeUser ⟨1⟩ true) [.declined "gone"] = some k
      ∧ k₂.machine = k.machine ∧ k₂.callsMade = k.callsMade
      ∧ .disconnect "p" ⟨1⟩ ∈ k.callsMade
      ∧ k.machine.service.settings.providerOf ⟨1⟩ = "q" := by
  obtain ⟨j, hj, hend⟩ := (Option.any_eq_true
    (fun j : Journal => j.machine.stack.isEmpty
      && decide (j.host.connections = [("p", ⟨1⟩)])
      && decide (j.machine.service.settings.providerOf ⟨1⟩ = "")
      && decide (j.machine.service.rule = ⟨[]⟩)) _).mp
    (show (Sample.start.after? Sample.waiting).any _ = true from rfl)
  simp only [Bool.and_eq_true, decide_eq_true_eq, List.isEmpty_iff] at hend
  obtain ⟨⟨⟨hidle, hlive⟩, hunselected⟩, hrule⟩ := hend
  have hsize : j.host.groups.size = 1 := by
    have hlength := congrArg List.length hlive
    rwa [Host.connections, List.length_map] at hlength
  obtain ⟨⟨k₁, k₂, k, hk₁, hk₂, hk, hsame, -, hcalls₂, hcalls, -, htaken, -⟩,
    -⟩ := unlocked_later_alike (Reached.of_after hj) hidle ⟨1⟩
      (Sample.around []) (Sample.around [Sample.listed "q" "other"])
      [.accepted] [.declined "gone"] hsize.symm hsize.symm
  refine ⟨j, k₁, k₂, k, hj, hk₁, hk₂, hk, hsame, hcalls₂, ?_, ?_⟩
  · rw [hcalls, hlive]
    exact List.mem_append_left _ (by decide)
  · have hadopted := htaken.adopted ⟨"q", "other", false,
      [⟨⟨"en", none, none⟩, ""⟩]⟩ (by rw [hunselected]; decide)
      (by rw [hrule]; decide)
    rw [hadopted, Settings.providerOf_adopt]

end SpellSessions
