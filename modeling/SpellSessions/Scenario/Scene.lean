/-
Scenes: a service and the surroundings that a scenario gives it.

The surroundings remember what the service handed out: the links of all
connections that were attempted, and the requests that no provider has
answered yet, numbered in the order in which they were handed over.
Links and requests outlive the service; once it is gone they lead
nowhere.
-/
import SpellSessions.Scenario.Step

namespace SpellSessions.Scenario

/-- A service and its surroundings. -/
structure Scene where
  machine : Machine
  /-- Whether the service has ceased to exist. -/
  dropped : Bool
  /-- What discovery lists for users without a list of their own. -/
  installed : List Descriptor
  /-- What discovery lists for a user, the latest list first. -/
  installedFor : List (UserId × List Descriptor)
  /-- The processes that are not let in. -/
  denied : List UInt32
  system : Locale
  input : Option Locale
  /-- The links of all attempts to connect, the newest first. -/
  links : List Link
  /-- The requests that were handed over and not answered, by ascending
  number. -/
  replies : List (Nat × ReplyHandle)
  /-- How many requests were handed over. -/
  handed : Nat
  /-- How many requests were made. -/
  owners : Nat

/-- How a step ends. -/
inductive Outcome where
  | reply (r : Reply)
  /-- What is stored for a user. -/
  | settings (user : UserId) (provider : ProviderId) (hash : SubtypeHash)
      (enabled : Bool)
  | overview (o : Overview)
  | text (s : String)
  | count (n : Nat)
  /-- A document could not be read. -/
  | unreadable
  | invalidTag (fault : LocaleError)
  | invalidDescriptor (fault : DescriptorFault)
  /-- No such connection was attempted. -/
  | noLink
  /-- No such request waits for an answer. -/
  | noReply
  /-- The service has ceased to exist. -/
  | dropped
  /-- The caller would wait for a call to connect, and so for itself. -/
  | wouldWait
  /-- Nobody knows the step. -/
  | unknown

/-- What the surroundings see. -/
inductive Sight where
  | noticed (notice : Notice)
  | discovered (user : UserId)
  | storedProvider (id : ProviderId) (user : UserId)
  | storedHash (hash : SubtypeHash) (user : UserId)
  | connect (provider : Provider) (link : Link)
  | disconnect (link : Link)
  /-- A request is handed over, the one of the given number. -/
  | create (number : Nat) (endpoint : Endpoint) (provider : ProviderId)
      (brief : Brief)
  /-- The parameters of a request, when a script asks for them. -/
  | brief (brief : Brief)
  /-- An owner is told of its session, or turns out to be gone. -/
  | ready (listener : ListenerId) (session : Option Session) (gone : Bool)
  /-- A step inside a call has ended. -/
  | nested (outcome : Outcome)

/-- What follows from a step at once. -/
inductive Response where
  /-- The step has ended. -/
  | ended (outcome : Outcome)
  /-- A call has begun; the step ends when the last of its calls has
  returned. -/
  | calling (call : Call)

/-- A step that was taken: the scene, what happened, what follows. -/
structure Taken where
  scene : Scene
  events : List Event
  response : Response

namespace Scene

/-- What the service finds around it. -/
def surroundings (s : Scene) : Surroundings where
  allows c := !s.denied.contains c.uid
  discover u := (List.lookup u s.installedFor).getD s.installed
  system := s.system
  input := s.input

/-- The service. -/
def service (s : Scene) : Service :=
  s.machine.service

/-- The scene with other settings. -/
def withSettings (s : Scene) (settings : Settings) : Scene :=
  { s with
    machine :=
      { s.machine with service := { s.machine.service with settings } } }

/-- What diagnostics show of the groups, as long as there is a
service. -/
def groupViews? (s : Scene) : Option (List GroupView) :=
  if s.dropped then none else some s.service.host.groupViews

-- ============================================================== looking

/-- The link that is meant. -/
def link? (s : Scene) : LinkChoice → Option Link
  | .token number => s.links.find? (·.token.number = number)
  | .provider id => s.links.find? (·.provider = id)

/-- The unanswered request that is meant. -/
def reply? (s : Scene) : ReplyChoice → Option (Nat × ReplyHandle)
  | .number n => s.replies.find? (·.1 = n)
  | .place n =>
    if s.replies.isEmpty then none
    else s.replies[n % s.replies.length]?

/-- What the surroundings see of an event, and what they remember of it.
The script is that of the call, if the event is one. -/
def observe (s : Scene) (script : Script Step) :
    Event → Scene × List Sight
  | .noticed n => (s, [.noticed n])
  | .discovered u => (s, [.discovered u])
  | .storedProvider id u => (s, [.storedProvider id u])
  | .storedHash hash u => (s, [.storedHash hash u])
  | .called (.connect p t) =>
    let link : Link := ⟨p.id, t⟩
    ({ s with links := link :: s.links }, [.connect p link])
  | .called (.create id t endpoint r brief) =>
    let number := s.handed + 1
    ({ s with
        handed := number
        replies := s.replies ++ [(number, ⟨id, t, r⟩)] },
      .create number endpoint id brief
        :: if script.describe then [.brief brief] else [])
  | .called (.notify _ _ _ _ listener session) =>
    (s, [.ready listener session (script.answer ≠ .accepted)])
  | .called (.disconnect id t) => (s, [.disconnect ⟨id, t⟩])

/-- What the surroundings see of several events. -/
def observeAll (s : Scene) (script : Script Step) :
    List Event → Scene × List Sight
  | [] => (s, [])
  | e :: es =>
    let (first, sights) := s.observe script e
    let (last, more) := first.observeAll script es
    (last, sights ++ more)

-- =============================================================== acting

/-- The step ends, and only the scene has changed. -/
def ends (s : Scene) (o : Outcome) : Taken :=
  ⟨s, [], .ended o⟩

/-- A move of the machine, as seen from the surroundings. -/
def moved (s : Scene) (p : Progress) : Taken :=
  { scene := { s with machine := p.machine }
    events := p.events
    response :=
      match p.reply, p.machine.stack with
      | some r, _ => .ended (.reply r)
      | none, f :: _ => .calling f.call
      | none, [] => .ended (.reply .done) }

/-- The service is entered. -/
def enter (s : Scene) (e : Entry) : Taken :=
  match s.machine.enter s.surroundings e with
  | .taken p => s.moved p
  | .parked => s.ends .wouldWait

/-- Something outside reports to the service, if it still exists. -/
def report (s : Scene) (c : Callback) : Taken :=
  if s.dropped then s.ends (.reply .done) else s.enter (.callback c)

/-- Something is asked of the service, which must still exist. -/
def ask (s : Scene) (taken : Taken) : Taken :=
  if s.dropped then s.ends .dropped else taken

/-- A step that needs a tag to be read. -/
def withTag (s : Scene) (tag : String) (next : Locale → Taken) : Taken :=
  match Locale.parse tag with
  | .error fault => s.ends (.invalidTag fault)
  | .ok l => next l

/-- A step that needs a tag to be read, if there is one. -/
def withTag? (s : Scene) (tag : Option String)
    (next : Option Locale → Taken) : Taken :=
  match tag with
  | none => next none
  | some tag => s.withTag tag fun l => next (some l)

/-- One more request is to be made. Its owner is counted whether or not
the service gets to see the request. -/
def counted (s : Scene) : Scene :=
  { s with owners := s.owners + 1 }

/-- The latest request is made, unless its caller would wait. -/
def makeRequest (s : Scene) (id : ProviderId) (form : RequestForm)
    (entry : Request → Entry) : Taken :=
  if s.service.host.isConnecting id then s.ends .wouldWait
  else s.enter (entry (form.request ⟨s.owners⟩))

/-- A step on the settings themselves. -/
def storeStep (s : Scene) : StoreAction → Taken
  | .putProvider u id =>
    (s.withSettings (s.service.settings.putProvider id u)).ends
      (.reply .done)
  | .putHash u hash =>
    (s.withSettings (s.service.settings.putHash hash u)).ends (.reply .done)
  | .putEnabled u enabled =>
    (s.withSettings (s.service.settings.putEnabled enabled u)).ends
      (.reply .done)
  | .get u default =>
    let stored := s.service.settings
    s.ends (.settings u (stored.providerOf u)
      (stored.hashOf default u) (stored.enabledFor u))

/-- The short form of a thing. -/
def shown (s : Scene) : Topic → Outcome
  | .service => .text s.service.shown
  | .groups => .text groupsShown
  | .registry => .text registryShown
  | .request form => .text (form.request ⟨0⟩).shown
  | .link choice => ((s.link? choice).map (.text ·.shown)).getD .noLink
  | .token choice => ((s.link? choice).map (.text ·.token.text)).getD .noLink
  | .reply n => ((s.reply? (.number n)).map (.text ·.2.shown)).getD .noReply
  | .listener l => .text l.text
  | .hash hash => .text hash.text
  | .transport reason => .text (transportMessage reason ++ "|" ++ reason)
  | .gone => .text ownerGoneMessage

/-- A step is taken, as far as the service and its surroundings are
concerned; the scripts it loads are another matter. -/
def act (s : Scene) : Action → Taken
  | .connected choice endpoint =>
    match s.link? choice with
    | none => s.ends .noLink
    | some link => s.report (.connected link ⟨endpoint⟩)
  | .disconnected choice =>
    match s.link? choice with
    | none => s.ends .noLink
    | some link => s.report (.disconnected link)
  | .deliver choice session =>
    match s.reply? choice with
    | none => s.ends .noReply
    | some (number, handle) =>
      { s with replies := s.replies.filter (·.1 ≠ number) }.report
        (.delivered handle (session.map Session.mk))
  | .load _ => s.ends (.reply .done)
  | .install user documents =>
    match documents.mapM Descriptor.ofJson? with
    | none => s.ends .unreadable
    | some descriptors =>
      match user with
      | none => { s with installed := descriptors }.ends (.reply .done)
      | some u =>
        { s with installedFor := (u, descriptors) :: s.installedFor }.ends
          (.reply .done)
  | .setLocales system input =>
    s.withTag system fun system =>
      s.withTag? input fun input =>
        { s with system := system, input := input }.ends (.reply .done)
  | .deny uids => { s with denied := uids }.ends (.reply .done)
  | .store action => s.storeStep action
  | .drop => { s with dropped := true }.ends (.reply .done)
  | .operate op => s.ask <| s.enter (.operation op)
  | .askProvider caller context =>
    s.ask <| s.withTag? context fun context =>
      s.enter (.operation (.askProvider caller context))
  | .askSubtype caller input allowImplicit =>
    s.ask <| s.withTag? input fun input =>
      s.enter (.operation (.askSubtype caller input allowImplicit))
  | .beginSession id form =>
    let s := s.counted
    s.ask <| s.makeRequest id form fun r => .operation (.beginSession id r)
  | .requestDirectly document form =>
    let s := s.counted
    s.ask <|
      match Descriptor.ofJson? document with
      | none => s.ends .unreadable
      | some d =>
        match d.validate with
        | .error fault => s.ends (.invalidDescriptor fault)
        | .ok p => s.makeRequest p.id form fun r => .direct (.request p r)
  | .direct entry => s.ask <| s.enter (.direct entry)
  | .overview => s.ask <| s.ends (.overview s.service.overview)
  | .overviewText =>
    s.ask <| s.ends (.text s.service.overview.toJson.indented)
  | .groupCount => s.ask <| s.ends (.count s.service.host.groups.size)
  | .describe topic => s.ask <| s.ends (s.shown topic)
  | .unknown => s.ask <| s.ends .unknown

end Scene

-- =============================================================== set-up

/-- What a scenario begins with. Absent means: the default configuration,
no input locale. -/
structure Setup where
  config : Option String
  providers : List Json
  system : String
  input : Option String

/-- The scene that a scenario begins with, and what is logged while it is
set up. Configuration, providers, system locale and input locale are
read in that order. -/
def Setup.scene (setup : Setup) : Except Outcome (Logged Scene) := do
  let config ←
    match setup.config with
    | none => .ok Config.default
    | some document =>
      match Config.parse? document with
      | none => .error .unreadable
      | some config => .ok config
  let installed ←
    match setup.providers.mapM Descriptor.ofJson? with
    | none => .error .unreadable
    | some installed => .ok installed
  let system ← (Locale.parse setup.system).mapError .invalidTag
  let input ←
    match setup.input with
    | none => .ok none
    | some tag => (Locale.parse tag).mapError .invalidTag |>.map some
  let service := Service.ofConfig config
  return {
    value :=
      { machine := .idle service.value
        dropped := false
        installed := installed
        installedFor := []
        denied := []
        system := system
        input := input
        links := []
        replies := []
        handed := 0
        owners := 0 }
    notices := service.notices }

end SpellSessions.Scenario
