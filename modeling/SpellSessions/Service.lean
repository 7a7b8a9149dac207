/-
The service: a host with its selection rule and the settings it keeps,
and the ways into it.

There are three kinds of entry. An operation serves a caller or the
system around the service; a callback comes from a connection or from a
provider; a direct entry turns to the groups and asks neither who is
there nor what is known. Every entry is one uninterrupted turn, which
ends in a reply or in calls that are owed.

# Admission

An operation on behalf of a caller asks first whether the process is let
in, and then whether the caller's user is the one being served. Whoever
is turned away learns nothing else and changes nothing. A caller who has
waited for a provider is asked the second question again.
-/
import SpellSessions.Host.Transition
import SpellSessions.Selection
import SpellSessions.Settings

namespace SpellSessions

/-- A host, how it chooses a default provider, and what users have
selected. -/
structure Service where
  rule : DefaultRule
  host : Host
  settings : Settings

/-- What the service finds around it when it looks: who is let in,
which providers discovery lists, and the locales of the moment. -/
structure Surroundings where
  allows : Caller → Bool
  discover : UserId → List Descriptor
  system : Locale
  input : Option Locale

/-- What those around the service get to see of a turn, besides its
reply. -/
inductive Event where
  /-- Something was logged. -/
  | noticed (notice : Notice)
  /-- Discovery was asked for the providers of a user. -/
  | discovered (user : UserId)
  /-- A selected provider was stored. -/
  | storedProvider (id : ProviderId) (user : UserId)
  /-- A selected subtype was stored. -/
  | storedHash (hash : SubtypeHash) (user : UserId)
  /-- A collaborator was called. -/
  | called (call : Call)
deriving DecidableEq, Repr

/-- What an entry answers. -/
inductive Reply where
  | done
  | refused (refusal : Refusal)
  | provider (p : Option Provider)
  | subtype (s : Option ProviderSubtype)
  | flag (b : Bool)
  | providers (ps : List Provider)
deriving DecidableEq, Repr

/-- Whether a connection that is refused is the answer of the entry that
owes it, or only goes to the log. -/
inductive Manner where
  | reported
  | logged
deriving DecidableEq, Repr

/-- How a turn ends. -/
inductive Verdict where
  /-- With a reply. -/
  | replied (reply : Reply)
  /-- With calls to make, the first of them first. -/
  | owes (calls : List Call) (manner : Manner)
  /-- Not at all for now: the provider's call to connect has not
  returned, and the caller waits for it. -/
  | parked
deriving DecidableEq, Repr

/-- One turn: the service after it, what was seen of it, and how it
ends. -/
structure Turn where
  service : Service
  events : List Event
  verdict : Verdict

/-- The packages of a user that changed. -/
structure PackageNews where
  user : UserId
  /-- Packages that are gone. -/
  gone : List String
  /-- Packages that were replaced in place. -/
  replaced : List String
deriving DecidableEq, Repr

/-- Whether the news lists a package. -/
def PackageNews.concerns (n : PackageNews) (package : String) : Bool :=
  n.gone.contains package || n.replaced.contains package

-- ============================================================= entries

/-- An operation for a caller, or for the system around the service. -/
inductive Operation where
  /-- It is another user's turn. -/
  | changeUser (user : UserId) (unlocked : Bool)
  /-- A user's data can be read from now on. -/
  | userUnlocked (user : UserId)
  /-- Nobody is served from now on. -/
  | stopServing
  /-- Packages of a user changed. -/
  | packagesChanged (news : PackageNews)
  /-- The process behind a listener died. -/
  | listenerLost (listener : ListenerId)
  /-- The selected provider. It is stored per user, so the locale of the
  context that asks makes no difference. -/
  | askProvider (caller : Caller) (context : Option Locale)
  /-- The subtype to use with the selected provider. An input locale that
  is given stands in for the one around the service. -/
  | askSubtype (caller : Caller) (input : Option Locale)
      (allowImplicit : Bool)
  /-- A session with a provider is asked for. -/
  | beginSession (id : ProviderId) (request : Request)
  /-- The session of a listener is given up. -/
  | endSession (caller : Caller) (listener : ListenerId)
  /-- Whether spell checking is on for the caller's user. -/
  | askEnabled (caller : Caller)
  /-- The known providers. -/
  | askProviders (caller : Caller)
  /-- A provider is selected. -/
  | selectProvider (caller : Caller) (id : ProviderId)
  /-- A subtype of the selected provider is selected. -/
  | selectSubtype (caller : Caller) (hash : SubtypeHash)
deriving DecidableEq, Repr

/-- The handle on a connection that its connector reports through. -/
structure Link where
  provider : ProviderId
  token : Token
deriving DecidableEq, Repr

/-- The handle on a request through which its provider answers. -/
structure ReplyHandle where
  provider : ProviderId
  token : Token
  request : RequestId
deriving DecidableEq, Repr

/-- A report from outside about a connection or a request. -/
inductive Callback where
  /-- The provider can be reached. -/
  | connected (link : Link) (endpoint : Endpoint)
  /-- The provider dropped. -/
  | disconnected (link : Link)
  /-- A session was made, or declined. -/
  | delivered (handle : ReplyHandle) (session : Option Session)
deriving DecidableEq, Repr

/-- An entry to the groups themselves. -/
inductive DirectEntry where
  | request (provider : Provider) (request : Request)
  | releaseListener (listener : ListenerId)
  | retireEvery
deriving DecidableEq, Repr

/-- A way into the service. -/
inductive Entry where
  | operation (op : Operation)
  | callback (report : Callback)
  | direct (entry : DirectEntry)
deriving DecidableEq, Repr

-- ============================================== a turn being written

/-- A turn so far: the service, the calls it owes, and what was seen. -/
structure Draft where
  service : Service
  calls : List Call
  events : List Event

namespace Draft

/-- Something is seen of the turn. -/
def see (d : Draft) (e : Event) : Draft :=
  { d with events := d.events ++ [e] }

/-- Something is logged. -/
def note (d : Draft) (n : Notice) : Draft :=
  d.see (.noticed n)

/-- Several things are logged. -/
def noteAll (d : Draft) (ns : List Notice) : Draft :=
  { d with events := d.events ++ ns.map .noticed }

/-- A transition of the host's groups. -/
def transition (d : Draft) (next : Host → Decision) : Draft :=
  let e := next d.service.host
  { service := { d.service with host := e.host }
    calls := d.calls ++ e.calls
    events := d.events ++ e.notices.map .noticed }

/-- The rest of the host's state is changed. -/
def mapHost (d : Draft) (change : Host → Host) : Draft :=
  { d with
    service := { d.service with host := change d.service.host } }

/-- A selected provider is stored. -/
def storeProvider (d : Draft) (id : ProviderId) (u : UserId) : Draft :=
  { d with
    service :=
      { d.service with settings := d.service.settings.putProvider id u }
    events := d.events ++ [.storedProvider id u] }

/-- A selected subtype is stored. -/
def storeHash (d : Draft) (hash : SubtypeHash) (u : UserId) : Draft :=
  { d with
    service := { d.service with settings := d.service.settings.putHash hash u }
    events := d.events ++ [.storedHash hash u] }

/-- The turn ends with a reply; nothing is owed. -/
def reply (d : Draft) (r : Reply) : Turn :=
  ⟨d.service, d.events, .replied r⟩

/-- The turn ends with the calls it owes. -/
def owing (d : Draft) (manner : Manner) : Turn :=
  ⟨d.service, d.events, .owes d.calls manner⟩

end Draft

namespace Service

/-- The service that a configuration asks for, with nothing stored, and
what is logged while it is set up. -/
def ofConfig (c : Config) : Logged Service :=
  let rule := DefaultRule.ofTags c.fallbackLocales
  ⟨⟨rule.value, .initial, .ofConfig c⟩, rule.notices⟩

/-- A turn about to begin. -/
def draft (s : Service) : Draft :=
  ⟨s, [], []⟩

/-- A turn that ends with a reply before it began. -/
def answer (s : Service) (r : Reply) : Turn :=
  s.draft.reply r

/-- The provider that is stored for a user, as far as it is known. -/
def providerFor? (s : Service) (u : UserId) : Option Provider :=
  let id := s.settings.providerOf u
  if id.isEmpty then none else s.host.registry.get? id

/-- Why a caller is turned away, if it is. -/
def turnedAway? (s : Service) (around : Surroundings) (c : Caller) :
    Option Refusal :=
  if !around.allows c then some (.accessDenied c.uid)
  else if !s.host.isServing c.user then some .inactive
  else none

-- ============================================================ the parts

/-- A provider is selected for a user, with an automatic subtype. -/
def adopt (d : Draft) (p : Provider) (u : UserId) : Draft :=
  ((d.note (.selecting u p.id)).storeProvider p.id u).storeHash .automatic u

/-- Every group is retired, the registry is emptied, and nobody is
served. -/
def standDown (d : Draft) : Draft :=
  (d.transition Host.retireEvery).mapHost fun h =>
    { h with registry := .empty, active := false }

/-- The registry is built anew from what discovery lists for a user. -/
def rediscover (d : Draft) (around : Surroundings) (u : UserId) : Draft :=
  let built := Registry.ofDescriptors (around.discover u)
  ((d.see (.discovered u)).noteAll built.notices).mapHost fun h =>
    { h with registry := built.value }

/-- A default provider is selected for a user whose selection names no
known provider. -/
def ensureSelection (d : Draft) (around : Surroundings) (u : UserId) :
    Draft :=
  match d.service.providerFor? u with
  | some _ => d
  | none =>
    let choice :=
      d.service.rule.choose d.service.host.registry none around.system
    let noted := d.noteAll choice.notices
    match choice.value with
    | none => noted.note (.noDefault u)
    | some p => adopt noted p u

/-- The current user begins to be served. -/
def beginServing (d : Draft) (around : Surroundings) (u : UserId) : Draft :=
  ensureSelection
    ((rediscover d around u).mapHost fun h => { h with active := true })
    around u

/-- The provider that is to replace a selected provider whose package
changed, if it is another one: the default, with a preference for the
package. -/
def replacement (d : Draft) (around : Surroundings) (current : Provider) :
    Logged (Option Provider) :=
  let choice :=
    d.service.rule.choose d.service.host.registry (some current.package)
      around.system
  ⟨choice.value.filter (·.id ≠ current.id), choice.notices⟩

-- ========================================================= the entries

/-- It is another user's turn. All groups are retired, and the new user
is served at once if unlocked. -/
def changeUser (s : Service) (around : Surroundings) (u : UserId)
    (unlocked : Bool) : Turn :=
  let switched :=
    ((standDown s.draft).mapHost fun h => { h with user := some u }).note
      (.switchingUser u unlocked)
  (if unlocked then beginServing switched around u else switched).owing
    .logged

/-- A user's data can be read. The user begins to be served if it is the
one whose turn it is, and not served already. -/
def userUnlocked (s : Service) (around : Surroundings) (u : UserId) : Turn :=
  if s.host.user = some u && !s.host.active then
    (beginServing s.draft around u).owing .logged
  else s.draft.owing .logged

/-- Nobody is served from now on. -/
def stopServing (s : Service) : Turn :=
  ((standDown s.draft).note .disabled).owing .logged

/-- Packages of the user being served changed. The registry is built
anew; if the change touches the package of the selected provider, the
selection moves to the default provider. -/
def packagesChanged (s : Service) (around : Surroundings)
    (news : PackageNews) : Turn :=
  if !s.host.isServing news.user then
    (s.draft.note (.backgroundChange news.user)).reply .done
  else
    let rebuilt := rediscover s.draft around news.user
    match s.providerFor? news.user with
    | none => rebuilt.reply .done
    | some current =>
      if !news.concerns current.package then rebuilt.reply .done
      else
        let next := replacement rebuilt around current
        let noted := rebuilt.noteAll next.notices
        match next.value with
        | none => noted.reply .done
        | some p => (adopt noted p news.user).reply .done

/-- A listener is no longer registered anywhere. -/
def dropListener (d : Draft) (listener : ListenerId) : Turn :=
  (d.transition (·.releaseListener listener)).owing .logged

/-- What is left of an entry that asks for a session, from the moment at
which it may have to wait. The caller waits while the provider's call to
connect has not returned. The user's turn may have ended meanwhile, so the
entry looks once more at whether the user is being served, and only then
for the provider. -/
def resumeSession (s : Service) (id : ProviderId) (r : Request) : Turn :=
  if s.host.isConnecting id then ⟨s, [], .parked⟩
  else if !s.host.isServing r.caller.user then s.answer (.refused .inactive)
  else
    match s.host.registry.get? id with
    | none => s.answer (.refused (.unknownProvider id))
    | some p =>
      ((s.draft.note (.openingSession p.id r.listener)).transition
        (·.submit p r)).owing .reported

/-- A session with a known provider is asked for. -/
def beginSession (s : Service) (id : ProviderId) (r : Request) : Turn :=
  if id.isEmpty then s.answer (.refused .emptyProviderId)
  else s.resumeSession id r

/-- The subtype to use with the selected provider. -/
def subtypeFor? (s : Service) (around : Surroundings) (u : UserId)
    (input : Option Locale) (allowImplicit : Bool) :
    Option ProviderSubtype :=
  SpellSessions.selectSubtype (s.providerFor? u)
    (s.settings.hashOf .unset u) allowImplicit
    (input.or around.input) around.system

/-- A known provider is selected. -/
def selectProvider (s : Service) (u : UserId) (id : ProviderId) : Turn :=
  match s.host.registry.get? id with
  | none => s.answer (.refused (.unknownProvider id))
  | some p => (adopt s.draft p u).reply .done

/-- A subtype of the selected provider is selected by its hash; a hash
that it does not declare selects an automatic subtype. -/
def selectSubtype (s : Service) (u : UserId) (hash : SubtypeHash) : Turn :=
  let chosen := (s.providerFor? u).bind (·.subtype? hash)
  let stored := (chosen.map (·.hash)).getD .automatic
  (s.draft.storeHash stored u).reply .done

/-- A turn for a caller that is not turned away. -/
def forCaller (s : Service) (around : Surroundings) (c : Caller)
    (turn : Turn) : Turn :=
  match s.turnedAway? around c with
  | some refusal => s.answer (.refused refusal)
  | none => turn

/-- The turn of an operation. -/
def operate (s : Service) (around : Surroundings) : Operation → Turn
  | .changeUser u unlocked => s.changeUser around u unlocked
  | .userUnlocked u => s.userUnlocked around u
  | .stopServing => s.stopServing
  | .packagesChanged news => s.packagesChanged around news
  | .listenerLost l => dropListener (s.draft.note (.listenerLost l)) l
  | .askProvider c _ =>
    s.forCaller around c <| s.answer (.provider (s.providerFor? c.user))
  | .askSubtype c input allowImplicit =>
    s.forCaller around c <| s.answer <| .subtype <|
      s.subtypeFor? around c.user input allowImplicit
  | .beginSession id r => s.forCaller around r.caller <| s.beginSession id r
  | .endSession c l => s.forCaller around c <| dropListener s.draft l
  | .askEnabled c =>
    s.forCaller around c <| s.answer (.flag (s.settings.enabledFor c.user))
  | .askProviders c =>
    s.forCaller around c <| s.answer (.providers s.host.registry.providers)
  | .selectProvider c id => s.forCaller around c <| s.selectProvider c.user id
  | .selectSubtype c hash => s.forCaller around c <| s.selectSubtype c.user hash

/-- The turn of a callback. -/
def receive (s : Service) (report : Callback) : Turn :=
  let transition : Host → Decision :=
    match report with
    | .connected link endpoint =>
      (·.connected link.provider link.token endpoint)
    | .disconnected link => (·.disconnected link.provider link.token)
    | .delivered handle session =>
      (·.answered handle.provider handle.token handle.request session)
  (s.draft.transition transition).owing .logged

/-- The turn of a direct entry. -/
def direct (s : Service) : DirectEntry → Turn
  | .request p r =>
    if s.host.isConnecting p.id then ⟨s, [], .parked⟩
    else (s.draft.transition (·.submit p r)).owing .reported
  | .releaseListener l => dropListener s.draft l
  | .retireEvery => (s.draft.transition Host.retireEvery).owing .logged

/-- The turn of an entry. -/
def enter (s : Service) (around : Surroundings) : Entry → Turn
  | .operation op => s.operate around op
  | .callback report => s.receive report
  | .direct entry => s.direct entry

end Service

end SpellSessions
