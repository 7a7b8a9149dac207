/-
The transitions of a host's groups.

Each transition is one uninterrupted step. A callback names the
connection it belongs to, and a transition for it does nothing when the
live group of the provider belongs to another one: such a callback is
stale. Every transition that may take the last work from a group looks
whether it did, and retires the group on the spot.

# When a connection is released

A retired group leaves the table at once. Its connection is released by
a `disconnect` call that the same transition decides on, unless the call
that connects has not returned yet: a connection is not released before
it is established, so `established` decides on the release when that call
comes back.
-/
import SpellSessions.Host

namespace SpellSessions.Host

-- ============================================================ retirement

/-- The group of a provider is retired if it is idle and still belongs
to the token. -/
def retireIfIdle (h : Host) (id : ProviderId) (token : Token) :
    Decision :=
  match h.groups.live? id token with
  | none => h.stay []
  | some g =>
    if g.canRetire then
      let freed := h.withGroups (h.groups.erase id)
      if g.connecting then
        ⟨freed, [], [.retiredWhileConnecting id token]⟩
      else
        ⟨freed, [.disconnect id token], [.tornDown id token]⟩
    else h.stay []

/-- The groups of the given connections are retired in turn, those that
are idle. -/
def retireIdleOf (h : Host) :
    List (ProviderId × Token) → Decision
  | [] => h.stay []
  | (id, token) :: rest =>
    (h.retireIfIdle id token).andThen (·.retireIdleOf rest)

/-- The connections of all live groups, in the order of iteration. -/
def connections (h : Host) : List (ProviderId × Token) :=
  h.groups.entries.map fun (id, g) => (id, g.token)

-- ============================================================== requests

/-- The group for a provider, opened under a new token if there is
none. -/
def openGroup (h : Host) (p : Provider) : Decision :=
  match h.groups.find? p.id with
  | some _ => h.stay []
  | none =>
    let token := h.freshToken
    ⟨{ h with
        tokens := h.tokens + 1
        groups := h.groups.insert p.id (.opening token) },
      [.connect p token],
      [.groupCreated p.id token]⟩

/-- A request is offered to the group of its provider, under a new
id. -/
def offer (h : Host) (id : ProviderId) (r : Request) : Decision :=
  let numbered : NumberedRequest := ⟨h.freshRequest, r⟩
  let counted := { h with requests := h.requests + 1 }
  match h.groups.find? id with
  | none => counted.stay []
  | some g =>
    let (g', uptake) := g.accept numbered
    let host := counted.withGroups (h.groups.update id fun _ => g')
    match uptake with
    | .waits => ⟨host, [], [.requestQueued id]⟩
    | .handedTo endpoint =>
      ⟨host, [.handOver id g.token endpoint numbered], []⟩
    | .lost => ⟨host, [], [.requestDropped id]⟩

/-- A session is requested. The first request for a provider opens a
group, and so a connection. -/
def submit (h : Host) (p : Provider) (r : Request) : Decision :=
  (h.openGroup p).andThen (·.offer p.id r)

-- ============================================================= callbacks

/-- A connection reports that its provider can be reached. What was
pending is handed over, first to last. -/
def connected (h : Host) (id : ProviderId) (token : Token)
    (endpoint : Endpoint) : Decision :=
  match h.groups.live? id token with
  | none => h.stay [.staleConnect id token]
  | some g =>
    let handed := g.drained endpoint
    ⟨h.withGroups (h.groups.update id fun _ => g.connect endpoint),
      handed.map fun (taker, r) => .handOver id token taker r,
      [.connected id handed.length]⟩

/-- A connection reports that its provider dropped. -/
def disconnected (h : Host) (id : ProviderId) (token : Token) :
    Decision :=
  match h.groups.live? id token with
  | none => h.stay []
  | some g =>
    ⟨h.withGroups (h.groups.update id fun _ => g.disconnect), [],
      [.disconnected id]⟩

/-- A provider answers a request with a session, or without one. The
request is done, its listener registered and its owner to be told; an
answer to a request that is not ongoing is passed over. -/
def answered (h : Host) (id : ProviderId) (token : Token)
    (request : RequestId) (session : Option Session) : Decision :=
  match h.groups.live? id token with
  | none => h.stay [.staleSession id token]
  | some g =>
    match g.finish? request with
    | none => h.retireIfIdle id token
    | some (r, rest) =>
      let listener := r.request.listener
      let registered := rest.addListener listener
      let told : Decision :=
        ⟨h.withGroups (h.groups.update id fun _ => registered),
          [.notify id token request r.request.owner listener session], []⟩
      told.andThen (·.retireIfIdle id token)

-- ====================================================== after a call

/-- The call that connects came back well. If its group was retired
meanwhile, the connection is released now. -/
def established (h : Host) (id : ProviderId) (token : Token) : Decision :=
  match h.groups.live? id token with
  | some g =>
    h.withGroups (h.groups.update id fun _ => g.established) |>.stay []
  | none =>
    ⟨h, [.disconnect id token], [.releasedLate id token]⟩

/-- The call that connects was refused. Its group is forgotten; there is
no connection to release. -/
def forgetRefused (h : Host) (id : ProviderId) (token : Token) : Decision :=
  match h.groups.live? id token with
  | none => h.stay []
  | some _ => h.withGroups (h.groups.erase id) |>.stay []

/-- A request could not be handed over. Every request and every listener
of the connection is dropped. -/
def dropWork (h : Host) (id : ProviderId) (token : Token) : Decision :=
  let cleared : Decision :=
    match h.groups.live? id token with
    | none => h.stay []
    | some g =>
      h.withGroups (h.groups.update id fun _ => g.clear)
        |>.stay [.transportFailed id]
  cleared.andThen (·.retireIfIdle id token)

/-- The owner of a session is gone. The listener of the session is no
longer registered. -/
def ownerLost (h : Host) (id : ProviderId) (token : Token)
    (listener : ListenerId) : Decision :=
  let forgotten : Decision :=
    match h.groups.live? id token with
    | none => h.stay []
    | some g =>
      h.withGroups (h.groups.update id fun _ => g.eraseListener listener)
        |>.stay []
  forgotten.andThen (·.retireIfIdle id token)

-- ================================================== across all groups

/-- A listener is no longer registered anywhere. Groups left idle are
retired. -/
def releaseListener (h : Host) (listener : ListenerId) : Decision :=
  let owners := h.groups.entries.filter (·.2.hasListener listener)
  let unregistered : Decision :=
    ⟨h.withGroups (h.groups.mapGroups (·.eraseListener listener)), [],
      owners.map fun (id, _) => .listenerRemoved id listener⟩
  unregistered.andThen (·.retireIdleOf h.connections)

/-- All work of all groups is dropped, and the groups with it. -/
def retireEvery (h : Host) : Decision :=
  let cleared : Decision :=
    ⟨h.withGroups (h.groups.mapGroups (·.clear)), [],
      if h.connections.isEmpty then []
      else [.forceRetiring h.connections.length]⟩
  cleared.andThen (·.retireIdleOf h.connections)

end SpellSessions.Host
