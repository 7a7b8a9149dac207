/-
Groups: the state of one connection.

A group belongs to one attempt to connect, named by its token. Requests
wait in `pending` until the provider is connected, are then `ongoing`
until their session is ready, and leave a registered listener behind. A
group with none of the three is idle; an idle group is retired, once and
for good.
-/
import SpellSessions.Session

namespace SpellSessions

/-- The state of one connection. -/
structure Group where
  /-- The attempt to connect that the group belongs to. -/
  token : Token
  /-- Where the provider takes requests, while it is connected. -/
  endpoint : Option Endpoint
  /-- Whether the call that connects has not returned yet. -/
  connecting : Bool
  /-- Whether the group is retired. -/
  retired : Bool
  /-- The requests that wait for the connection, first to last. -/
  pending : List NumberedRequest
  /-- The requests that wait for their session, in the order in which they
  were handed over. -/
  ongoing : List NumberedRequest
  /-- The listeners of live sessions, ascending, each one once. -/
  listeners : List ListenerId
deriving DecidableEq, Repr

/-- What becomes of a request that is offered to a group. -/
inductive Uptake where
  /-- It waits for the connection. -/
  | waits
  /-- It is ongoing, and owed to the endpoint. -/
  | handedTo (endpoint : Endpoint)
  /-- The group is retired and takes nothing. -/
  | lost
deriving DecidableEq, Repr

namespace Group

/-- A group whose call to connect has not returned. -/
def opening (token : Token) : Group :=
  ⟨token, none, true, false, [], [], []⟩

/-- Whether the provider is connected. -/
def isConnected (g : Group) : Bool :=
  g.endpoint.isSome

/-- Whether no work is left: no request and no listener. -/
def isIdle (g : Group) : Bool :=
  g.listeners.isEmpty && g.pending.isEmpty && g.ongoing.isEmpty

-- ============================================================ requests

/-- A request is offered. It is ongoing at once if the provider is
connected, and waits behind all others if not. -/
def accept (g : Group) (r : NumberedRequest) : Group × Uptake :=
  if g.retired then (g, .lost)
  else
    match g.endpoint with
    | none => ({ g with pending := g.pending ++ [r] }, .waits)
    | some endpoint =>
      ({ g with ongoing := g.ongoing ++ [r] }, .handedTo endpoint)

/-- The requests of a queue are taken from its front and accepted one by
one. Those that are handed over come along, each with its endpoint. -/
def drain (g : Group) :
    List NumberedRequest → Group × List (Endpoint × NumberedRequest)
  | [] => (g, [])
  | r :: rest =>
    let (accepted, uptake) := { g with pending := rest }.accept r
    let (drained, handed) := accepted.drain rest
    match uptake with
    | .handedTo endpoint => (drained, (endpoint, r) :: handed)
    | _ => (drained, handed)

/-- The provider is connected, and what is pending is drained. A retired
group stays as it is. -/
def connectDraining (g : Group) (endpoint : Endpoint) :
    Group × List (Endpoint × NumberedRequest) :=
  if g.retired then (g, [])
  else { g with endpoint := some endpoint }.drain g.pending

/-- The group once the provider is connected. -/
def connect (g : Group) (endpoint : Endpoint) : Group :=
  (g.connectDraining endpoint).1

/-- The requests that are handed over when the provider is connected,
first to last. -/
def drained (g : Group) (endpoint : Endpoint) :
    List (Endpoint × NumberedRequest) :=
  (g.connectDraining endpoint).2

/-- A connected group hands over all that is drained, first to last: it is
ongoing behind what was ongoing before, and nothing is pending. -/
theorem drain_of_connected {g : Group} {endpoint : Endpoint}
    {queue : List NumberedRequest} (hlive : g.retired = false)
    (hconnected : g.endpoint = some endpoint) (hqueue : g.pending = queue) :
    g.drain queue
      = ({ g with pending := [], ongoing := g.ongoing ++ queue },
        queue.map (endpoint, ·)) := by
  induction queue generalizing g with
  | nil =>
      obtain ⟨token, _, connecting, _, _, ongoing, listeners⟩ := g
      cases hqueue
      unfold drain
      rw [List.append_nil, List.map_nil]
  | cons r rest ih =>
      have haccept : { g with pending := rest }.accept r
          = ({ g with pending := rest, ongoing := g.ongoing ++ [r] },
            .handedTo endpoint) := by
        unfold accept
        rw [if_neg (Bool.eq_false_iff.mp hlive)]
        dsimp only
        rw [hconnected]
      have hrest := ih
        (g := { g with pending := rest, ongoing := g.ongoing ++ [r] })
        hlive hconnected rfl
      unfold drain
      rw [haccept]
      dsimp only
      rw [hrest]
      dsimp only
      rw [List.append_assoc]
      rfl

theorem connectDraining_eq (g : Group) (endpoint : Endpoint) :
    g.connectDraining endpoint
      = if g.retired then (g, [])
        else
          ({ g with
              endpoint := some endpoint
              pending := []
              ongoing := g.ongoing ++ g.pending },
            g.pending.map (endpoint, ·)) := by
  unfold connectDraining
  split
  · rfl
  · next hlive =>
      exact drain_of_connected (g := { g with endpoint := some endpoint })
        (Bool.eq_false_iff.mpr hlive) rfl rfl

/-- When the provider is connected, what was pending is ongoing, behind
what was ongoing before. -/
theorem connect_eq (g : Group) (endpoint : Endpoint) :
    g.connect endpoint
      = if g.retired then g
        else
          { g with
            endpoint := some endpoint
            pending := []
            ongoing := g.ongoing ++ g.pending } := by
  unfold connect
  rw [connectDraining_eq]
  split <;> rfl

/-- When the provider is connected, what was pending is handed over, first
to last. -/
theorem drained_eq (g : Group) (endpoint : Endpoint) :
    g.drained endpoint
      = if g.retired then [] else g.pending.map (endpoint, ·) := by
  unfold drained
  rw [connectDraining_eq]
  split <;> rfl

/-- The provider dropped. Requests and listeners stay, for a
reconnection. -/
def disconnect (g : Group) : Group :=
  { g with endpoint := none }

/-- The ongoing request of a given id, and the group without it. -/
def finish? (g : Group) (id : RequestId) :
    Option (NumberedRequest × Group) :=
  if g.retired then none
  else
    (g.ongoing.find? (·.id = id)).map fun r =>
      (r, { g with ongoing := g.ongoing.eraseP (·.id = id) })

/-- The call to connect has returned well. -/
def established (g : Group) : Group :=
  { g with connecting := false }

-- =========================================================== listeners

/-- A listener put in its place among others; one that is there
already stays once. -/
def insertListener (l : ListenerId) : List ListenerId → List ListenerId
  | [] => [l]
  | m :: rest =>
    if l = m then m :: rest
    else if l.number < m.number then l :: m :: rest
    else m :: insertListener l rest

/-- A listener is registered. -/
def addListener (g : Group) (l : ListenerId) : Group :=
  { g with listeners := insertListener l g.listeners }

/-- Whether a listener is registered. -/
def hasListener (g : Group) (l : ListenerId) : Bool :=
  g.listeners.contains l

/-- A listener is no longer registered. -/
def eraseListener (g : Group) (l : ListenerId) : Group :=
  { g with listeners := g.listeners.erase l }

/-- Every request and every listener is forgotten. -/
def clear (g : Group) : Group :=
  { g with pending := [], ongoing := [], listeners := [] }

/-- Whether the group is to be retired now: it has no work left, and is
not retired already. -/
def canRetire (g : Group) : Bool :=
  !g.retired && g.isIdle

end Group

end SpellSessions
