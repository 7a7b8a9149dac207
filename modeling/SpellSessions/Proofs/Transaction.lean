/-
Transactions: the uninterrupted steps on a host's groups, as data.

A turn of the service and the return of a call make one transaction at
most, and nothing else changes a group. Here is what a transaction does,
said in one way for all of them: it leaves some work to each live group,
those left without any leave the table, and the calls it owes are those it
hands out and the releases of the connections that left.

# The four parts

- `leaves`: the work of a live group after the transaction, before anyone
  looks whether any is left;
- `opens`: the group that a first request opens;
- `hands`: the calls that connect, hand over a request or tell an owner;
- `releases`: the calls that release a connection.

That every transition is put together from these parts is proved in
Transaction/Effect.lean. It takes that all groups are live and have work,
which every transaction keeps (Teardown.lean).
-/
import SpellSessions.Proofs.Table
import SpellSessions.Service

namespace SpellSessions

/-- An uninterrupted step on the groups of a host. -/
inductive Transaction where
  /-- The groups are left alone. -/
  | stay
  | submit (provider : Provider) (request : Request)
  | connected (link : Link) (endpoint : Endpoint)
  | disconnected (link : Link)
  | answered (handle : ReplyHandle) (session : Option Session)
  | established (link : Link)
  | forgetRefused (link : Link)
  | dropWork (link : Link)
  | ownerLost (link : Link) (listener : ListenerId)
  | releaseListener (listener : ListenerId)
  | retireEvery
deriving DecidableEq, Repr

namespace Transaction

/-- What the transaction decides. -/
def decision (h : Host) : Transaction → Decision
  | .stay => h.stay []
  | .submit p r => h.submit p r
  | .connected l endpoint => h.connected l.provider l.token endpoint
  | .disconnected l => h.disconnected l.provider l.token
  | .answered a session => h.answered a.provider a.token a.request session
  | .established l => h.established l.provider l.token
  | .forgetRefused l => h.forgetRefused l.provider l.token
  | .dropWork l => h.dropWork l.provider l.token
  | .ownerLost l listener => h.ownerLost l.provider l.token listener
  | .releaseListener listener => h.releaseListener listener
  | .retireEvery => h.retireEvery

end Transaction

-- ============================================================ the groups

/-- The connection that a request was handed over on. -/
def ReplyHandle.link (a : ReplyHandle) : Link :=
  ⟨a.provider, a.token⟩

/-- Whether a live group belongs to the connection. -/
def Link.isOf (l : Link) (id : ProviderId) (g : Group) : Bool :=
  l.provider = id && l.token = g.token

/-- A change of the group of one connection only. -/
def Link.only (l : Link) (change : Group → Group) (id : ProviderId)
    (g : Group) : Group :=
  if l.isOf id g then change g else g

namespace Group

/-- The group after a provider's answer to a request. An answer to a
request that is not ongoing changes nothing. -/
def finished (g : Group) (request : RequestId) : Group :=
  match g.finish? request with
  | none => g
  | some (r, rest) => rest.addListener r.request.listener

/-- The group that a first request opens. -/
def first (token : Token) (r : NumberedRequest) : Group :=
  { opening token with pending := [r] }

end Group

namespace GroupTable

/-- Every group is live and has work. -/
def Busy (t : GroupTable) : Prop :=
  ∀ e ∈ t.entries, e.2.retired = false ∧ e.2.isIdle = false

/-- The entries that are left once every group is changed and those without
work are gone. -/
def kept (t : GroupTable) (change : ProviderId → Group → Group) :
    List (ProviderId × Group) :=
  t.entries.filterMap fun e =>
    if (change e.1 e.2).isIdle then none else some (e.1, change e.1 e.2)

/-- The releases of the connections whose groups a change leaves without
work. A connection whose call has not returned is not released. -/
def released (t : GroupTable) (change : ProviderId → Group → Group) :
    List Call :=
  t.entries.filterMap fun e =>
    if (change e.1 e.2).isIdle && !e.2.connecting then
      some (.disconnect e.1 e.2.token)
    else none

end GroupTable

-- ====================================================== the four parts

namespace Transaction

/-- What the transaction leaves of the work of a live group. -/
def leaves (h : Host) : Transaction → ProviderId → Group → Group
  | .stay => fun _ g => g
  | .submit p r => fun id g =>
    if p.id = id then (g.accept ⟨h.freshRequest, r⟩).1 else g
  | .connected l endpoint => l.only (·.connect endpoint)
  | .disconnected l => l.only Group.disconnect
  | .answered a _ => a.link.only (·.finished a.request)
  | .established l => l.only Group.established
  | .forgetRefused l => l.only Group.clear
  | .dropWork l => l.only Group.clear
  | .ownerLost l listener => l.only (·.eraseListener listener)
  | .releaseListener listener => fun _ g => g.eraseListener listener
  | .retireEvery => fun _ g => g.clear

/-- The group that the transaction opens: a request for a provider without
group waits in a new one. -/
def opens (h : Host) : Transaction → List (ProviderId × Group)
  | .submit p r =>
    match h.groups.find? p.id with
    | none => [(p.id, .first h.freshToken ⟨h.freshRequest, r⟩)]
    | some _ => []
  | _ => []

/-- The calls of the transaction other than releases. -/
def hands (h : Host) : Transaction → List Call
  | .submit p r =>
    match h.groups.find? p.id with
    | none => [.connect p h.freshToken]
    | some g =>
      match g.endpoint with
      | none => []
      | some endpoint =>
        [.handOver p.id g.token endpoint ⟨h.freshRequest, r⟩]
  | .connected l endpoint =>
    match h.groups.live? l.provider l.token with
    | none => []
    | some g => g.pending.map (.handOver l.provider l.token endpoint)
  | .answered a session =>
    match h.groups.live? a.provider a.token with
    | none => []
    | some g =>
      match g.ongoing.find? (·.id = a.request) with
      | none => []
      | some r =>
        [.notify a.provider a.token a.request r.request.owner
          r.request.listener session]
  | _ => []

/-- The releases that the transaction owes. A connection that was refused
is not released; one that is established after its group left is released
at once. -/
def releases (h : Host) : Transaction → List Call
  | .forgetRefused _ => []
  | .established l =>
    match h.groups.live? l.provider l.token with
    | none => [.disconnect l.provider l.token]
    | some _ => []
  | tx => h.groups.released (tx.leaves h)

end Transaction

end SpellSessions
