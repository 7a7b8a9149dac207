/-
The state of a host, and what a transition of it decides.

The state is everything that decisions rest on: the registry, the user
being served, the live groups, and how many tokens and request ids were
given out. Tokens and request ids count from one; none is given out
twice.
-/
import SpellSessions.Call
import SpellSessions.GroupTable
import SpellSessions.Registry

namespace SpellSessions

/-- The state of a host. -/
structure Host where
  registry : Registry
  /-- The user whose turn it is, served or not. -/
  user : Option UserId
  /-- Whether that user is served. -/
  active : Bool
  groups : GroupTable
  /-- The number of tokens given out so far. -/
  tokens : Nat
  /-- The number of request ids given out so far. -/
  requests : Nat
deriving DecidableEq

/-- What a transition decides: the next state, the calls it owes, and
the notices it logs. -/
structure Decision where
  host : Host
  calls : List Call
  notices : List Notice

namespace Decision

/-- A further transition, from the state that is reached. -/
def andThen (d : Decision) (next : Host → Decision) : Decision :=
  let e := next d.host
  ⟨e.host, d.calls ++ e.calls, d.notices ++ e.notices⟩

end Decision

namespace Host

/-- The state before anything happened. -/
def initial : Host :=
  ⟨.empty, none, false, .empty, 0, 0⟩

/-- Nothing changes and nothing is owed; there may be something to
log. -/
def stay (h : Host) (notices : List Notice) : Decision :=
  ⟨h, [], notices⟩

/-- Whether a user is being served. -/
def isServing (h : Host) (u : UserId) : Bool :=
  h.active && h.user = some u

/-- Whether the call that connects to a provider has not returned
yet. -/
def isConnecting (h : Host) (id : ProviderId) : Bool :=
  (h.groups.find? id).any (·.connecting)

/-- The token that is given out next. -/
def freshToken (h : Host) : Token :=
  ⟨h.tokens + 1⟩

/-- The request id that is given out next. -/
def freshRequest (h : Host) : RequestId :=
  ⟨h.requests + 1⟩

/-- The state with the live groups changed. -/
def withGroups (h : Host) (groups : GroupTable) : Host :=
  { h with groups := groups }

end Host

end SpellSessions
