/-
Calls: what the host owes its collaborators.

A transition of the host decides on calls and makes none. They are made
afterwards, one by one, when nothing of the host's state is held any
more, so that a collaborator may turn to the host from inside a call.
-/
import SpellSessions.Provider
import SpellSessions.Session

namespace SpellSessions

/-- A call to a collaborator. -/
inductive Call where
  /-- Connect to a provider, under a token. -/
  | connect (provider : Provider) (token : Token)
  /-- Ask the endpoint of a connected provider for a session. -/
  | create (provider : ProviderId) (token : Token) (endpoint : Endpoint)
      (request : RequestId) (brief : Brief)
  /-- Tell the owner of a request of its session, or that the provider
  declined to make one. -/
  | notify (provider : ProviderId) (token : Token) (request : RequestId)
      (owner : Owner) (listener : ListenerId) (session : Option Session)
  /-- Release the connection of a token. -/
  | disconnect (provider : ProviderId) (token : Token)
deriving DecidableEq, Repr

namespace Call

/-- The connection a call is about. -/
def token : Call → Token
  | connect _ t => t
  | create _ t _ _ _ => t
  | notify _ t _ _ _ _ => t
  | disconnect _ t => t

/-- Whether a call asks for a session. -/
def isCreate : Call → Bool
  | create _ _ _ _ _ => true
  | _ => false

/-- Whether a call releases a connection. -/
def isDisconnect : Call → Bool
  | disconnect _ _ => true
  | _ => false

/-- The call that hands a request of a connection to its endpoint. -/
def handOver (provider : ProviderId) (token : Token)
    (endpoint : Endpoint) (r : NumberedRequest) : Call :=
  .create provider token endpoint r.id r.request.brief

end Call

/-- How a collaborator's call comes back. -/
inductive Answer where
  /-- It did what it was asked. -/
  | accepted
  /-- It did not, for a reason: a connector refuses to connect, a request
  does not reach its provider, an owner is gone. -/
  | declined (reason : String)
deriving DecidableEq, Repr

end SpellSessions
