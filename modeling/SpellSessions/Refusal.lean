/-
Refusals: why a caller, or the host itself, does not get what was asked
for.
-/
import SpellSessions.Identity

namespace SpellSessions

/-- A connection that the connector would not even attempt: the provider
it was meant for, and the connector's reason. -/
structure ConnectRefusal where
  provider : ProviderId
  reason : String
deriving DecidableEq, Repr

/-- A connector's reason in words. -/
def ConnectRefusal.source (r : ConnectRefusal) : String :=
  "connection refused: " ++ r.reason

/-- The refusal in words. -/
def ConnectRefusal.message (r : ConnectRefusal) : String :=
  "no session available for provider '" ++ r.provider ++ "': " ++ r.source

/-- A transport failure in words: a connected provider could not be
handed a request. -/
def transportMessage (reason : String) : String :=
  "provider transport failed: " ++ reason

/-- The loss of a listener's owner in words. -/
def ownerGoneMessage : String :=
  "listener peer is gone"

/-- Why an operation answers its caller with a refusal. -/
inductive Refusal where
  /-- The process is not let in. -/
  | accessDenied (uid : UInt32)
  /-- The host does not serve the caller's user. -/
  | inactive
  /-- A session was asked for without naming a provider. -/
  | emptyProviderId
  /-- The registry has no provider of that id. -/
  | unknownProvider (id : ProviderId)
  /-- The connection that the operation started was refused. -/
  | connectRefused (refusal : ConnectRefusal)
deriving DecidableEq, Repr

/-- The refusal in words. -/
def Refusal.message : Refusal → String
  | .accessDenied uid =>
    "caller uid " ++ toString uid
      ++ " is not allowed to use the spell checker service"
  | .inactive => "spell checker service is not active"
  | .emptyProviderId => "invalid session request: provider id is empty"
  | .unknownProvider id => "spell checker provider '" ++ id ++ "' is not known"
  | .connectRefused refusal => refusal.message

end SpellSessions
