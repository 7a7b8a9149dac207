/-
Notices: what the host tells its log.

A notice is a fact; the level, the target, the words and the fields of
its log record follow from it. Records keep their fields in a fixed
order, since one of the log formats writes them one after the other.
-/
import SpellSessions.Provider.Descriptor
import SpellSessions.Refusal

namespace SpellSessions

/-- How grave a log record is. -/
inductive Level where
  | error
  | warn
  | info
  | debug
  | trace
deriving DecidableEq, Repr

/-- The name of a level. -/
def Level.text : Level → String
  | .error => "ERROR"
  | .warn => "WARN"
  | .info => "INFO"
  | .debug => "DEBUG"
  | .trace => "TRACE"

/-- The value of a field of a log record. -/
inductive FieldValue where
  | text (s : String)
  | count (n : Nat)
  | flag (b : Bool)
deriving DecidableEq, Repr

/-- A field's value as JSON. -/
def FieldValue.toJson : FieldValue → Json
  | .text s => .ofText s
  | .count n => .ofNat n
  | .flag b => .bool b

/-- A field's value in plain text. -/
def FieldValue.plain : FieldValue → String
  | .text s => s
  | .count n => toString n
  | .flag b => toString b

/-- A log record. -/
structure LogRecord where
  level : Level
  target : String
  message : String
  fields : List (String × FieldValue)
deriving DecidableEq, Repr

/-- What the host tells its log. -/
inductive Notice where
  -- the registry
  | duplicateProvider (id : ProviderId) (package : String)
  | invalidProvider (package : String) (fault : DescriptorFault)
  | registryRebuilt (providers : Nat)
  -- the selection of a provider
  | invalidFallback (fault : LocaleError)
  | noProviders
  | pickingFirst (providers : Nat)
  -- groups
  | groupCreated (provider : ProviderId) (token : Token)
  | requestQueued (provider : ProviderId)
  | requestDropped (provider : ProviderId)
  | staleConnect (provider : ProviderId) (token : Token)
  | connected (provider : ProviderId) (drained : Nat)
  | disconnected (provider : ProviderId)
  | staleSession (provider : ProviderId) (token : Token)
  | transportFailed (provider : ProviderId)
  | releasedLate (provider : ProviderId) (token : Token)
  | listenerRemoved (provider : ProviderId) (listener : ListenerId)
  | forceRetiring (groups : Nat)
  | retiredWhileConnecting (provider : ProviderId) (token : Token)
  | tornDown (provider : ProviderId) (token : Token)
  -- calls
  | connectRefused (refusal : ConnectRefusal)
  | handOverFailed (provider : ProviderId) (reason : String)
  | ownerGone (provider : ProviderId) (listener : ListenerId)
  | followUpFailed (refusal : ConnectRefusal)
  -- operations
  | switchingUser (user : UserId) (unlocked : Bool)
  | disabled
  | noDefault (user : UserId)
  | selecting (user : UserId) (provider : ProviderId)
  | openingSession (provider : ProviderId) (listener : ListenerId)
  | listenerLost (listener : ListenerId)
  | backgroundChange (user : UserId)
deriving DecidableEq, Repr

namespace Notice

/-- The target of notices about the registry. -/
def registryLog : String := "speller_host::registry"

/-- The target of notices about the selection of a provider. -/
def selectionLog : String := "speller_host::selection"

/-- The target of notices about groups and calls. -/
def groupLog : String := "speller_host::broker"

/-- The target of notices about operations. -/
def operationLog : String := "speller_host::facade"

/-- The field that names a provider. -/
def providerField (id : ProviderId) : String × FieldValue :=
  ("provider", .text id)

/-- The field that names a connection. -/
def tokenField (t : Token) : String × FieldValue :=
  ("token", .text t.text)

/-- The field that names a listener. -/
def listenerField (l : ListenerId) : String × FieldValue :=
  ("listener", .text l.text)

/-- The field that names a user. -/
def userField (u : UserId) : String × FieldValue :=
  ("user", .text u.text)

/-- The field that quotes an error. -/
def errorField (message : String) : String × FieldValue :=
  ("error", .text message)

/-- The log record of a notice. -/
def record : Notice → LogRecord
  | duplicateProvider id package =>
    ⟨.warn, registryLog, "skipping duplicate provider id",
      [providerField id, ("package", .text package)]⟩
  | invalidProvider package fault =>
    ⟨.warn, registryLog, "skipping spell checker provider",
      [("package", .text package), errorField fault.message]⟩
  | registryRebuilt providers =>
    ⟨.debug, registryLog, "registry rebuilt",
      [("providers", .count providers)]⟩
  | invalidFallback fault =>
    ⟨.warn, selectionLog, "ignoring fallback locale",
      [errorField fault.message]⟩
  | noProviders =>
    ⟨.warn, selectionLog, "no spell checker providers available", []⟩
  | pickingFirst providers =>
    ⟨.warn, selectionLog,
      "more than one spell checker provider found, picking first",
      [("providers", .count providers)]⟩
  | groupCreated p t =>
    ⟨.debug, groupLog, "creating bind group",
      [providerField p, tokenField t]⟩
  | requestQueued p =>
    ⟨.debug, groupLog, "session request queued", [providerField p]⟩
  | requestDropped p =>
    ⟨.warn, groupLog, "dropping session request for retired bind group",
      [providerField p]⟩
  | staleConnect p t =>
    ⟨.debug, groupLog, "ignoring stale connect",
      [providerField p, tokenField t]⟩
  | connected p drained =>
    ⟨.debug, groupLog, "provider connected",
      [providerField p, ("drained", .count drained)]⟩
  | disconnected p =>
    ⟨.debug, groupLog, "provider disconnected", [providerField p]⟩
  | staleSession p t =>
    ⟨.debug, groupLog, "ignoring stale session",
      [providerField p, tokenField t]⟩
  | transportFailed p =>
    ⟨.warn, groupLog,
      "transport failure, dropping every request and listener",
      [providerField p]⟩
  | releasedLate p t =>
    ⟨.debug, groupLog, "releasing connection retired during admission",
      [providerField p, tokenField t]⟩
  | listenerRemoved p l =>
    ⟨.debug, groupLog, "listener removed",
      [providerField p, listenerField l]⟩
  | forceRetiring groups =>
    ⟨.warn, groupLog, "force retiring bind groups",
      [("groups", .count groups)]⟩
  | retiredWhileConnecting p t =>
    ⟨.debug, groupLog, "retired bind group before admission",
      [providerField p, tokenField t]⟩
  | tornDown p t =>
    ⟨.debug, groupLog, "tearing down bind group",
      [providerField p, tokenField t]⟩
  | connectRefused refusal =>
    ⟨.warn, groupLog, "connect refused",
      [providerField refusal.provider, errorField refusal.source]⟩
  | handOverFailed p reason =>
    ⟨.warn, groupLog, "session dispatch failed",
      [providerField p, errorField (transportMessage reason)]⟩
  | ownerGone p l =>
    ⟨.debug, groupLog, "session owner gone before notification",
      [providerField p, listenerField l]⟩
  | followUpFailed refusal =>
    ⟨.debug, groupLog, "deferred follow-up failed",
      [errorField refusal.message]⟩
  | switchingUser u unlocked =>
    ⟨.info, operationLog, "switching user",
      [userField u, ("unlocked", .flag unlocked)]⟩
  | disabled =>
    ⟨.info, operationLog, "spell checker service disabled", []⟩
  | noDefault u =>
    ⟨.debug, operationLog, "no default provider to select", [userField u]⟩
  | selecting u p =>
    ⟨.info, operationLog, "selecting spell checker provider",
      [userField u, providerField p]⟩
  | openingSession p l =>
    ⟨.debug, operationLog, "opening session",
      [providerField p, listenerField l]⟩
  | listenerLost l =>
    ⟨.debug, operationLog, "session listener died", [listenerField l]⟩
  | backgroundChange u =>
    ⟨.debug, operationLog, "ignoring background package change",
      [userField u]⟩

end Notice

/-- A result, with the notices that were logged on the way to it. -/
structure Logged (α : Type) where
  value : α
  notices : List Notice

end SpellSessions
