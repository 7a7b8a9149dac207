/-
What diagnostics show of a service: the state at one moment, as a value
that can be written as JSON, and short forms of single things.

The groups of an overview are listed by ascending provider, whatever the
order in which the table holds them.
-/
import SpellSessions.Service
import SpellSessions.Text.Quoted

namespace SpellSessions

/-- A request as diagnostics show it. -/
structure RequestView where
  uid : UInt32
  locale : Option String
  listener : ListenerId
deriving DecidableEq, Repr

/-- A group as diagnostics show it. -/
structure GroupView where
  provider : ProviderId
  token : Token
  connecting : Bool
  connected : Bool
  retired : Bool
  pending : List RequestView
  ongoing : List RequestView
  listeners : List ListenerId
deriving DecidableEq, Repr

/-- A provider as diagnostics show it. -/
structure ProviderView where
  id : ProviderId
  package : String
  system : Bool
  /-- The tags of its subtypes. -/
  subtypes : List String
deriving DecidableEq, Repr

/-- A service at one moment. -/
structure Overview where
  user : Option UserId
  active : Bool
  /-- What is stored as the selection of the user, known or not. -/
  providerOf : ProviderId
  providers : List ProviderView
  groups : List GroupView
deriving DecidableEq, Repr

-- ========================================================= what is shown

/-- What is shown of a request. -/
def NumberedRequest.view (r : NumberedRequest) : RequestView :=
  ⟨r.request.caller.uid, r.request.locale, r.request.listener⟩

/-- What is shown of the group of a provider. -/
def Group.view (id : ProviderId) (g : Group) : GroupView where
  provider := id
  token := g.token
  connecting := g.connecting
  connected := g.isConnected
  retired := g.retired
  pending := g.pending.map NumberedRequest.view
  ongoing := g.ongoing.map NumberedRequest.view
  listeners := g.listeners

/-- What is shown of a provider. -/
def Provider.view (p : Provider) : ProviderView :=
  ⟨p.id, p.package, p.system, p.subtypes.map (·.locale.render)⟩

/-- What is shown of the groups of a host. -/
def Host.groupViews (h : Host) : List GroupView :=
  h.groups.sorted.map fun (id, g) => g.view id

/-- What is shown of a service. -/
def Service.overview (s : Service) : Overview where
  user := s.host.user
  active := s.host.active
  providerOf := (s.host.user.map s.settings.providerOf).getD ""
  providers := s.host.registry.providers.map Provider.view
  groups := s.host.groupViews

-- ============================================================== as JSON

/-- A request as JSON. -/
def RequestView.toJson (r : RequestView) : Json :=
  .record [
    ("uid", .ofNat r.uid.toNat),
    ("locale", .ofText? r.locale),
    ("listener", .ofNat r.listener.number.toNat)]

/-- A group as JSON. -/
def GroupView.toJson (g : GroupView) : Json :=
  .record [
    ("provider", .ofText g.provider),
    ("token", .ofNat g.token.number),
    ("admitting", .bool g.connecting),
    ("connected", .bool g.connected),
    ("unbind_called", .bool g.retired),
    ("pending", .array (g.pending.map RequestView.toJson)),
    ("ongoing", .array (g.ongoing.map RequestView.toJson)),
    ("listeners", .array (g.listeners.map (.ofNat ·.number.toNat)))]

/-- A provider as JSON. -/
def ProviderView.toJson (p : ProviderView) : Json :=
  .record [
    ("id", .ofText p.id),
    ("package", .ofText p.package),
    ("system", .bool p.system),
    ("subtypes", .ofTexts p.subtypes)]

/-- An overview as JSON. -/
def Overview.toJson (o : Overview) : Json :=
  .record [
    ("user", (o.user.map fun u => .ofNat u.number.toNat).getD .null),
    ("active", .bool o.active),
    ("selected_provider", .ofText o.providerOf),
    ("providers", .array (o.providers.map ProviderView.toJson)),
    ("groups", .array (o.groups.map GroupView.toJson))]

-- ========================================================== short forms

open Text

/-- A locale, part by part. -/
def Locale.shown (l : Locale) : String :=
  shownRecord "Locale" [
    ("language", quoted l.language),
    ("region", shownOption (l.region.map quoted)),
    ("variant", shownOption (l.variant.map quoted))]

/-- A rule for the default with its locales. -/
def DefaultRule.shown (r : DefaultRule) : String :=
  shownRecord "SelectionPolicy" [
    ("fallback_locales", shownList (r.fallbacks.map Locale.shown))]

/-- A service shows its rule only. -/
def Service.shown (s : Service) : String :=
  shownPartly "SessionFacade" [("policy", s.rule.shown)]

/-- The groups and the registry show their names only. -/
def groupsShown : String := "ConnectionBroker"

/-- The registry shows its name only. -/
def registryShown : String := "ProviderRegistry"

/-- A caller with its number and its user's. -/
def Caller.shown (c : Caller) : String :=
  shownRecord "CallerIdentity" [
    ("uid", toString c.uid),
    ("user", shownTuple "UserContext" (toString c.user.number))]

/-- A listener with its number. -/
def ListenerId.shown (l : ListenerId) : String :=
  shownTuple "ListenerId" (toString l.number)

/-- A token with its number. -/
def Token.shown (t : Token) : String :=
  shownTuple "ConnectionToken" (toString t.number)

/-- What a provider is told about a request. -/
def Brief.shown (p : Brief) : String :=
  shownRecord "SessionParams" [
    ("locale", shownOption (p.locale.map quoted)),
    ("listener", p.listener.shown),
    ("extras", shownMap p.extras.entries)]

/-- A request without its owner. -/
def Request.shown (r : Request) : String :=
  shownPartly "SessionRequest" [
    ("caller", r.caller.shown),
    ("locale", shownOption (r.locale.map quoted)),
    ("listener", r.listener.shown),
    ("extras", shownMap r.extras.entries)]

/-- The handle on a connection. -/
def Link.shown (l : Link) : String :=
  shownPartly "ConnectionLink" [
    ("provider_id", shownTuple "ProviderId" (quoted l.provider)),
    ("token", l.token.shown)]

/-- The handle on a request. -/
def ReplyHandle.shown (r : ReplyHandle) : String :=
  shownPartly "SessionReply" [
    ("provider_id", shownTuple "ProviderId" (quoted r.provider)),
    ("token", r.token.shown),
    ("request", toString r.request.number)]

end SpellSessions
