/-
Stores: what the service writes to the settings, and for whom.

Five operations select something for a user, and each of them has replaced
or looked into another registry before it does. All of them write in one of
two ways, or not at all (`Service.Stores`): a known provider together with
an automatic subtype, or a subtype of the provider that is selected. What is
written reads back (`Settings.Shows`). Every turn is one of the three
(`stores_enter`), and a call that returns writes nothing. A turn is
uninterrupted, so the host that it wrote under is the one that it leaves.

# Over a run

Whatever is stored is seen (`Event.stores`). So a run in which no store is
seen, and in which nobody else writes, leaves the settings as they are
(`Journal.settings_of_unwritten`). What is stored for a user changes only
while it is the user's turn (`Service.Stores.agree`).
-/
import SpellSessions.Proofs.Described
import SpellSessions.Proofs.Refresh

namespace SpellSessions

-- ========================================================== what is stored

namespace Event

/-- Whether a selection is stored. -/
def isStore : Event → Bool
  | .storedProvider _ _ => true
  | .storedHash _ _ => true
  | _ => false

/-- The selections that are stored, in order. -/
def stores (events : List Event) : List Event :=
  events.filter (·.isStore)

@[simp] theorem stores_append (es fs : List Event) :
    stores (es ++ fs) = stores es ++ stores fs :=
  List.filter_append es fs

@[simp] theorem stores_noticed (ns : List Notice) :
    stores (ns.map .noticed) = [] := by
  simp [stores, isStore]

/-- No store is a log entry. -/
theorem stores_acts (es : List Event) : stores (acts es) = stores es := by
  unfold stores acts
  rw [List.filter_filter]
  refine List.filter_congr fun e _ => ?_
  cases e <;> rfl

end Event

/-- What reads back for a user once something is selected: the provider and
the subtype, and the enabled flag as it was. -/
structure Settings.Shows (settings settings' : Settings) (u : UserId)
    (id : ProviderId) (hash : SubtypeHash) : Prop where
  provider : settings'.providerOf u = id
  hash : ∀ default, settings'.hashOf default u = hash
  enabled : settings'.enabledFor u = settings.enabledFor u

/-- Everything that is stored for a user reads the same. -/
structure Settings.Agree (settings settings' : Settings) (u : UserId) :
    Prop where
  provider : settings'.providerOf u = settings.providerOf u
  hash : ∀ default, settings'.hashOf default u = settings.hashOf default u
  enabled : settings'.enabledFor u = settings.enabledFor u

namespace Settings

variable {settings settings' settings'' : Settings} {u v : UserId}

theorem Agree.refl (settings : Settings) (u : UserId) :
    settings.Agree settings u :=
  ⟨rfl, fun _ => rfl, rfl⟩

theorem Agree.trans (h : settings.Agree settings' u)
    (h' : settings'.Agree settings'' u) : settings.Agree settings'' u where
  provider := h'.provider.trans h.provider
  hash := fun default => (h'.hash default).trans (h.hash default)
  enabled := h'.enabled.trans h.enabled

/-- To write for one user leaves what is stored for another. -/
theorem agree_update (settings : Settings)
    (change : UserChoices → UserChoices) (hv : v ≠ u) :
    settings.Agree (settings.update u change) v := by
  have hsame := settings.user_update_of_ne hv change
  constructor
  · unfold providerOf
    rw [hsame]
  · intro default
    unfold hashOf
    rw [hsame]
  · unfold enabledFor
    rw [hsame]
    rfl

theorem agree_putHash (settings : Settings) (hash : SubtypeHash)
    (hv : v ≠ u) : settings.Agree (settings.putHash hash u) v :=
  settings.agree_update _ hv

theorem agree_adopt (settings : Settings) (p : Provider) (hv : v ≠ u) :
    settings.Agree (settings.adopt p u) v :=
  (settings.agree_update _ hv).trans (agree_putHash _ _ hv)

/-- A change that is not of the enabled flag leaves the flag. -/
theorem enabledFor_update (settings : Settings)
    {change : UserChoices → UserChoices}
    (hkept : ∀ stored, (change stored).enabled = stored.enabled) :
    (settings.update u change).enabledFor u = settings.enabledFor u := by
  unfold enabledFor
  rw [user_update_self, hkept]
  rfl

/-- A subtype that is stored for a user reads back, and the rest of what the
user selected as before. -/
theorem shows_putHash (settings : Settings) (hash : SubtypeHash)
    (u : UserId) :
    settings.Shows (settings.putHash hash u) u (settings.providerOf u)
      hash where
  provider := settings.providerOf_putHash hash u u
  hash := fun default => settings.hashOf_putHash default hash u
  enabled := settings.enabledFor_update fun _ => rfl

/-- A provider that is stored for a user reads back, with an automatic
subtype. -/
theorem shows_adopt (settings : Settings) (p : Provider) (u : UserId) :
    settings.Shows (settings.adopt p u) u p.id .automatic where
  provider := settings.providerOf_adopt p u
  hash := fun default => settings.hashOf_adopt default p u
  enabled := ((settings.putProvider p.id u).shows_putHash .automatic
    u).enabled.trans (settings.enabledFor_update fun _ => rfl)

end Settings

-- ================================================== the three ways to write

/-- What a turn stores: the service before it, the service that it leaves,
and what is seen of it. -/
inductive Service.Stores (s s' : Service) (events : List Event) : Prop
  /-- Nothing. -/
  | nothing (hsettings : s'.settings = s.settings)
      (hseen : Event.stores events = [])
  /-- A known provider for the user being served, and after it an automatic
  subtype; both read back for the user. -/
  | provider (p : Provider) (u : UserId)
      (hserving : s'.host.isServing u = true)
      (hknown : s'.host.registry.get? p.id = some p)
      (hsettings : s'.settings = s.settings.adopt p u)
      (hshows : s.settings.Shows s'.settings u p.id .automatic)
      (hseen : Event.stores events
        = [.storedProvider p.id u, .storedHash .automatic u])
  /-- For the user being served, an automatic subtype or one that the
  selected provider declares; it reads back for the user, with the same
  provider. -/
  | subtype (hash : SubtypeHash) (u : UserId)
      (hserving : s'.host.isServing u = true)
      (hdeclared : hash = .automatic
        ∨ ∃ p t, s'.providerFor? u = some p ∧ t ∈ p.subtypes ∧ t.hash = hash)
      (hsettings : s'.settings = s.settings.putHash hash u)
      (hshows : s.settings.Shows s'.settings u (s.settings.providerOf u) hash)
      (hseen : Event.stores events = [.storedHash hash u])

theorem Host.isServing_iff {h : Host} {u : UserId} :
    h.isServing u = true ↔ h.active = true ∧ h.user = some u := by
  unfold isServing
  rw [Bool.and_eq_true, decide_eq_true_eq]

namespace Service

variable {s s' : Service} {around : Surroundings} {u v : UserId}
  {p : Provider} {d : Draft} {news : PackageNews} {events : List Event}

/-- A user whose turn it is not keeps everything that is stored. -/
theorem Stores.agree (h : s.Stores s' events)
    (hother : s'.host.user ≠ some v) : s.settings.Agree s'.settings v := by
  have hne : ∀ u, s'.host.isServing u = true → v ≠ u := by
    rintro u hserving rfl
    exact hother (Host.isServing_iff.mp hserving).2
  cases h with
  | nothing hsettings hseen => exact hsettings ▸ .refl _ _
  | provider p u hserving hknown hsettings hshows hseen =>
      exact hsettings ▸ s.settings.agree_adopt p (hne u hserving)
  | subtype hash u hserving hdeclared hsettings hshows hseen =>
      exact hsettings ▸ s.settings.agree_putHash hash (hne u hserving)

/-- What is seen besides the stores makes no difference. -/
theorem Stores.congr {events' : List Event} (h : s.Stores s' events)
    (heq : Event.stores events' = Event.stores events) :
    s.Stores s' events' := by
  cases h with
  | nothing hsettings hseen => exact .nothing hsettings (heq.trans hseen)
  | provider p u hserving hknown hsettings hshows hseen =>
      exact .provider p u hserving hknown hsettings hshows (heq.trans hseen)
  | subtype hash u hserving hdeclared hsettings hshows hseen =>
      exact .subtype hash u hserving hdeclared hsettings hshows
        (heq.trans hseen)

/-- A known provider that is selected reads back. -/
theorem Stores.of_adopt (hserving : s'.host.isServing u = true)
    (hknown : s'.host.registry.get? p.id = some p)
    (hsettings : s'.settings = s.settings.adopt p u)
    (hseen : Event.stores events
      = [.storedProvider p.id u, .storedHash .automatic u]) :
    s.Stores s' events :=
  .provider p u hserving hknown hsettings
    (hsettings ▸ s.settings.shows_adopt p u) hseen

-- ========================================================= a turn so far

theorem Stores.owing (h : s.Stores d.service d.events) (manner : Manner) :
    s.Stores (d.owing manner).service (d.owing manner).events := h

theorem Stores.reply (h : s.Stores d.service d.events) (r : Reply) :
    s.Stores (d.reply r).service (d.reply r).events := h

/-- A turn so far that has stored nothing. -/
structure Unwritten (s : Service) (d : Draft) : Prop where
  settings : d.service.settings = s.settings
  seen : Event.stores d.events = []

theorem unwritten_draft (s : Service) : s.Unwritten s.draft :=
  ⟨rfl, rfl⟩

namespace Unwritten

/-- To log stores nothing. -/
theorem noteAll (h : s.Unwritten d) (ns : List Notice) :
    s.Unwritten (d.noteAll ns) where
  settings := h.settings
  seen := by simp [Draft.noteAll, h.seen]

theorem note (h : s.Unwritten d) (n : Notice) : s.Unwritten (d.note n) :=
  h.noteAll [n]

theorem transition (h : s.Unwritten d) (next : Host → Decision) :
    s.Unwritten (d.transition next) where
  settings := h.settings
  seen := by simp [Draft.transition, h.seen]

theorem mapHost (h : s.Unwritten d) (change : Host → Host) :
    s.Unwritten (d.mapHost change) :=
  ⟨h.settings, h.seen⟩

theorem standDown (h : s.Unwritten d) : s.Unwritten (standDown d) :=
  (h.transition _).mapHost _

theorem rediscover (h : s.Unwritten d) :
    s.Unwritten (rediscover d around u) where
  settings := h.settings
  seen := by
    rw [← Event.stores_acts, acts_rediscover, Event.stores_append,
      Event.stores_acts, h.seen]
    rfl

theorem stores (h : s.Unwritten d) : s.Stores d.service d.events :=
  .nothing h.settings h.seen

/-- A provider that is known when it is selected. -/
theorem adopt (h : s.Unwritten d) (hserving : d.service.host.isServing u = true)
    (hknown : d.service.host.registry.get? p.id = some p) :
    s.Stores (adopt d p u).service (adopt d p u).events := by
  refine .of_adopt hserving hknown ?_ ?_
  · rw [← h.settings]
    rfl
  · rw [← Event.stores_acts, acts_adopt, Event.stores_append,
      Event.stores_acts, h.seen]
    rfl

/-- A default provider is a known one. -/
theorem ensureSelection (h : s.Unwritten d)
    (hserving : d.service.host.isServing u = true)
    (hsound : d.service.host.registry.Sound) :
    s.Stores (ensureSelection d around u).service
      (ensureSelection d around u).events := by
  unfold Service.ensureSelection
  split
  · exact h.stores
  · dsimp only
    split
    · exact ((h.noteAll _).note _).stores
    · next p hp =>
        refine (h.noteAll _).adopt hserving ?_
        exact hsound.get?_eq_some_iff.mpr ⟨DefaultRule.mem_of_choose hp, rfl⟩

/-- What is stored when the user whose turn it is begins to be served. -/
theorem beginServing (h : s.Unwritten d)
    (huser : d.service.host.user = some u) :
    s.Stores (beginServing d around u).service
      (beginServing d around u).events := by
  refine ((h.rediscover).mapHost _).ensureSelection ?_ ?_
  · exact Host.isServing_iff.mpr ⟨rfl, huser⟩
  · exact Registry.sound_ofDescriptors _

end Unwritten

-- ============================================================= every turn

/-- A provider that the selection moves to is a known one. -/
theorem known_of_moved (h : s.moved? around news = some p) :
    (around.registryFor news.user).get? p.id = some p := by
  unfold moved? at h
  obtain ⟨current, -, hnext⟩ := Option.bind_eq_some_iff.mp h
  split at hnext
  · have hchosen := (Option.filter_eq_some_iff.mp hnext).1
    exact (Registry.sound_ofDescriptors _).get?_eq_some_iff.mpr
      ⟨DefaultRule.mem_of_choose hchosen, rfl⟩
  · cases hnext

theorem stores_packagesChanged (s : Service) (around : Surroundings)
    (news : PackageNews) :
    s.Stores (s.packagesChanged around news).service
      (s.packagesChanged around news).events := by
  cases hserving : s.host.isServing news.user with
  | false =>
      rw [packagesChanged_of_unserved hserving]
      exact .nothing rfl rfl
  | true =>
      obtain ⟨events, hturn, hacts⟩ := packagesChanged_of_served around hserving
      have hseen : Event.stores events = Event.stores (Event.acts events) :=
        (Event.stores_acts events).symm
      rw [hacts] at hseen
      rw [hturn]
      cases hmoved : s.moved? around news with
      | none =>
          rw [hmoved] at hseen
          exact .nothing rfl hseen
      | some p =>
          rw [hmoved] at hseen
          exact .of_adopt hserving (known_of_moved hmoved) rfl hseen

/-- A caller who is turned away stores nothing. -/
theorem stores_forCaller {turn : Turn} (c : Caller)
    (h : s.host.isServing c.user = true →
      s.Stores turn.service turn.events) :
    s.Stores (s.forCaller around c turn).service
      (s.forCaller around c turn).events := by
  unfold forCaller
  split
  · exact .nothing rfl rfl
  · next hallowed => exact h (isServing_of_not_turnedAway hallowed)

theorem stores_beginSession (s : Service) (id : ProviderId) (r : Request) :
    s.Stores (s.beginSession id r).service (s.beginSession id r).events := by
  unfold beginSession resumeSession
  split
  · exact .nothing rfl rfl
  · split
    · exact .nothing rfl rfl
    · split
      · exact .nothing rfl rfl
      · split
        · exact .nothing rfl rfl
        · exact ((s.unwritten_draft.note _).transition _).stores.owing _

theorem stores_selectProvider (id : ProviderId)
    (hserving : s.host.isServing u = true) :
    s.Stores (s.selectProvider u id).service
      (s.selectProvider u id).events := by
  unfold selectProvider
  split
  · exact .nothing rfl rfl
  · next p hp =>
      refine (s.unwritten_draft.adopt hserving ?_).reply .done
      show s.host.registry.get? p.id = some p
      rwa [(Registry.mem_of_get? hp).2]

/-- To select a subtype moves the selection to no other provider. -/
theorem providerFor?_selectSubtype (s : Service) (u v : UserId)
    (hash : SubtypeHash) :
    (s.selectSubtype u hash).service.providerFor? v = s.providerFor? v := by
  have hid : (s.selectSubtype u hash).service.settings.providerOf v
      = s.settings.providerOf v := Settings.providerOf_putHash _ _ _ _
  unfold providerFor?
  rw [hid]
  rfl

theorem stores_selectSubtype (hash : SubtypeHash)
    (hserving : s.host.isServing u = true) :
    s.Stores (s.selectSubtype u hash).service
      (s.selectSubtype u hash).events := by
  refine .subtype _ u hserving ?_ rfl (s.settings.shows_putHash _ u) rfl
  cases hchosen : (s.providerFor? u).bind (·.subtype? hash) with
  | none => exact .inl rfl
  | some t =>
      right
      obtain ⟨p, hp, ht⟩ := Option.bind_eq_some_iff.mp hchosen
      exact ⟨p, t, (s.providerFor?_selectSubtype u u hash).trans hp,
        List.mem_of_find?_eq_some ht, rfl⟩

/-- What a turn stores. -/
theorem stores_enter (s : Service) (around : Surroundings) (e : Entry) :
    s.Stores (s.enter around e).service (s.enter around e).events := by
  have hdraft := s.unwritten_draft
  cases e with
  | operation op =>
      cases op with
      | changeUser u unlocked =>
          have hswitched := ((hdraft.standDown).mapHost
            fun h => { h with user := some u }).note
            (.switchingUser u unlocked)
          cases unlocked with
          | false => exact hswitched.stores.owing .logged
          | true => exact (hswitched.beginServing rfl).owing .logged
      | userUnlocked u =>
          show s.Stores (s.userUnlocked around u).service
            (s.userUnlocked around u).events
          unfold userUnlocked
          split
          · next hwaits =>
              rw [Bool.and_eq_true, decide_eq_true_eq] at hwaits
              exact (hdraft.beginServing hwaits.1).owing .logged
          · exact hdraft.stores.owing .logged
      | stopServing => exact (hdraft.standDown.note _).stores.owing .logged
      | packagesChanged news => exact s.stores_packagesChanged around news
      | listenerLost l =>
          exact ((hdraft.note _).transition _).stores.owing .logged
      | beginSession id r =>
          exact stores_forCaller r.caller fun _ => s.stores_beginSession id r
      | endSession c l =>
          exact stores_forCaller c fun _ =>
            (hdraft.transition _).stores.owing .logged
      | selectProvider c id =>
          exact stores_forCaller c (stores_selectProvider id)
      | selectSubtype c hash =>
          exact stores_forCaller c (stores_selectSubtype hash)
      | _ => exact stores_forCaller _ fun _ => .nothing rfl rfl
  | callback report => exact (hdraft.transition _).stores.owing .logged
  | direct entry =>
      cases entry with
      | request p r =>
          show s.Stores (s.direct (.request p r)).service
            (s.direct (.request p r)).events
          unfold direct
          dsimp only
          split
          · exact .nothing rfl rfl
          · exact (hdraft.transition _).stores.owing .reported
      | _ => exact (hdraft.transition _).stores.owing .logged

end Service

-- ============================================================ every move

namespace Machine

variable {m : Machine} {p : Progress}

/-- A round that goes on stores nothing. -/
theorem stores_proceed (m : Machine) (r : Round) (events : List Event) :
    Event.stores (m.proceed r events).events = Event.stores events := by
  unfold proceed
  cases r.next? with
  | none => simp
  | some f => simp [Event.stores, Event.isStore]

theorem stores_enter {around : Surroundings} {e : Entry}
    (h : m.enter around e = .taken p) :
    m.service.Stores p.machine.service p.events := by
  obtain ⟨hservice, -⟩ := enter_follows h
  rw [hservice]
  refine (m.service.stores_enter around e).congr ?_
  unfold enter at h
  dsimp only at h
  split at h
  · cases h
    rfl
  · cases h
    exact stores_proceed _ _ _
  · cases h

/-- The return of a call stores nothing. -/
theorem stores_answer {a : Answer} (h : m.answer a = some p) :
    m.service.Stores p.machine.service p.events := by
  unfold answer at h
  split at h
  · cases h
  · next f outer hstack =>
      cases h
      refine .nothing ?_ ((stores_proceed _ _ _).trans (Event.stores_noticed _))
      exact (congrArg Service.settings (proceed_follows _ _).1).trans rfl

end Machine

/-- Whether somebody else writes the settings in the move. -/
def Move.isForeign : Move → Bool
  | .store _ => true
  | _ => false

namespace Journal

variable {j j' k : Journal} {mv : Move}

/-- What is seen of a move. -/
def seen (j : Journal) : Move → List Event
  | .enter around e =>
    match j.machine.enter around e with
    | .taken p => p.events
    | .parked => []
  | .answer a => ((j.machine.answer a).map Progress.events).getD []
  | _ => []

/-- What a move of the service stores. -/
theorem stores_move (hown : mv.isForeign = false)
    (hmove : j.move? mv = some j') :
    j.machine.service.Stores j'.machine.service (j.seen mv) := by
  cases mv with
  | enter around e =>
      obtain ⟨p, -, htaken, rfl⟩ := advance_of_enter hmove
      dsimp only [seen]
      rw [htaken]
      exact Machine.stores_enter htaken
  | answer a =>
      obtain ⟨f, outer, p, -, hanswer, rfl⟩ := advance_of_answer hmove
      dsimp only [seen]
      rw [hanswer]
      exact Machine.stores_answer hanswer
  | store settings => cases hown
  | reorder groups =>
      obtain ⟨-, rfl⟩ := withService_of_reorder hmove
      exact .nothing rfl rfl

-- ============================================================= over a run

/-- A run from one journal to another, all of whose moves are of a kind. -/
inductive LeadsBy (kind : Journal → Move → Journal → Prop) (j : Journal) :
    Journal → Prop
  | here : LeadsBy kind j j
  | move {k k' : Journal} (mv : Move) (hk : LeadsBy kind j k)
      (hkind : kind k mv k') (hmove : k.move? mv = some k') :
      LeadsBy kind j k'

/-- A move in which nothing is stored, by the service or by anybody else. -/
def Unwritten (j : Journal) (mv : Move) (_ : Journal) : Prop :=
  mv.isForeign = false ∧ Event.stores (j.seen mv) = []

/-- A move of the service after which it is not a given user's turn. -/
def Passes (u : UserId) (_ : Journal) (mv : Move) (j' : Journal) : Prop :=
  mv.isForeign = false ∧ j'.host.user ≠ some u

/-- A run in which nothing is stored leaves the settings as they are. -/
theorem settings_of_unwritten (hrun : j.LeadsBy Unwritten k) :
    k.machine.service.settings = j.machine.service.settings := by
  induction hrun with
  | here => rfl
  | move mv hk hkind hmove ih =>
      obtain ⟨hown, hnothing⟩ := hkind
      cases stores_move hown hmove with
      | nothing hsettings hseen => exact hsettings.trans ih
      | provider p u hserving hknown hsettings hshows hseen =>
          rw [hnothing] at hseen
          cases hseen
      | subtype hash u hserving hdeclared hsettings hshows hseen =>
          rw [hnothing] at hseen
          cases hseen

/-- A run that passes a user by leaves alone what is stored for the user. -/
theorem agree_of_passes {u : UserId} (hrun : j.LeadsBy (Passes u) k) :
    j.machine.service.settings.Agree k.machine.service.settings u := by
  induction hrun with
  | here => exact .refl _ _
  | move mv hk hkind hmove ih =>
      obtain ⟨hown, hother⟩ := hkind
      exact ih.trans ((stores_move hown hmove).agree hother)

/-- At every moment of a run, what a move of the service stores is for the
user being served: a provider that is then known, followed by an automatic
subtype, or a subtype that is automatic or declared by the selected provider;
and it reads back for that user. What is stored for another user stays, and
stays over every run that passes the user by. -/
theorem stores_for_served (j : Journal) :
    (∀ mv j', mv.isForeign = false → j.move? mv = some j' →
        j.machine.service.Stores j'.machine.service (j.seen mv)
          ∧ ∀ v, j'.host.user ≠ some v →
              j.machine.service.settings.Agree j'.machine.service.settings v)
      ∧ ∀ v k, j.LeadsBy (Passes v) k →
          j.machine.service.settings.Agree k.machine.service.settings v := by
  refine ⟨?_, fun v k hrun => agree_of_passes hrun⟩
  intro mv j' hown hmove
  have hstores := stores_move hown hmove
  exact ⟨hstores, fun v hother => hstores.agree hother⟩

end Journal

namespace Sample

/-- The package of the selected provider goes, and discovery lists a
provider of another one. -/
def replacing : Move :=
  .enter (around [listed "q" "other"]) (.operation (.packagesChanged removed))

end Sample

/-- A selection that moves while a provider is being connected is stored for
the user being served, and another user's selection stays. -/
theorem Journal.neighbour_keeps_selection :
    ∃ j j' p,
      (Journal.begin ⟨[]⟩ ((Settings.empty true).putProvider "x" ⟨1⟩)).after?
          Sample.opening = some j
      ∧ j.machine.stack ≠ []
      ∧ j.move? Sample.replacing = some j'
      ∧ Event.stores (j.seen Sample.replacing)
        = [.storedProvider p.id ⟨0⟩, .storedHash .automatic ⟨0⟩]
      ∧ j'.host.isServing ⟨0⟩ = true
      ∧ j'.host.registry.get? p.id = some p
      ∧ j'.machine.service.settings.providerOf ⟨1⟩ = "x" := by
  obtain ⟨j, hj, hend⟩ := (Option.any_eq_true
    (fun j : Journal =>
      !j.machine.stack.isEmpty
        && decide (Event.stores (j.seen Sample.replacing)
          = [.storedProvider "q" ⟨0⟩, .storedHash .automatic ⟨0⟩])
        && decide (j.machine.service.settings.providerOf ⟨1⟩ = "x")
        && (j.move? Sample.replacing).any fun j' : Journal =>
          decide (j'.host.user = some ⟨0⟩)) _).mp
    (show ((Journal.begin ⟨[]⟩
      ((Settings.empty true).putProvider "x" ⟨1⟩)).after?
        Sample.opening).any _ = true from rfl)
  simp only [Bool.and_eq_true, decide_eq_true_eq, Bool.not_eq_true',
    List.isEmpty_eq_false_iff, Option.any_eq_true] at hend
  obtain ⟨⟨⟨hbusy, hseen⟩, hneighbour⟩, j', hmove, huser⟩ := hend
  obtain ⟨hstores, hothers⟩ := (stores_for_served j).1 _ j' rfl hmove
  have hother : j'.host.user ≠ some ⟨1⟩ := by
    rw [huser]
    decide
  have hkept := (hothers ⟨1⟩ hother).provider.trans hneighbour
  cases hstores with
  | nothing hsettings hnone =>
      rw [hseen] at hnone
      cases hnone
  | provider p u hserving hknown hsettings hshows hseen' =>
      have hserved := (Host.isServing_iff.mp hserving).2
      cases Option.some.inj (hserved.symm.trans huser)
      exact ⟨j, j', p, hj, hbusy, hmove, hseen', hserving, hknown, hkept⟩
  | subtype hash u hserving hdeclared hsettings hshows hseen' =>
      rw [hseen] at hseen'
      cases hseen'

end SpellSessions
