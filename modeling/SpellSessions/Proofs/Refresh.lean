/-
Refreshes: what becomes of a selection when packages change.

A change for another user than the one being served goes to the log. A
change for the user being served builds the registry anew from one question
to discovery, and nobody is called. The selection is touched only if the
provider that it named before the change belongs to a package that the
change lists. It then names what the rule for the default provider chooses
from the new registry with the package as its preference
(`selected_after`), and what is stored is replaced, with an automatic
subtype, exactly when that provider goes by another id.

# The preference is a name

The rule takes its preference for the id of a provider first, and for a
package only if no provider goes by it. So the selection stays in its
package unless a provider of another package goes by the name of the
package, or the package has no name and counts as no preference
(`package_kept_iff`). Within a package the rule does not ask which of its
providers was selected: one of them stands for the package, the one that
goes by its name or else the first, and the selection moves to that one
(`choice_kept_iff`).
-/
import SpellSessions.Proofs.Journal
import SpellSessions.Proofs.Selection

namespace SpellSessions

-- ========================================================== what is seen

namespace Event

@[simp] theorem acts_append (es fs : List Event) :
    acts (es ++ fs) = acts es ++ acts fs :=
  List.filter_append es fs

@[simp] theorem acts_noticed (ns : List Notice) :
    acts (ns.map .noticed) = [] := by
  simp [acts, isNotice]

end Event

/-- The settings once a provider is selected for a user, with an automatic
subtype. -/
def Settings.adopt (settings : Settings) (p : Provider) (u : UserId) :
    Settings :=
  (settings.putProvider p.id u).putHash .automatic u

theorem Settings.hashOf_adopt (settings : Settings) (default : SubtypeHash)
    (p : Provider) (u : UserId) :
    (settings.adopt p u).hashOf default u = .automatic :=
  hashOf_putHash _ default .automatic u

theorem Settings.providerOf_adopt (settings : Settings) (p : Provider)
    (u : UserId) : (settings.adopt p u).providerOf u = p.id := by
  unfold adopt
  rw [providerOf_putHash, providerOf_putProvider]

namespace Service

variable {s : Service} {around : Surroundings} {news : PackageNews}
  {u : UserId} {p q current : Provider}

theorem acts_noteAll (d : Draft) (ns : List Notice) :
    Event.acts (d.noteAll ns).events = Event.acts d.events := by
  simp [Draft.noteAll]

theorem acts_rediscover (d : Draft) :
    Event.acts (rediscover d around u).events
      = Event.acts d.events ++ [.discovered u] := by
  show Event.acts ((d.see (.discovered u)).noteAll _).events = _
  rw [acts_noteAll]
  simp [Draft.see, Event.acts, Event.isNotice]

theorem acts_adopt (d : Draft) :
    Event.acts (adopt d p u).events
      = Event.acts d.events
        ++ [.storedProvider p.id u, .storedHash .automatic u] := by
  simp [adopt, Draft.storeHash, Draft.storeProvider, Draft.note, Draft.see,
    Event.acts, Event.isNotice]

-- ============================================================= the turn

/-- The provider that the rule chooses for the package of a provider, from
the registry that discovery gives for a user. -/
def successor? (s : Service) (around : Surroundings) (u : UserId)
    (current : Provider) : Option Provider :=
  (s.rule.choose (around.registryFor u) (some current.package)
    around.system).value

/-- The provider that the selection of a user moves to when packages change,
if it moves. -/
def moved? (s : Service) (around : Surroundings) (news : PackageNews) :
    Option Provider :=
  (s.providerFor? news.user).bind fun current =>
    if news.concerns current.package then
      (s.successor? around news.user current).filter (·.id ≠ current.id)
    else none

theorem moved?_of_concerned (hcurrent : s.providerFor? news.user = some current)
    (hconcerns : news.concerns current.package = true) :
    s.moved? around news
      = (s.successor? around news.user current).filter (·.id ≠ current.id) := by
  unfold moved?
  rw [hcurrent, Option.bind_some, if_pos hconcerns]

/-- The selection moves only if it names a provider whose package changed,
and to a provider that goes by another id. -/
theorem of_moved (h : s.moved? around news = some p) :
    ∃ current, s.providerFor? news.user = some current
      ∧ news.concerns current.package = true ∧ p.id ≠ current.id := by
  unfold moved? at h
  obtain ⟨current, hcurrent, hnext⟩ := Option.bind_eq_some_iff.mp h
  split at hnext
  · next hconcerns =>
      have hother := (Option.filter_eq_some_iff.mp hnext).2
      exact ⟨current, hcurrent, hconcerns, of_decide_eq_true hother⟩
  · cases hnext

theorem packagesChanged_of_unserved
    (h : s.host.isServing news.user = false) :
    s.packagesChanged around news
      = ⟨s, [.noticed (.backgroundChange news.user)], .replied .done⟩ := by
  unfold packagesChanged
  rw [h]
  rfl

/-- A change for the user being served builds the registry anew, asks
discovery once, and stores the provider that the selection moves to. -/
theorem packagesChanged_of_served (around : Surroundings)
    (h : s.host.isServing news.user = true) :
    ∃ events, s.packagesChanged around news
        = ⟨{ s with
              host := { s.host with registry := around.registryFor news.user }
              settings :=
                match s.moved? around news with
                | none => s.settings
                | some p => s.settings.adopt p news.user },
            events, .replied .done⟩
      ∧ Event.acts events
        = .discovered news.user ::
            match s.moved? around news with
            | none => []
            | some p =>
              [.storedProvider p.id news.user,
                .storedHash .automatic news.user] := by
  have hbuilt : Event.acts (rediscover s.draft around news.user).events
      = [.discovered news.user] :=
    acts_rediscover s.draft
  unfold packagesChanged
  rw [h, Bool.not_true, if_neg Bool.false_ne_true]
  cases hcurrent : s.providerFor? news.user with
  | none =>
      unfold moved?
      rw [hcurrent]
      exact ⟨_, rfl, hbuilt⟩
  | some current =>
      by_cases hconcerns : news.concerns current.package = true
      · have hnext : (replacement (rediscover s.draft around news.user) around
            current).value = s.moved? around news := by
          rw [moved?_of_concerned hcurrent hconcerns]
          rfl
        dsimp only
        rw [hconcerns, Bool.not_true, if_neg Bool.false_ne_true, hnext]
        cases s.moved? around news with
        | none => exact ⟨_, rfl, (acts_noteAll _ _).trans hbuilt⟩
        | some p =>
            refine ⟨_, rfl, ?_⟩
            show Event.acts (adopt _ p news.user).events = _
            rw [acts_adopt, acts_noteAll, hbuilt]
            rfl
      · unfold moved?
        rw [hcurrent, Option.bind_some, if_neg hconcerns]
        dsimp only
        rw [Bool.eq_false_iff.mpr hconcerns]
        exact ⟨_, rfl, hbuilt⟩

-- ======================================================== the selection

/-- The stored id is the one that the selected provider goes by. -/
theorem providerOf_eq (h : s.providerFor? u = some p) :
    s.settings.providerOf u = p.id := by
  unfold providerFor? at h
  dsimp only at h
  split at h
  · cases h
  · exact (Registry.mem_of_get? h).2.symm

theorem providerFor?_of_sound (hr : s.host.registry.Sound) :
    s.providerFor? u = s.host.registry.get? (s.settings.providerOf u) := by
  unfold providerFor?
  dsimp only
  split
  · next hempty => rw [String.isEmpty_iff.mp hempty, hr.get?_empty]
  · rfl

section Concerned

variable (hserving : s.host.isServing news.user = true)
  (hcurrent : s.providerFor? news.user = some current)
  (hconcerns : news.concerns current.package = true)

include hserving hcurrent hconcerns

/-- A chosen provider of another id is stored, with an automatic subtype; one
of the same id leaves what is stored alone. -/
theorem settings_after
    (hnext : s.successor? around news.user current = some q) :
    (s.packagesChanged around news).service.settings
      = if q.id = current.id then s.settings
        else s.settings.adopt q news.user := by
  obtain ⟨events, hturn, -⟩ := packagesChanged_of_served around hserving
  rw [hturn, moved?_of_concerned hcurrent hconcerns, hnext]
  by_cases hsame : q.id = current.id <;> simp [Option.filter_some, hsame]

/-- The selection names the provider that the rule chooses from the new
registry, and none if that is empty. -/
theorem selected_after (around : Surroundings) :
    (s.packagesChanged around news).service.providerFor? news.user
      = s.successor? around news.user current := by
  have hsound : (around.registryFor news.user).Sound :=
    Registry.sound_ofDescriptors _
  have hregistry : (s.packagesChanged around news).service.host.registry
      = around.registryFor news.user := by
    obtain ⟨events, hturn, -⟩ := packagesChanged_of_served around hserving
    rw [hturn]
  rw [providerFor?_of_sound (by rwa [hregistry]), hregistry]
  cases hnext : s.successor? around news.user current with
  | none =>
      have hempty := DefaultRule.choose_eq_none_iff.mp hnext
      rw [Registry.get?_eq_find?, List.isEmpty_iff.mp hempty]
      rfl
  | some q =>
      -- a choice that goes by the old id needs no storing to be selected
      have hid : (s.packagesChanged around news).service.settings.providerOf
          news.user = q.id := by
        rw [settings_after hserving hcurrent hconcerns hnext]
        by_cases hsame : q.id = current.id
        · rw [if_pos hsame, providerOf_eq hcurrent, hsame]
        · rw [if_neg hsame, Settings.providerOf_adopt]
      rw [hid, hsound.get?_eq_some_iff]
      exact ⟨DefaultRule.mem_of_choose hnext, rfl⟩

end Concerned

/-- What a change of packages for the user being served leads to. -/
structure Refreshed (s : Service) (around : Surroundings)
    (news : PackageNews) (s' : Service) (events : List Event) : Prop where
  rule : s'.rule = s.rule
  /-- Only the registry of the host is another. -/
  host : s'.host = { s.host with registry := around.registryFor news.user }
  /-- Discovery is asked once and nobody is called; the selection is stored,
  with an automatic subtype, exactly if the stored id becomes another. -/
  seen :
    Event.acts events
      = .discovered news.user ::
          if s'.settings.providerOf news.user
              = s.settings.providerOf news.user then []
          else
            [.storedProvider (s'.settings.providerOf news.user) news.user,
              .storedHash .automatic news.user]
  settings :
    s'.settings
      = if s'.settings.providerOf news.user
            = s.settings.providerOf news.user then s.settings
        else
          (s.settings.putProvider (s'.settings.providerOf news.user)
            news.user).putHash .automatic news.user
  /-- The stored id becomes another only if the package of the provider that
  it named changed. -/
  cause :
    s'.settings.providerOf news.user ≠ s.settings.providerOf news.user →
      ∃ current, s.providerFor? news.user = some current
        ∧ news.concerns current.package = true
  /-- If the package of the selected provider changed and there are
  providers, one of them is selected. -/
  selected :
    ∀ current, s.providerFor? news.user = some current →
      news.concerns current.package = true →
      (around.registryFor news.user).isEmpty = false →
      ∃ q, s'.providerFor? news.user = some q

theorem refreshed_of_served (hserving : s.host.isServing news.user = true) :
    s.Refreshed around news (s.packagesChanged around news).service
      (s.packagesChanged around news).events := by
  have hselected : ∀ current, s.providerFor? news.user = some current →
      news.concerns current.package = true →
      (around.registryFor news.user).isEmpty = false →
      ∃ q, (s.packagesChanged around news).service.providerFor? news.user
        = some q := by
    intro current hcurrent hconcerns hsome
    rw [selected_after hserving hcurrent hconcerns,
      ← Option.ne_none_iff_exists']
    intro hnone
    rw [DefaultRule.choose_eq_none_iff.mp hnone] at hsome
    cases hsome
  obtain ⟨events, hturn, hacts⟩ := packagesChanged_of_served around hserving
  rw [hturn] at hselected ⊢
  cases hmoved : s.moved? around news with
  | none =>
      rw [hmoved] at hacts hselected
      exact {
        rule := rfl
        host := rfl
        seen := by rw [if_pos rfl]; exact hacts
        settings := by rw [if_pos rfl]
        cause := fun hother => absurd rfl hother
        selected := hselected }
  | some p =>
      obtain ⟨current, hcurrent, hconcerns, hother⟩ := of_moved hmoved
      rw [hmoved] at hacts hselected
      have hid : (s.settings.adopt p news.user).providerOf news.user = p.id :=
        s.settings.providerOf_adopt p news.user
      rw [← providerOf_eq hcurrent] at hother
      exact {
        rule := rfl
        host := rfl
        seen := by
          dsimp only
          rw [hid, if_neg hother]
          exact hacts
        settings := by
          dsimp only
          rw [hid, if_neg hother]
          rfl
        cause := fun _ => ⟨current, hcurrent, hconcerns⟩
        selected := hselected }

end Service

-- ==================================================== what a refresh does

/-- A change of packages is answered at once, from inside whatever calls are
in progress. One for another user than the one being served changes nothing
and asks discovery nothing; one for the user being served refreshes. -/
theorem Machine.packages_refreshed (m : Machine) (around : Surroundings)
    (news : PackageNews) :
    ∃ p, m.enter around (.operation (.packagesChanged news)) = .taken p
      ∧ p.reply = some .done ∧ p.machine.stack = m.stack
      ∧ (m.service.host.isServing news.user = false →
          p.machine = m ∧ Event.acts p.events = [])
      ∧ (m.service.host.isServing news.user = true →
          m.service.Refreshed around news p.machine.service p.events) := by
  refine ⟨_, m.enter_packagesChanged around news, rfl, rfl, ?_, ?_⟩
  · intro hunserved
    rw [Service.packagesChanged_of_unserved hunserved]
    exact ⟨rfl, rfl⟩
  · exact Service.refreshed_of_served

namespace Sample

/-- A provider of some package as discovery lists it. -/
def listed (id package : String) : Descriptor :=
  ⟨id, package, some requiredPermission, false, [⟨"en", ""⟩]⟩

/-- The package of the first provider changed in place. -/
def updated : PackageNews :=
  ⟨⟨0⟩, [], ["pkg"]⟩

/-- The package of the first provider is gone. -/
def removed : PackageNews :=
  ⟨⟨0⟩, ["pkg"], []⟩

end Sample

/-- When the package of the selected provider goes while the provider is
being connected, a provider of another package is selected. -/
theorem Journal.refreshed_inside_connect :
    ∃ j p, Sample.start.after? Sample.opening = some j
      ∧ j.machine.enter (Sample.around [Sample.listed "q" "other"])
          (.operation (.packagesChanged Sample.removed)) = .taken p
      ∧ p.machine.stack = j.machine.stack ∧ j.machine.stack ≠ []
      ∧ Event.acts p.events
        = [.discovered ⟨0⟩, .storedProvider "q" ⟨0⟩,
            .storedHash .automatic ⟨0⟩]
      ∧ ∃ q, p.machine.service.providerFor? ⟨0⟩ = some q := by
  obtain ⟨j, hj, hend⟩ := (Option.any_eq_true
    (fun j : Journal =>
      !j.machine.stack.isEmpty
        && j.machine.service.host.isServing Sample.removed.user
        && decide (j.machine.service.providerFor? Sample.removed.user
          = some Sample.provider)
        && decide ((j.machine.service.packagesChanged
              (Sample.around [Sample.listed "q" "other"])
              Sample.removed).service.settings.providerOf Sample.removed.user
            = "q")) _).mp
    (show (Sample.start.after? Sample.opening).any _ = true from rfl)
  simp only [Bool.and_eq_true, decide_eq_true_eq, Bool.not_eq_true',
    List.isEmpty_eq_false_iff] at hend
  obtain ⟨⟨⟨hbusy, hserving⟩, hcurrent⟩, hid⟩ := hend
  obtain ⟨p, hp, -, hstack, -, hrefreshed⟩ := j.machine.packages_refreshed
    (Sample.around [Sample.listed "q" "other"]) Sample.removed
  have hr := hrefreshed hserving
  cases hp.symm.trans (j.machine.enter_packagesChanged _ _)
  have hseen := hr.seen
  rw [hid, Service.providerOf_eq hcurrent, if_neg (by decide)] at hseen
  exact ⟨j, _, hj, hp, hstack, hbusy, hseen,
    hr.selected _ hcurrent (by decide) (by decide)⟩

-- ============================================== the package of a selection

/-- When the package of the selected provider changed and still has a
provider, the selection stays in the package if and only if no provider of
another package goes by the name of the package, and the locale chooses one
of the package if it has no name. -/
theorem Machine.package_kept_iff {m : Machine} (around : Surroundings)
    (news : PackageNews) {current : Provider}
    (hserving : m.service.host.isServing news.user = true)
    (hcurrent : m.service.providerFor? news.user = some current)
    (hconcerns : news.concerns current.package = true)
    (hlisted : ∃ q ∈ (around.registryFor news.user).providers,
      q.package = current.package) :
    ∃ p, m.enter around (.operation (.packagesChanged news)) = .taken p
      ∧ ((∃ q, p.machine.service.providerFor? news.user = some q
            ∧ q.package = current.package)
        ↔ (∀ q, (around.registryFor news.user).get? current.package = some q →
              q.package = current.package)
          ∧ (current.package = "" → ∀ q,
              (m.service.rule.choose (around.registryFor news.user) none
                around.system).value = some q →
                q.package = current.package)) := by
  refine ⟨_, m.enter_packagesChanged around news, ?_⟩
  have hafter := Service.selected_after hserving hcurrent hconcerns around
  rw [hafter]
  exact DefaultRule.choose_of_package_iff (Registry.sound_ofDescriptors _)
    hlisted

namespace Sample

/-- A user is served, and the one provider is selected. -/
def serving : List Move :=
  [operate (.changeUser ⟨0⟩ true)]

theorem serving_selects :
    ∃ j, start.after? serving = some j
      ∧ j.machine.service.host.isServing ⟨0⟩ = true
      ∧ j.machine.service.providerFor? ⟨0⟩ = some provider := by
  obtain ⟨j, hj, hend⟩ := (Option.any_eq_true
    (fun j : Journal =>
      j.machine.service.host.isServing ⟨0⟩
        && decide (j.machine.service.providerFor? ⟨0⟩ = some provider)) _).mp
    (show (start.after? serving).any _ = true from rfl)
  rw [Bool.and_eq_true, decide_eq_true_eq] at hend
  exact ⟨j, hj, hend⟩

end Sample

/-- A provider that goes by a new id after an update stays selected. -/
theorem Journal.renamed_provider_selected :
    ∃ j p q, Sample.start.after? Sample.serving = some j
      ∧ j.machine.service.providerFor? ⟨0⟩ = some Sample.provider
      ∧ j.machine.enter
          (Sample.around [Sample.listed "q" "other", Sample.listed "r" "pkg"])
          (.operation (.packagesChanged Sample.updated)) = .taken p
      ∧ p.machine.service.providerFor? ⟨0⟩ = some q
      ∧ q.package = Sample.provider.package := by
  obtain ⟨j, hj, hserving, hcurrent⟩ := Sample.serving_selects
  obtain ⟨p, hp, hkept⟩ := Machine.package_kept_iff
    (Sample.around [Sample.listed "q" "other", Sample.listed "r" "pkg"])
    Sample.updated hserving hcurrent (by decide) (by decide)
  have hname : Sample.provider.package ≠ "" := by decide
  obtain ⟨q, hq, hpackage⟩ := hkept.mpr
    ⟨by decide, fun hempty => absurd hempty hname⟩
  exact ⟨j, p, q, hj, hcurrent, hp, hq, hpackage⟩

/-- A provider of another package that goes by the name of the package takes
the selection, although the package still has a provider. -/
theorem Journal.namesake_takes_selection :
    ∃ j p q, Sample.start.after? Sample.serving = some j
      ∧ j.machine.service.host.isServing ⟨0⟩ = true
      ∧ j.machine.service.providerFor? ⟨0⟩ = some Sample.provider
      ∧ Sample.updated.concerns Sample.provider.package = true
      ∧ (∃ r ∈ ((Sample.around
            [Sample.listed "pkg" "other", Sample.listed "r" "pkg"]).registryFor
            ⟨0⟩).providers, r.package = Sample.provider.package)
      ∧ j.machine.enter
          (Sample.around
            [Sample.listed "pkg" "other", Sample.listed "r" "pkg"])
          (.operation (.packagesChanged Sample.updated)) = .taken p
      ∧ p.machine.service.providerFor? ⟨0⟩ = some q
      ∧ q.package ≠ Sample.provider.package := by
  obtain ⟨j, hj, hend⟩ := (Option.any_eq_true
    (fun j : Journal =>
      j.machine.service.host.isServing ⟨0⟩
        && decide (j.machine.service.providerFor? ⟨0⟩ = some Sample.provider)
        && ((j.machine.service.packagesChanged
            (Sample.around
              [Sample.listed "pkg" "other", Sample.listed "r" "pkg"])
            Sample.updated).service.providerFor? ⟨0⟩).any
            (decide <| ·.package ≠ Sample.provider.package)) _).mp
    (show (Sample.start.after? Sample.serving).any _ = true from rfl)
  simp only [Bool.and_eq_true, decide_eq_true_eq, Option.any_eq_true] at hend
  obtain ⟨⟨hserving, hcurrent⟩, q, hq, hpackage⟩ := hend
  exact ⟨j, _, q, hj, hserving, hcurrent, by decide, by decide,
    j.machine.enter_packagesChanged _ _, hq, hpackage⟩

-- ============================================ the choice within a package

/-- When the package of the selected provider changed and still has a
provider, the selection moves to the one that stands for the package: the one
that goes by the name of the package, or else the first. The stored selection
is left alone if and only if that is the provider that was selected. -/
theorem Machine.choice_kept_iff {m : Machine} (around : Surroundings)
    (news : PackageNews) {current : Provider}
    (hserving : m.service.host.isServing news.user = true)
    (hcurrent : m.service.providerFor? news.user = some current)
    (hconcerns : news.concerns current.package = true)
    (hlisted : ∃ q ∈ (around.registryFor news.user).providers,
      q.package = current.package)
    (hname : current.package ≠ "")
    (hnamesake : ∀ q,
      (around.registryFor news.user).get? current.package = some q →
        q.package = current.package) :
    ∃ p q, m.enter around (.operation (.packagesChanged news)) = .taken p
      ∧ ((around.registryFor news.user).get? current.package).or
          ((around.registryFor news.user).providers.find?
            (·.package = current.package)) = some q
      ∧ q.package = current.package
      ∧ (p.machine.service.settings = m.service.settings
          ↔ q.id = current.id)
      ∧ (q.id ≠ current.id →
          p.machine.service.settings.providerOf news.user = q.id
            ∧ ∀ default, p.machine.service.settings.hashOf default news.user
                = .automatic) := by
  obtain ⟨q, hq⟩ := DefaultRule.exists_preferred hname hlisted
  have hpackage := DefaultRule.package_of_preferred hname hnamesake hq
  have hsettings := Service.settings_after hserving hcurrent hconcerns
    (DefaultRule.choose_of_preferred hq)
  refine ⟨_, q, m.enter_packagesChanged around news, ?_, hpackage, ?_, ?_⟩
  · rwa [DefaultRule.preferred?_some hname] at hq
  · rw [hsettings]
    constructor
    · intro hsame
      by_contra hother
      rw [if_neg hother] at hsame
      have hid := m.service.settings.providerOf_adopt q news.user
      rw [hsame, Service.providerOf_eq hcurrent] at hid
      exact hother hid.symm
    · intro hsame
      rw [if_pos hsame]
  · intro hother
    rw [hsettings, if_neg hother]
    exact ⟨m.service.settings.providerOf_adopt q news.user,
      fun default => m.service.settings.hashOf_adopt default q news.user⟩

namespace Sample

/-- The second provider of a package is selected. -/
def choosing : List Move :=
  [.enter (around [descriptor, listed "q" "pkg"])
      (.operation (.changeUser ⟨0⟩ true)),
    .enter (around []) (.operation (.selectProvider ⟨0, ⟨0⟩⟩ "q"))]

end Sample

/-- The first provider of a package stays selected when the package changes
in place. -/
theorem Journal.first_provider_kept :
    ∃ j p, Sample.start.after? Sample.serving = some j
      ∧ j.machine.enter
          (Sample.around [Sample.descriptor, Sample.listed "q" "pkg"])
          (.operation (.packagesChanged Sample.updated)) = .taken p
      ∧ p.machine.service.settings = j.machine.service.settings := by
  obtain ⟨j, hj, hserving, hcurrent⟩ := Sample.serving_selects
  obtain ⟨p, q, hp, hq, -, hkept, -⟩ := Machine.choice_kept_iff
    (Sample.around [Sample.descriptor, Sample.listed "q" "pkg"])
    Sample.updated hserving hcurrent (by decide) (by decide) (by decide)
    (by decide)
  have hfirst : q = Sample.provider := by
    rw [← Option.some_inj, ← hq]
    decide
  exact ⟨j, p, hj, hp, hkept.mpr (congrArg Provider.id hfirst)⟩

/-- The second provider of a package is replaced by the first when the
package changes in place, although it is still there. -/
theorem Journal.second_provider_replaced :
    ∃ j p current, Sample.start.after? Sample.choosing = some j
      ∧ j.machine.service.host.isServing ⟨0⟩ = true
      ∧ j.machine.service.providerFor? ⟨0⟩ = some current
      ∧ Sample.updated.replaced.contains current.package = true
      ∧ Sample.updated.gone.contains current.package = false
      ∧ ((Sample.around
            [Sample.descriptor, Sample.listed "q" "pkg"]).registryFor
          ⟨0⟩).get? current.id = some current
      ∧ j.machine.enter
          (Sample.around [Sample.descriptor, Sample.listed "q" "pkg"])
          (.operation (.packagesChanged Sample.updated)) = .taken p
      ∧ p.machine.service.settings.providerOf ⟨0⟩ ≠ current.id := by
  obtain ⟨j, hj, hend⟩ := (Option.any_eq_true
    (fun j : Journal =>
      j.machine.service.host.isServing ⟨0⟩
        && (j.machine.service.providerFor? ⟨0⟩).any fun current =>
          decide (Sample.updated.replaced.contains current.package = true
            ∧ Sample.updated.gone.contains current.package = false
            ∧ ((Sample.around
                [Sample.descriptor, Sample.listed "q" "pkg"]).registryFor
                ⟨0⟩).get? current.id = some current
            ∧ (j.machine.service.packagesChanged
                (Sample.around [Sample.descriptor, Sample.listed "q" "pkg"])
                Sample.updated).service.settings.providerOf ⟨0⟩
              ≠ current.id)) _).mp
    (show (Sample.start.after? Sample.choosing).any _ = true from rfl)
  simp only [Bool.and_eq_true, decide_eq_true_eq, Option.any_eq_true] at hend
  obtain ⟨hserving, current, hcurrent, hmodified, hthere, hlisted, hother⟩ :=
    hend
  exact ⟨j, _, current, hj, hserving, hcurrent, hmodified, hthere, hlisted,
    j.machine.enter_packagesChanged _ _, hother⟩

end SpellSessions
