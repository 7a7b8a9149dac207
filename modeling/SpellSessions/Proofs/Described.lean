/-
Described groups: whether the provider of every live group is known.

Requests that come through the service name a known provider, and a user
who begins to be served finds no group left from before; so groups and
registry part in one way only. When packages change, the registry is built
anew and the groups stay, also that of a provider which discovery no
longer lists. A run without direct entries keeps every group described if
and only if each registry that is built for changed packages lists the
providers of all live groups (`described_throughout_iff`).
-/
import SpellSessions.Proofs.HandOver
import SpellSessions.Proofs.Registry

namespace SpellSessions

-- ================================================= groups and the registry

namespace Host

/-- The provider of every live group is known. -/
def Described (h : Host) : Prop :=
  ∀ id g, h.groups.find? id = some g → h.registry.contains id = true

/-- Where nobody is served no group is live. -/
def Rests (h : Host) : Prop :=
  h.active = false → ∀ id g, h.groups.find? id ≠ some g

variable {h h' : Host} {tx : Transaction}

/-- A transaction that opens no group keeps the live providers among those
that were live. -/
theorem find?_of_opens_nil (hb : h.groups.Busy) (hopens : tx.opens h = [])
    {id : ProviderId} {g' : Group}
    (hg : (tx.decision h).host.groups.find? id = some g') :
    ∃ g, h.groups.find? id = some g := by
  rw [GroupTable.find?_eq_some_iff, Transaction.mem_decision hb, hopens] at hg
  rcases hg with ⟨g, hg, -⟩ | habs
  · exact ⟨g, GroupTable.find?_eq_some_iff.mpr hg⟩
  · cases habs

theorem find?_retireEvery (hb : h.groups.Busy) (id : ProviderId)
    (g : Group) :
    (Transaction.retireEvery.decision h).host.groups.find? id ≠ some g := by
  intro hg
  rw [GroupTable.find?_eq_some_iff, Transaction.mem_decision hb] at hg
  rcases hg with ⟨g₀, -, hwork, -⟩ | habs
  · cases hwork
  · cases habs

end Host

-- ======================================================= moves and refreshes

/-- If the move builds the registry anew for changed packages of the user
being served, it lists the providers of all live groups. -/
def Move.Covers (j : Journal) : Move → Prop
  | .enter around (.operation (.packagesChanged news)) =>
    j.host.isServing news.user = true →
      ∀ id g, j.host.groups.find? id = some g →
        (around.registryFor news.user).contains id = true
  | _ => True

namespace Journal

variable {j j' : Journal} {mv : Move} {p : Progress}

/-- Something holds at the beginning and after every move of a run. -/
def Throughout (P : Journal → Prop) (j : Journal) : List Move → Prop
  | [] => P j
  | mv :: rest =>
    P j ∧ ∀ j', j.move? mv = some j' → j'.Throughout P rest

/-- Every move of a run covers what is live when it is made. -/
def Covered (j : Journal) : List Move → Prop
  | [] => True
  | mv :: rest =>
    mv.Covers j ∧ ∀ j', j.move? mv = some j' → j'.Covered rest

/-- Every move of a run that can be made is one that may be made then. -/
def EveryMove (may : Journal → Move → Prop) (j : Journal) :
    List Move → Prop
  | [] => True
  | mv :: rest =>
    ∀ j', j.move? mv = some j' → may j mv ∧ j'.EveryMove may rest

theorem Throughout.here {P : Journal → Prop} {moves : List Move}
    (h : j.Throughout P moves) : P j := by
  cases moves with
  | nil => exact h
  | cons mv rest => exact h.1

/-- Where a move keeps something if and only if it is one that may be made,
a run keeps it throughout if and only if all its moves may be made. Another
invariant, and what kinds of moves are admitted, may help the step. -/
theorem throughout_iff {P I : Journal → Prop}
    {may : Journal → Move → Prop} {A : Move → Prop}
    {moves : List Move}
    (hstep : ∀ j mv j', I j → P j → A mv →
      j.move? mv = some j' → I j' ∧ (P j' ↔ may j mv))
    (hinv : I j) (hP : P j) (hadmits : ∀ mv ∈ moves, A mv) :
    j.Throughout P moves ↔ j.EveryMove may moves := by
  induction moves generalizing j with
  | nil => exact iff_of_true hP trivial
  | cons mv rest ih =>
      have hfirst := hadmits mv List.mem_cons_self
      have hrest : ∀ mv ∈ rest, A mv :=
        fun mv hmv => hadmits mv (List.mem_cons_of_mem _ hmv)
      constructor
      · intro h j' hmove
        obtain ⟨-, hall⟩ := h
        obtain ⟨hinv', hiff⟩ := hstep j mv j' hinv hP hfirst hmove
        have hP' := (hall j' hmove).here
        exact ⟨hiff.mp hP', (ih hinv' hP' hrest).mp (hall j' hmove)⟩
      · intro h
        refine ⟨hP, fun j' hmove => ?_⟩
        obtain ⟨hmay, hall⟩ := h j' hmove
        obtain ⟨hinv', hiff⟩ := hstep j mv j' hinv hP hfirst hmove
        exact (ih hinv' (hiff.mpr hmay) hrest).mpr hall

/-- What is known and who is served stays, and no provider becomes live. -/
structure Kept (h h' : Host) : Prop where
  registry : h'.registry = h.registry
  active : h'.active = h.active
  groups : ∀ id g', h'.groups.find? id = some g' →
    ∃ g, h.groups.find? id = some g

theorem kept_decision {h : Host} {tx : Transaction} (hb : h.groups.Busy)
    (hopens : tx.opens h = []) : Kept h (tx.decision h).host where
  registry := tx.served_decision Host.registry fun _ _ _ _ => rfl
  active := tx.served_decision Host.active fun _ _ _ _ => rfl
  groups := fun _ _ => Host.find?_of_opens_nil hb hopens

theorem kept_of_reorders {h h' : Host} (hr : h'.Reorders h) : Kept h h' where
  registry := hr.registry
  active := hr.active
  groups := fun id g' hg' => ⟨g', (hr.find? id).symm.trans hg'⟩

theorem Kept.described {h h' : Host} (hk : Kept h h') (hd : h.Described) :
    h'.Described := by
  intro id g' hg'
  obtain ⟨g, hg⟩ := hk.groups id g' hg'
  rw [hk.registry]
  exact hd id g hg

theorem Kept.rests {h h' : Host} (hk : Kept h h') (hr : h.Rests) :
    h'.Rests := by
  intro hactive id g' hg'
  obtain ⟨g, hg⟩ := hk.groups id g' hg'
  exact hr (hk.active.symm.trans hactive) id g hg

end Journal

-- ========================================================= one turn, followed

namespace Service

variable {s : Service} {around : Surroundings} {e : Entry}

/-- A caller who is not turned away is the user being served. -/
theorem isServing_of_not_turnedAway {c : Caller}
    (h : s.turnedAway? around c = none) : s.host.isServing c.user = true := by
  unfold turnedAway? at h
  split at h
  · cases h
  · split at h
    · cases h
    · next hserving =>
        rw [Bool.not_eq_true', Bool.not_eq_false] at hserving
        exact hserving

theorem active_of_not_turnedAway {c : Caller}
    (h : s.turnedAway? around c = none) : s.host.active = true :=
  (Bool.and_eq_true_iff.mp (isServing_of_not_turnedAway h)).1

/-- A request that goes on to the groups names a known provider. -/
theorem described_submission (hb : s.host.groups.Busy)
    (hd : s.host.Described) (id : ProviderId) (r : Request) :
    (((s.submission id r).decision s.host).host).Described := by
  have hstay : ((Transaction.stay.decision s.host).host).Described := hd
  unfold submission
  split
  · exact hstay
  · cases hp : s.host.registry.get? id with
    | none => exact hstay
    | some p =>
        obtain ⟨rfl, hknown⟩ := Registry.get?_eq_some hp
        have hregistry := (Transaction.submit p r).served_decision
          (h := s.host) Host.registry fun _ _ _ _ => rfl
        intro id' g' hg'
        dsimp only
        rw [hregistry]
        rw [GroupTable.find?_eq_some_iff, Transaction.mem_decision hb] at hg'
        rcases hg' with ⟨g, hg, -⟩ | hopened
        · exact hd id' g (GroupTable.find?_eq_some_iff.mpr hg)
        · unfold Transaction.opens at hopened
          dsimp only at hopened
          split at hopened
          · cases List.mem_singleton.mp hopened
            exact hknown
          · cases hopened

/-- A turn that is no direct entry leaves no group unserved, and keeps the
groups described unless it builds a registry that does not cover them. -/
theorem described_enter (hb : s.host.groups.Busy) (hr : s.host.Rests)
    (hd : s.host.Described) (hdirect : (Move.enter around e).isDirect = false)
    {j : Journal} (hj : j.host = s.host) :
    (s.enter around e).service.host.Rests
      ∧ ((s.enter around e).service.host.Described
        ↔ (Move.enter around e).Covers j) := by
  rw [host_enter]
  -- a turn that neither opens a group nor serves anybody else
  have hkept : ∀ tx : Transaction, tx.opens s.host = [] →
      ((tx.decision s.host).host).Rests
        ∧ (((tx.decision s.host).host).Described ↔ True) := fun tx hopens =>
    have hk := Journal.kept_decision hb hopens
    ⟨hk.rests hr, iff_of_true (hk.described hd) trivial⟩
  cases e with
  | operation op =>
      cases op with
      | changeUser u unlocked =>
          have hnone := Host.find?_retireEvery hb
          exact ⟨fun _ => hnone,
            iff_of_true (fun id g hg => absurd hg (hnone id g)) trivial⟩
      | stopServing =>
          have hnone := Host.find?_retireEvery hb
          exact ⟨fun _ => hnone,
            iff_of_true (fun id g hg => absurd hg (hnone id g)) trivial⟩
      | userUnlocked u =>
          unfold Entry.serves Operation.serves
          dsimp only
          split
          · next hwaits =>
              rw [Bool.and_eq_true, Bool.not_eq_true'] at hwaits
              have hnone := hr hwaits.2
              exact ⟨fun _ => hnone,
                iff_of_true (fun id g hg => absurd hg (hnone id g)) trivial⟩
          · exact ⟨hr, iff_of_true hd trivial⟩
      | packagesChanged news =>
          unfold Entry.serves Operation.serves Move.Covers
          dsimp only
          rw [hj]
          split
          · next hserving =>
              exact ⟨hr, fun h _ => h, fun h => h hserving⟩
          · next hserving =>
              exact ⟨hr, iff_of_true hd fun h => absurd h hserving⟩
      | listenerLost l => exact hkept (.releaseListener l) rfl
      | beginSession id r =>
          unfold Entry.transaction Operation.transaction
          dsimp only
          cases haway : s.turnedAway? around r.caller with
          | some refusal => exact hkept .stay rfl
          | none =>
              have hactive := active_of_not_turnedAway haway
              refine ⟨fun hidle => ?_,
                iff_of_true (described_submission hb hd id r) trivial⟩
              have hserved := (s.submission id r).served_decision
                (h := s.host) Host.active fun _ _ _ _ => rfl
              have habs := hserved.symm.trans hidle
              rw [hactive] at habs
              cases habs
      | endSession c l =>
          unfold Entry.transaction Operation.transaction
          dsimp only
          cases s.turnedAway? around c with
          | some refusal => exact hkept .stay rfl
          | none => exact hkept (.releaseListener l) rfl
      | _ => exact hkept .stay rfl
  | callback report =>
      cases report with
      | connected link endpoint => exact hkept (.connected link endpoint) rfl
      | disconnected link => exact hkept (.disconnected link) rfl
      | delivered handle session =>
          exact hkept (.answered handle session) rfl
  | direct entry => cases hdirect

end Service

namespace Journal

variable {j j' : Journal} {mv : Move} {moves : List Move}

/-- A move that is no direct entry keeps the groups described if and only
if it covers them. -/
theorem described_move (hj : j.Reached) (hr : j.host.Rests)
    (hd : j.host.Described) (hdirect : mv.isDirect = false)
    (hmove : j.move? mv = some j') :
    j'.host.Rests ∧ (j'.host.Described ↔ mv.Covers j) := by
  cases mv with
  | enter around e =>
      obtain ⟨p, -, htaken, rfl⟩ := advance_of_enter hmove
      obtain ⟨hservice, -⟩ := Machine.enter_follows htaken
      have hhost : (j.advance (.entered e) p).host
          = (j.machine.service.enter around e).service.host :=
        congrArg Service.host hservice
      rw [hhost]
      exact Service.described_enter hj.busy hr hd hdirect rfl
  | answer a =>
      obtain ⟨f, outer, p, hstack, hanswer, rfl⟩ := advance_of_answer hmove
      obtain ⟨hhost, -⟩ := Machine.answer_follows hstack hanswer
      obtain ⟨hopens, -⟩ := f.call.transaction_gives_none a j.host
      have hk := kept_decision hj.busy hopens
      show p.machine.service.host.Rests
        ∧ (p.machine.service.host.Described ↔ True)
      rw [hhost]
      exact ⟨hk.rests hr, iff_of_true (hk.described hd) trivial⟩
  | store settings | reorder groups =>
      obtain ⟨s, hreorders, rfl⟩ := reorders_of_aside rfl hmove
      have hk := kept_of_reorders hreorders
      exact ⟨hk.rests hr, iff_of_true (hk.described hd) trivial⟩

/-- A move that does not cover what is live can be made. -/
theorem move_of_not_covers (h : ¬ mv.Covers j) :
    ∃ j', j.move? mv = some j' := by
  cases mv with
  | enter around e =>
      cases e with
      | operation op =>
          cases op with
          | packagesChanged news =>
              have htaken := j.machine.enter_packagesChanged around news
              exact ⟨_, j.move?_of_taken rfl htaken⟩
          | _ => exact absurd trivial h
      | _ => exact absurd trivial h
  | _ => exact absurd trivial h

theorem covered_iff :
    j.Covered moves ↔ j.EveryMove (fun j mv => mv.Covers j) moves := by
  induction moves generalizing j with
  | nil => exact Iff.rfl
  | cons mv rest ih =>
      constructor
      · intro h j' hmove
        exact ⟨h.1, ih.mp (h.2 j' hmove)⟩
      · intro h
        refine ⟨?_, fun j' hmove => ih.mpr (h j' hmove).2⟩
        by_contra hnot
        obtain ⟨j', hmove⟩ := move_of_not_covers hnot
        exact hnot (h j' hmove).1

/-- From a moment at which the groups are described, a run without direct
entries keeps them so if and only if all its moves cover them. -/
theorem throughout_iff_covered (hj : j.Reached) (hr : j.host.Rests)
    (hd : j.host.Described) (hdirect : ∀ mv ∈ moves, mv.isDirect = false) :
    j.Throughout (·.host.Described) moves ↔ j.Covered moves := by
  rw [covered_iff]
  refine throughout_iff (I := fun j => j.Reached ∧ j.host.Rests)
    ?_ ⟨hj, hr⟩ hd hdirect
  intro j mv j' hinv hd hdirect hmove
  obtain ⟨hr', hiff⟩ := described_move hinv.1 hinv.2 hd hdirect hmove
  exact ⟨⟨hinv.1.move mv hmove, hr'⟩, hiff⟩

/-- A run without direct entries keeps every live group described by the
registry if and only if each registry that it builds for changed packages
lists the providers of all live groups. -/
theorem described_throughout_iff (rule : DefaultRule) (settings : Settings)
    (hdirect : ∀ mv ∈ moves, mv.isDirect = false) :
    (begin rule settings).Throughout (·.host.Described) moves
      ↔ (begin rule settings).Covered moves :=
  throughout_iff_covered (.begin rule settings)
    (fun _ _ _ => nofun) (fun _ _ => nofun) hdirect

/-- Sessions that are asked for keep every live group described. -/
theorem waiting_described :
    Sample.start.Throughout (·.host.Described) Sample.waiting :=
  (described_throughout_iff ⟨[]⟩ (.empty true) (by decide)).mpr
    ⟨trivial, fun _ _ => ⟨trivial, fun _ _ => ⟨trivial, fun _ _ => trivial⟩⟩⟩

end Journal

/-- The package of the provider goes while a request waits. -/
def Sample.removing : List Move :=
  waiting ++ [.enter (around [])
    (.operation (.packagesChanged ⟨⟨0⟩, ["pkg"], []⟩))]

/-- When the package of a live group goes, the group stays and its provider
is known no more. -/
theorem Journal.removed_provider_undescribed :
    (∀ mv ∈ Sample.removing, mv.isDirect = false)
      ∧ ∃ j, Sample.start.after? Sample.removing = some j
        ∧ ¬ j.host.Described := by
  refine ⟨by decide, ?_⟩
  obtain ⟨j, hj, hend⟩ := (Option.any_eq_true
    (fun j : Journal => (j.host.groups.find? "p").isSome
      && !j.host.registry.contains "p") _).mp
    (show (Sample.start.after? Sample.removing).any _ = true from rfl)
  rw [Bool.and_eq_true, Bool.not_eq_true'] at hend
  obtain ⟨hlive, hunknown⟩ := hend
  obtain ⟨g, hg⟩ := Option.isSome_iff_exists.mp hlive
  refine ⟨j, hj, fun hd => ?_⟩
  rw [hd "p" g hg] at hunknown
  cases hunknown

end SpellSessions
