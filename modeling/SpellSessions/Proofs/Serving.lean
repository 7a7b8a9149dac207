/-
Serving: what a host holds depends on whether it serves a user, and whom.

Where nobody is served nothing is held and nothing is known, and every
request that is held was made for the user whose turn it is (`Orderly`).
Three parts of the service keep this up together. A request comes in only
while its caller's user is served; the operations that end the service or
pass it on retire every group; and nothing else touches the user. The
transactions are followed first, then one turn, then a run.

A direct entry asks for no user and may submit a request whoever is served,
so a run keeps the order only if it makes no direct entries.
-/
import SpellSessions.Proofs.Described
import SpellSessions.Proofs.Transaction.Origin

namespace SpellSessions

-- ============================================================== in order

/-- What is held and known agrees with who is served. -/
structure Host.Orderly (h : Host) : Prop where
  /-- Where nobody is served, nothing is held and nothing is known. -/
  rests : h.active = false →
    h.groups.entries = [] ∧ h.registry = .empty
  /-- If somebody is served, it is the user whose turn it is. -/
  named : h.active = true → ∃ u, h.user = some u
  /-- What is held was asked for on behalf of that user. -/
  own : ∀ id g n, (id, g) ∈ h.groups.entries → n ∈ g.requests →
    h.user = some n.request.caller.user

namespace Transaction

variable {h : Host} {tx : Transaction}

/-- To retire every group leaves none, whatever they were in the middle
of. -/
theorem entries_retireEvery (hb : h.groups.Busy) :
    (Transaction.retireEvery.decision h).host.groups.entries = [] := by
  rw [entries_decision hb]
  show h.groups.kept (fun _ g => g.clear) ++ [] = []
  rw [List.append_nil]
  unfold GroupTable.kept
  rw [List.filterMap_eq_nil_iff]
  intro e he
  exact if_pos Group.isIdle_clear

/-- Where there is no group, none is opened but for a request. -/
theorem entries_of_none (hb : h.groups.Busy) (hnone : h.groups.entries = [])
    (hnot : ∀ p r, tx ≠ .submit p r) :
    (tx.decision h).host.groups.entries = [] := by
  rw [entries_of_no_submit hb hnot]
  simp [GroupTable.kept, hnone]

/-- A transaction keeps a host in order, if what it submits is asked for by
the user being served. -/
theorem orderly_decision (hb : h.groups.Busy) (ho : h.Orderly)
    (hserved : ∀ p r, tx = .submit p r →
      h.isServing r.caller.user = true) :
    (tx.decision h).host.Orderly := by
  have hregistry : (tx.decision h).host.registry = h.registry :=
    tx.served_decision Host.registry fun _ _ _ _ => rfl
  have huser : (tx.decision h).host.user = h.user :=
    tx.served_decision Host.user fun _ _ _ _ => rfl
  have hactive : (tx.decision h).host.active = h.active :=
    tx.served_decision Host.active fun _ _ _ _ => rfl
  constructor
  · intro hidle
    rw [hactive] at hidle
    rw [hregistry]
    obtain ⟨hnone, hempty⟩ := ho.rests hidle
    refine ⟨entries_of_none hb hnone ?_, hempty⟩
    intro p r htx
    have hserving := (Bool.and_eq_true_iff.mp (hserved p r htx)).1
    rw [hidle] at hserving
    cases hserving
  · rw [hactive, huser]
    exact ho.named
  · intro id g' n he hn
    rw [huser]
    rcases request_origin hb he hn with
      ⟨g, hg, -, hbefore⟩ | ⟨p, q, htx, -, rfl⟩
    · exact ho.own id g n hg hbefore
    · exact of_decide_eq_true (Bool.and_eq_true_iff.mp (hserved p q htx)).2

end Transaction

-- ============================================================== one turn

namespace Host.Orderly

variable {h : Host} {registry : Registry}

/-- A host without groups is in order for whoever is served next. -/
theorem of_none (hnone : h.groups.entries = [])
    (hrests : h.active = false → h.registry = .empty)
    (hnamed : h.active = true → ∃ u, h.user = some u) : h.Orderly where
  rests := fun hidle => ⟨hnone, hrests hidle⟩
  named := hnamed
  own := by
    intro id g n he
    rw [hnone] at he
    cases he

/-- Groups that are put into another order stay in order. -/
theorem of_reorders {h' : Host} (hr : h.Reorders h') (ho : h'.Orderly) :
    h.Orderly where
  rests := by
    intro hidle
    obtain ⟨hnone, hempty⟩ := ho.rests (hr.active.symm.trans hidle)
    exact ⟨(hr.entries.trans (.of_eq hnone)).eq_nil,
      hr.registry.trans hempty⟩
  named := by
    rw [hr.active, hr.user]
    exact ho.named
  own := by
    intro id g n he
    rw [hr.user]
    exact ho.own id g n (hr.entries.mem_iff.mp he)

/-- Where somebody is served, another registry changes no order. -/
theorem rediscover (ho : h.Orderly) (hactive : h.active = true) :
    Host.Orderly { h with registry := registry } where
  rests := by
    intro hidle
    rw [hactive] at hidle
    cases hidle
  named := ho.named
  own := ho.own

end Host.Orderly

namespace Service

variable {s : Service} {around : Surroundings} {e : Entry}

/-- A request that goes on to the groups is one that was asked for. -/
theorem submission_eq_submit {id : ProviderId} {r r' : Request}
    {p : Provider} (h : s.submission id r = .submit p r') : r' = r := by
  unfold submission at h
  split at h
  · cases h
  · cases hp : s.host.registry.get? id with
    | none =>
        rw [hp] at h
        cases h
    | some q =>
        rw [hp] at h
        cases h
        rfl

/-- Who submits a request, other than directly, is the user being
served. -/
theorem isServing_of_submit {p : Provider} {r : Request}
    (hindirect : (Move.enter around e).isDirect = false)
    (h : e.transaction s around = .submit p r) :
    s.host.isServing r.caller.user = true := by
  cases e with
  | operation op =>
      cases op with
      | beginSession id r' =>
          unfold Entry.transaction Operation.transaction at h
          dsimp only at h
          split at h
          · cases h
          · next hallowed =>
              cases submission_eq_submit h
              exact isServing_of_not_turnedAway hallowed
      | endSession c l =>
          unfold Entry.transaction Operation.transaction at h
          dsimp only at h
          split at h <;> cases h
      | _ => cases h
  | callback report => cases report <;> cases h
  | direct entry => cases hindirect

/-- A turn that is no direct entry keeps the host in order. -/
theorem orderly_enter (hb : s.host.groups.Busy) (ho : s.host.Orderly)
    (hindirect : (Move.enter around e).isDirect = false) :
    (s.enter around e).service.host.Orderly := by
  have hdecision : ((e.transaction s around).decision s.host).host.Orderly :=
    Transaction.orderly_decision hb ho
      fun p r htx => isServing_of_submit hindirect htx
  rw [host_enter]
  cases e with
  | operation op =>
      cases op with
      | changeUser u unlocked =>
          refine .of_none (Transaction.entries_retireEvery hb) ?_ ?_
          · intro hlocked
            replace hlocked : unlocked = false := hlocked
            rw [hlocked]
            rfl
          · intro _
            exact ⟨u, rfl⟩
      | stopServing =>
          refine .of_none (Transaction.entries_retireEvery hb) ?_ nofun
          intro _
          rfl
      | userUnlocked u =>
          unfold Entry.serves Operation.serves
          dsimp only
          split
          · next hwaits =>
              rw [Bool.and_eq_true, decide_eq_true_eq,
                Bool.not_eq_true'] at hwaits
              obtain ⟨huser, hidle⟩ := hwaits
              refine .of_none (ho.rests hidle).1 nofun ?_
              intro _
              exact ⟨u, huser⟩
          · exact hdecision
      | packagesChanged news =>
          unfold Entry.serves Operation.serves
          dsimp only
          split
          · next hserving =>
              exact ho.rediscover (Bool.and_eq_true_iff.mp hserving).1
          · exact hdecision
      | _ => exact hdecision
  | callback report => exact hdecision
  | direct entry => cases hindirect

end Service

-- ============================================================== in a run

namespace Journal

variable {j j' : Journal} {mv : Move}

/-- The return of a call submits nothing. -/
theorem transaction_ne_submit (c : Call) (a : Answer) (p : Provider)
    (r : Request) : c.transaction a ≠ .submit p r := by
  cases c <;> cases a <;> exact nofun

/-- A move that is no direct entry keeps the host in order. -/
theorem orderly_move (hj : j.Reached) (ho : j.host.Orderly)
    (hindirect : mv.isDirect = false) (hmove : j.move? mv = some j') :
    j'.host.Orderly := by
  cases mv with
  | enter around e =>
      obtain ⟨p, hheld, htaken, rfl⟩ := advance_of_enter hmove
      obtain ⟨hservice, -⟩ := Machine.enter_follows htaken
      show p.machine.service.host.Orderly
      rw [hservice]
      exact Service.orderly_enter hj.busy ho hindirect
  | answer a =>
      obtain ⟨f, outer, p, hstack, hanswer, rfl⟩ := advance_of_answer hmove
      obtain ⟨hhost, -⟩ := Machine.answer_follows hstack hanswer
      show p.machine.service.host.Orderly
      rw [hhost]
      apply Transaction.orderly_decision hj.busy ho
      intro q r htx
      exact absurd htx (transaction_ne_submit _ _ _ _)
  | store settings | reorder groups =>
      obtain ⟨s, hr, rfl⟩ := reorders_of_aside rfl hmove
      exact .of_reorders hr ho

/-- A run without direct entries keeps the host in order. -/
theorem ReachedIndirectly.orderly (hj : j.ReachedIndirectly) :
    j.host.Orderly := by
  induction hj with
  | begin rule settings => exact .of_none rfl (fun _ => rfl) nofun
  | move mv hj hindirect hmove ih =>
      exact orderly_move hj.reached ih hindirect hmove

/-- At every moment of a run to retire every group leaves none; and where
the run makes no direct entries, a host that serves nobody holds no group
and knows no provider, and a host that serves somebody has a user. -/
theorem unserved_host_empty (hj : j.Reached) :
    j.host.retireEvery.host.groups.entries = []
      ∧ (j.ReachedIndirectly →
          (j.host.active = false →
              j.host.groups.entries = [] ∧ j.host.registry = .empty)
            ∧ (j.host.active = true → ∃ u, j.host.user = some u)) := by
  refine ⟨Transaction.entries_retireEvery hj.busy, ?_⟩
  intro hindirect
  have ho := hindirect.orderly
  exact ⟨ho.rests, ho.named⟩

end Journal

namespace Sample

/-- Another provider that discovery may list. -/
def other : Descriptor :=
  ⟨"q", "pkg", some requiredPermission, false, [⟨"en", ""⟩]⟩

/-- One provider is connected and was handed a request, and another is
being connected. -/
def mixed : List Move :=
  [.enter (around [descriptor, other]) (.operation (.changeUser ⟨0⟩ true)),
    operate (.beginSession "p" (request 1)), .answer .accepted,
    .enter (around []) (.callback (.connected ⟨"p", ⟨1⟩⟩ ⟨"s"⟩)),
    .answer .accepted, operate (.beginSession "q" (request 2))]

/-- The user is dropped from inside the call to connect; then all calls
return. -/
def abandoned : List Move :=
  [operate .stopServing, .answer .accepted, .answer .accepted,
    .answer .accepted]

end Sample

/-- A host with one group connected and one connecting retires both, and
holds nothing once its user is dropped. -/
theorem Journal.abandoned_host_empty :
    ∃ j k, Sample.start.after? Sample.mixed = some j
      ∧ j.after? Sample.abandoned = some k
      ∧ j.host.groups.entries.map (·.2.connecting) = [false, true]
      ∧ j.host.retireEvery.host.groups.entries = []
      ∧ (∃ u, j.host.user = some u)
      ∧ k.host.groups.entries = [] ∧ k.host.registry = .empty := by
  obtain ⟨j, hj, hend⟩ := (Option.any_eq_true
    (fun j : Journal =>
      decide (j.host.groups.entries.map (·.2.connecting) = [false, true])
        && j.host.active
        && (j.after? Sample.abandoned).any (!·.host.active)) _).mp
    (show (Sample.start.after? Sample.mixed).any _ = true from rfl)
  simp only [Bool.and_eq_true, decide_eq_true_eq, Option.any_eq_true,
    Bool.not_eq_true'] at hend
  obtain ⟨⟨hgroups, hactive⟩, k, hk, hidle⟩ := hend
  have hbefore : j.ReachedIndirectly := .of_after hj (by decide)
  have hafter : k.ReachedIndirectly := hbefore.after hk (by decide)
  obtain ⟨hretired, hserved⟩ := unserved_host_empty hbefore.reached
  obtain ⟨-, hrests⟩ := unserved_host_empty hafter.reached
  obtain ⟨hnone, hempty⟩ := (hrests hafter).1 hidle
  exact ⟨j, k, hj, hk, hgroups, hretired, (hserved hbefore).2 hactive, hnone,
    hempty⟩

end SpellSessions
