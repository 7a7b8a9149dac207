/-
Fan-out: what becomes of all groups when a listener is given up, or when
everything is.

Both walk over the table of groups, change each group on the way and look
afterwards, one connection after the other, whether it is idle. No look at
one connection changes another one's group, so each group fares as if it
were alone: it goes when the listener was all that it had left to do, and
is otherwise the same group without the listener (`find?_releaseListener`).
A group that goes is released once, unless its call to connect has not
returned (`calls_releaseListener`). The table is a map, and the order of the
walk is that of its entries, which a run may change between any two moves
(`Reached.reordered`); any other order comes to the same groups, to the same
calls in another order, and to the same overview (`fan_out_in_any_order`).

That a listener that is taken off a list is gone from it rests on the lists
naming nobody twice, which is so in every reached state (`Reached.listed`).
-/
import SpellSessions.Overview
import SpellSessions.Proofs.Serving
import SpellSessions.Proofs.Transaction.Iteration
import SpellSessions.Proofs.Transaction.Listed

namespace SpellSessions

-- ========================================================== the only work

/-- A registered listener is all the work of the group. -/
def Group.OnlyServes (g : Group) (k : ListenerId) : Prop :=
  g.pending = [] ∧ g.ongoing = [] ∧ g.listeners = [k]

instance (g : Group) (k : ListenerId) : Decidable (g.OnlyServes k) :=
  inferInstanceAs (Decidable (_ ∧ _ ∧ _))

/-- A group with work is left without any when its only listener goes. -/
theorem Group.isIdle_eraseListener_iff {g : Group} {k : ListenerId}
    (hwork : g.isIdle = false) :
    (g.eraseListener k).isIdle = true ↔ g.OnlyServes k := by
  rw [isIdle_eq_true_iff]
  show g.listeners.erase k = [] ∧ g.pending = [] ∧ g.ongoing = [] ↔ _
  rw [List.erase_eq_nil_iff]
  constructor
  · intro h
    obtain ⟨hlisteners, hpending, hongoing⟩ := h
    refine ⟨hpending, hongoing, hlisteners.resolve_left fun hnone => ?_⟩
    have hidle := isIdle_eq_true_iff.mpr ⟨hnone, hpending, hongoing⟩
    rw [hwork] at hidle
    cases hidle
  · intro h
    obtain ⟨hpending, hongoing, hlisteners⟩ := h
    exact ⟨.inr hlisteners, hpending, hongoing⟩

namespace Host

variable {h h' : Host} {k : ListenerId} {id : ProviderId} {g' : Group}

-- ====================================================== a listener given up

/-- The groups after a listener is given up: those that had other work, each
without the listener. -/
theorem find?_releaseListener (hb : h.groups.Busy)
    (hlisted : h.groups.Listed) :
    (h.releaseListener k).host.groups.find? id = some g'
      ↔ ∃ g, h.groups.find? id = some g ∧ ¬ g.OnlyServes k
        ∧ g' = { g with listeners := g.listeners.filter (· ≠ k) } := by
  rw [GroupTable.find?_eq_some_iff]
  show (id, g') ∈ ((Transaction.releaseListener k).decision
    h).host.groups.entries ↔ _
  rw [Transaction.mem_decision hb]
  refine (or_iff_left List.not_mem_nil).trans (exists_congr fun g => ?_)
  rw [GroupTable.find?_eq_some_iff]
  refine and_congr_right fun hg => ?_
  show (g.eraseListener k).isIdle = false ∧ g.eraseListener k = g' ↔ _
  rw [← Group.isIdle_eraseListener_iff (hb _ hg).2, Bool.not_eq_true,
    (hlisted _ hg).eraseListener, eq_comm (b := g')]

/-- The calls after a listener is given up: a release for each group that
served it alone, but for those that are connecting. -/
theorem calls_releaseListener (hb : h.groups.Busy) :
    (h.releaseListener k).calls
      = h.groups.entries.filterMap fun e =>
          if e.2.OnlyServes k ∧ e.2.connecting = false then
            some (.disconnect e.1 e.2.token)
          else none := by
  show ((Transaction.releaseListener k).decision h).calls = _
  rw [Transaction.calls_decision hb]
  refine List.filterMap_congr fun e he => ?_
  refine if_congr ?_ rfl rfl
  show ((e.2.eraseListener k).isIdle && !e.2.connecting) = true ↔ _
  rw [Bool.and_eq_true, Group.isIdle_eraseListener_iff (hb _ he).2,
    Bool.not_eq_true']

-- =========================================================== the overview

/-- The overview lists the groups by strictly ascending provider. -/
theorem ascending_groupViews (h : Host) :
    (h.groupViews.map (·.provider)).Pairwise (· < ·) := by
  unfold groupViews
  rw [List.map_map, List.pairwise_map]
  exact h.groups.ascending_sorted

/-- The overview lists every group once. -/
theorem groupViews_perm (h : Host) :
    h.groupViews.Perm (h.groups.entries.map fun e => e.2.view e.1) :=
  h.groups.sorted_perm.map _

/-- The overview does not show the order of the table. -/
theorem Reorders.groupViews (hr : h.Reorders h') :
    h.groupViews = h'.groupViews := by
  unfold Host.groupViews
  rw [GroupTable.sorted_eq_of_perm hr.entries]

end Host

-- ======================================================= in whatever order

/-- In every reached state the listeners of every group are in order. -/
theorem Ledger.Reached.listed {b : Ledger} (hb : b.Reached) :
    b.host.groups.Listed := by
  induction hb with
  | begin =>
      intro e he
      cases he
  | step hb hstep ih =>
      obtain ⟨tx, htx⟩ := hstep.transacts
      exact htx.host.forall_entries
        (Transaction.listed_decision hb.busy ih)

namespace Journal

variable {j : Journal}

/-- In whatever order the groups are iterated: when a listener is given up,
the groups that served it alone are gone, each released once unless it is
connecting, and all others are as they were, without the listener; when
everything is given up, every group is gone, each released once unless it is
connecting. Any two orders come to the same groups, and to the same calls
but for their order. And the overview lists each group once, by strictly
ascending provider, in the same way for every order. -/
theorem fan_out_in_any_order (hj : j.Reached) :
    (∀ h : Host, h.Reorders j.host → ∀ k,
      (∀ id g',
        (h.releaseListener k).host.groups.find? id = some g'
          ↔ ∃ g, j.host.groups.find? id = some g ∧ ¬ g.OnlyServes k
            ∧ g' = { g with listeners := g.listeners.filter (· ≠ k) })
      ∧ (∀ id g',
        (h.releaseListener k).host.groups.find? id = some g' →
          g'.hasListener k = false)
      ∧ (h.releaseListener k).calls.Perm
          (j.host.groups.entries.filterMap fun e =>
            if e.2.OnlyServes k ∧ e.2.connecting = false then
              some (.disconnect e.1 e.2.token)
            else none))
    ∧ (∀ h : Host, h.Reorders j.host →
      h.retireEvery.host.groups.entries = []
      ∧ h.retireEvery.calls.Perm
          (j.host.groups.entries.filterMap fun e =>
            if e.2.connecting then none
            else some (.disconnect e.1 e.2.token)))
    ∧ (∀ h h' : Host, h.Reorders j.host → h'.Reorders j.host →
      (∀ k,
        (h.releaseListener k).host.Reorders (h'.releaseListener k).host
          ∧ (h.releaseListener k).calls.Perm (h'.releaseListener k).calls)
      ∧ h.retireEvery.host.Reorders h'.retireEvery.host
      ∧ h.retireEvery.calls.Perm h'.retireEvery.calls)
    ∧ ∀ h : Host, h.Reorders j.host →
      (h.groupViews.map (·.provider)).Pairwise (· < ·)
      ∧ h.groupViews.Perm
          (j.host.groups.entries.map fun e => e.2.view e.1)
      ∧ h.groupViews = j.host.groupViews := by
  -- a run may put the groups into the other order, so all that is proved of
  -- runs is so there too
  have hb : ∀ h : Host, h.Reorders j.host → h.groups.Busy :=
    fun h hr => (hj.reordered hr).busy
  have hlisted : ∀ h : Host, h.Reorders j.host → h.groups.Listed :=
    fun h hr => (hj.reordered hr).ledger.listed
  refine ⟨fun h hr k => ?_, fun h hr => ?_, fun h h' hr hr' => ?_,
    fun h hr => ?_⟩
  · have hfind : ∀ id g',
        (h.releaseListener k).host.groups.find? id = some g'
          ↔ ∃ g, j.host.groups.find? id = some g ∧ ¬ g.OnlyServes k
            ∧ g' = { g with listeners := g.listeners.filter (· ≠ k) } := by
      intro id g'
      rw [Host.find?_releaseListener (hb h hr) (hlisted h hr), hr.find?]
    refine ⟨hfind, fun id g' hg' => ?_, ?_⟩
    · obtain ⟨g, -, -, rfl⟩ := (hfind id g').mp hg'
      unfold Group.hasListener
      simp
    · rw [Host.calls_releaseListener (hb h hr)]
      exact hr.entries.filterMap _
  · refine ⟨Transaction.entries_retireEvery (hb h hr), ?_⟩
    rw [Transaction.calls_retireEvery (hb h hr)]
    exact hr.entries.filterMap _
  · have hsame : ∀ tx : Transaction,
        (tx.decision h).host.Reorders (tx.decision h').host
          ∧ (tx.decision h).calls.Perm (tx.decision h').calls :=
      fun tx => Transaction.reorders_decision (hb h' hr')
        (hr.trans hr'.symm)
    exact ⟨fun k => hsame (.releaseListener k), hsame .retireEvery⟩
  · refine ⟨h.ascending_groupViews, ?_, hr.groupViews⟩
    rw [hr.groupViews]
    exact j.host.groupViews_perm

end Journal

-- ============================================================== two groups

namespace Sample

/-- One provider serves a listener, and another is being connected. -/
def servedBeside : List Move :=
  mixed ++ [
    .enter (around [])
      (.callback (.delivered ⟨"p", ⟨1⟩, ⟨1⟩⟩ (some ⟨"x"⟩))),
    .answer .accepted]

/-- The table in the opposite order. -/
def reversed (t : GroupTable) : GroupTable where
  entries := t.entries.reverse
  distinct := by
    rw [List.map_reverse, List.nodup_reverse]
    exact t.distinct

/-- The host with its table in the opposite order. -/
def turned (h : Host) : Host :=
  h.withGroups (reversed h.groups)

theorem turned_reorders (h : Host) : (turned h).Reorders h where
  entries := List.reverse_perm _
  registry := rfl
  user := rfl
  active := rfl
  tokens := rfl
  requests := rfl

end Sample

/-- Also in the opposite order the group of the listener is gone and
released, the other one stays as it is, and it is not released when
everything is given up. -/
theorem Journal.fan_out_in_opposite_order :
    ∃ j, Sample.start.after? Sample.servedBeside = some j
      ∧ j.host.groups.entries.map Prod.fst = ["p", "q"]
      ∧ ((Sample.turned j.host).releaseListener ⟨1⟩).host.groups.find? "p"
        = none
      ∧ ((Sample.turned j.host).releaseListener ⟨1⟩).host.groups.find? "q"
        = j.host.groups.find? "q"
      ∧ ((Sample.turned j.host).releaseListener ⟨1⟩).calls
        = [.disconnect "p" ⟨1⟩]
      ∧ (Sample.turned j.host).retireEvery.calls
        = [.disconnect "p" ⟨1⟩] := by
  obtain ⟨j, hj, hend⟩ := (Option.any_eq_true
    (fun j : Journal => decide (j.host.groups.entries
      = [("p", ⟨⟨1⟩, some ⟨"s"⟩, false, false, [], [], [⟨1⟩]⟩),
        ("q", ⟨⟨2⟩, none, true, false, [⟨⟨2⟩, Sample.request 2⟩], [],
          []⟩)])) _).mp
    (show (Sample.start.after? Sample.servedBeside).any _ = true from rfl)
  rw [decide_eq_true_eq] at hend
  have hfan := fan_out_in_any_order (Reached.of_after hj)
  have hturned := Sample.turned_reorders j.host
  obtain ⟨hfind, -, hcalls⟩ := hfan.1 _ hturned ⟨1⟩
  obtain ⟨-, hreleased⟩ := hfan.2.1 _ hturned
  rw [hend] at hcalls hreleased
  have hp : j.host.groups.find? "p"
      = some ⟨⟨1⟩, some ⟨"s"⟩, false, false, [], [], [⟨1⟩]⟩ := by
    unfold GroupTable.find?
    rw [hend]
    rfl
  have hq : j.host.groups.find? "q" = some ⟨⟨2⟩, none, true, false,
      [⟨⟨2⟩, Sample.request 2⟩], [], []⟩ := by
    unfold GroupTable.find?
    rw [hend]
    rfl
  refine ⟨j, hj, ?_, ?_, ?_, ?_, ?_⟩
  · rw [hend]
    rfl
  · rw [Option.eq_none_iff_forall_ne_some]
    intro g' hg'
    obtain ⟨g, hg, hother, -⟩ := (hfind "p" g').mp hg'
    cases hp.symm.trans hg
    exact hother ⟨rfl, rfl, rfl⟩
  · rw [hq]
    exact (hfind "q" _).mpr ⟨_, hq, by decide, rfl⟩
  · exact List.perm_singleton.mp hcalls
  · exact List.perm_singleton.mp hreleased

end SpellSessions
