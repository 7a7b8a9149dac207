/-
Retirement: a change of groups, and the look whether they are idle.

A transition looks up one group, changes it and looks whether it is idle;
or it changes all groups and looks at each in turn. The first comes to a
change of one connection (`entries_change`, `calls_change`). The second is
followed by induction over the connections it visits and comes to a change
of every entry (`entries_sweep`, `calls_sweep`).
-/
import SpellSessions.Proofs.Transaction.Work

namespace SpellSessions

-- ============================================================ retirement

namespace Host

variable {h : Host} {id : ProviderId} {token : Token} {g : Group}

theorem entries_retireIfIdle (hl : h.groups.live? id token = some g)
    (hr : g.retired = false) :
    (h.retireIfIdle id token).host.groups.entries
      = if g.isIdle then (h.groups.erase id).entries
        else h.groups.entries := by
  unfold retireIfIdle Group.canRetire
  rw [hl]
  dsimp only
  rw [hr]
  cases g.isIdle <;> cases g.connecting <;> rfl

/-- The retirement of a live group owes a release unless the group is
connecting. -/
theorem calls_retireIfIdle (hl : h.groups.live? id token = some g)
    (hr : g.retired = false) :
    (h.retireIfIdle id token).calls
      = if g.isIdle && !g.connecting then [.disconnect id token]
        else [] := by
  unfold retireIfIdle Group.canRetire
  rw [hl]
  dsimp only
  rw [hr]
  cases g.isIdle <;> cases g.connecting <;> rfl

theorem retireIfIdle_of_stale (hl : h.groups.live? id token = none) :
    h.retireIfIdle id token = h.stay [] := by
  unfold retireIfIdle
  rw [hl]

-- ============================================= the walk over connections

/-- What a look at one connection leaves in the table. -/
theorem entries_retireIfIdle_eq_filter
    (hr : ∀ e ∈ h.groups.entries, e.2.retired = false) :
    (h.retireIfIdle id token).host.groups.entries
      = h.groups.entries.filter fun e =>
          !(e.2.isIdle && (e.1, e.2.token) == (id, token)) := by
  cases hl : h.groups.live? id token with
  | none =>
      rw [retireIfIdle_of_stale hl]
      refine (List.filter_eq_self.mpr fun e he => ?_).symm
      have hne : ((e.1, e.2.token) == (id, token)) = false := by
        rw [beq_eq_false_iff_ne, ne_eq, Prod.mk.injEq]
        rintro ⟨rfl, htok⟩
        exact GroupTable.live?_eq_none_iff.mp hl e.2 he htok
      rw [hne, Bool.and_false]
      rfl
  | some g =>
      obtain ⟨hg, htok⟩ := GroupTable.live?_eq_some_iff.mp hl
      have hgroup : ∀ e ∈ h.groups.entries, e.1 = id → e.2 = g :=
        fun e he hid => GroupTable.group_unique (hid ▸ he) hg
      rw [entries_retireIfIdle hl (hr _ hg)]
      split
      · next hidle =>
          refine List.filter_congr fun e he => ?_
          by_cases hid : e.1 = id
          · simp [hid, hgroup e he hid, hidle, htok]
          · simp [hid]
      · next hwork =>
          refine (List.filter_eq_self.mpr fun e he => ?_).symm
          by_cases hid : e.1 = id
          · simp [hgroup e he hid, hwork]
          · simp [hid]

/-- What a walk over connections leaves in the table. -/
theorem entries_retireIdleOf (l : List (ProviderId × Token))
    (hr : ∀ e ∈ h.groups.entries, e.2.retired = false) :
    (h.retireIdleOf l).host.groups.entries
      = h.groups.entries.filter fun e =>
          !(e.2.isIdle && l.contains (e.1, e.2.token)) := by
  induction l generalizing h with
  | nil =>
      refine (List.filter_eq_self.mpr fun e _ => ?_).symm
      simp
  | cons c rest ih =>
      obtain ⟨id, token⟩ := c
      have hfirst : (h.retireIfIdle id token).host.groups.entries = _ :=
        entries_retireIfIdle_eq_filter hr
      have hr' : ∀ e ∈ (h.retireIfIdle id token).host.groups.entries,
          e.2.retired = false := by
        intro e he
        rw [hfirst] at he
        exact hr e (List.mem_of_mem_filter he)
      show ((h.retireIfIdle id token).host.retireIdleOf
        rest).host.groups.entries = _
      rw [ih hr', hfirst, List.filter_filter]
      refine List.filter_congr fun e _ => ?_
      rw [List.contains_cons]
      cases e.2.isIdle <;> simp [Bool.and_comm]

theorem live?_retireIfIdle_of_ne {k : ProviderId} {token' : Token}
    (hr : ∀ e ∈ h.groups.entries, e.2.retired = false) (hk : k ≠ id) :
    (h.retireIfIdle id token).host.groups.live? k token'
      = h.groups.live? k token' := by
  refine Option.ext fun g => ?_
  rw [GroupTable.live?_eq_some_iff, GroupTable.live?_eq_some_iff,
    entries_retireIfIdle_eq_filter hr, List.mem_filter]
  simp [hk]

/-- The release that a look at one connection owes. -/
def releaseIfIdle (h : Host) (c : ProviderId × Token) : Option Call :=
  match h.groups.live? c.1 c.2 with
  | none => none
  | some g =>
    if g.isIdle && !g.connecting then some (.disconnect c.1 c.2) else none

theorem calls_retireIfIdle_eq (c : ProviderId × Token)
    (hr : ∀ e ∈ h.groups.entries, e.2.retired = false) :
    (h.retireIfIdle c.1 c.2).calls = (h.releaseIfIdle c).toList := by
  unfold releaseIfIdle
  cases hl : h.groups.live? c.1 c.2 with
  | none => rw [retireIfIdle_of_stale hl]; rfl
  | some g =>
      rw [calls_retireIfIdle hl
        (hr _ (GroupTable.live?_eq_some_iff.mp hl).1)]
      dsimp only
      split <;> rfl

/-- A walk that visits each provider once owes the releases in the order
of its visits. -/
theorem calls_retireIdleOf (l : List (ProviderId × Token))
    (hd : (l.map Prod.fst).Nodup)
    (hr : ∀ e ∈ h.groups.entries, e.2.retired = false) :
    (h.retireIdleOf l).calls = l.filterMap h.releaseIfIdle := by
  induction l generalizing h with
  | nil => rfl
  | cons c rest ih =>
      rw [List.map_cons, List.nodup_cons] at hd
      have hr' : ∀ e ∈ (h.retireIfIdle c.1 c.2).host.groups.entries,
          e.2.retired = false := by
        intro e he
        rw [entries_retireIfIdle_eq_filter hr] at he
        exact hr e (List.mem_of_mem_filter he)
      have hsame : rest.filterMap (h.retireIfIdle c.1 c.2).host.releaseIfIdle
          = rest.filterMap h.releaseIfIdle := by
        refine List.filterMap_congr fun d hmem => ?_
        have hne : d.1 ≠ c.1 := fun heq =>
          hd.1 (heq ▸ List.mem_map.mpr ⟨d, hmem, rfl⟩)
        unfold releaseIfIdle
        rw [live?_retireIfIdle_of_ne hr hne]
      show (h.retireIfIdle c.1 c.2).calls
          ++ ((h.retireIfIdle c.1 c.2).host.retireIdleOf rest).calls = _
      rw [ih hd.2 hr', hsame, calls_retireIfIdle_eq c hr,
        List.filterMap_cons]
      cases h.releaseIfIdle c <;> rfl

-- ======================================================== the two sweeps

theorem not_retired_mapGroups {work : Group → Group} (hb : h.groups.Busy)
    (hret : ∀ g, (work g).retired = g.retired) :
    ∀ e ∈ (h.withGroups (h.groups.mapGroups work)).groups.entries,
      e.2.retired = false := by
  intro e he
  obtain ⟨e', he', rfl⟩ := List.mem_map.mp he
  exact (hret e'.2).trans (hb e' he').1

/-- Changing every group and then looking at each connection keeps the
groups that are left with work. -/
theorem entries_sweep {work : Group → Group} (hb : h.groups.Busy)
    (htok : ∀ g, (work g).token = g.token)
    (hret : ∀ g, (work g).retired = g.retired) :
    ((h.withGroups (h.groups.mapGroups work)).retireIdleOf
        h.connections).host.groups.entries
      = h.groups.kept fun _ => work := by
  have hr := not_retired_mapGroups hb hret
  rw [entries_retireIdleOf h.connections hr]
  show (h.groups.entries.map fun e => (e.1, work e.2)).filter _ = _
  unfold GroupTable.kept
  rw [← List.filterMap_eq_filter, List.filterMap_map]
  refine List.filterMap_congr fun e he => ?_
  have hmem : h.connections.contains (e.1, (work e.2).token) = true := by
    rw [List.contains_iff_mem, htok]
    exact List.mem_map.mpr ⟨e, he, rfl⟩
  rw [Function.comp_apply, Option.guard]
  dsimp only
  rw [hmem, Bool.and_true]
  cases (work e.2).isIdle <;> rfl

/-- Changing every group and then looking at each connection owes the
releases of those left without work, in the order of the table. -/
theorem calls_sweep {work : Group → Group} (hb : h.groups.Busy)
    (htok : ∀ g, (work g).token = g.token)
    (hret : ∀ g, (work g).retired = g.retired)
    (hcon : ∀ g, (work g).connecting = g.connecting) :
    ((h.withGroups (h.groups.mapGroups work)).retireIdleOf
        h.connections).calls
      = h.groups.released fun _ => work := by
  have hr := not_retired_mapGroups hb hret
  have hd : (h.connections.map Prod.fst).Nodup := by
    unfold connections
    rw [List.map_map]
    exact h.groups.distinct
  rw [calls_retireIdleOf h.connections hd hr]
  unfold connections GroupTable.released
  rw [List.filterMap_map]
  refine List.filterMap_congr fun e he => ?_
  have hlive : (h.withGroups (h.groups.mapGroups work)).groups.live? e.1
      e.2.token = some (work e.2) :=
    GroupTable.live?_eq_some_iff.mpr
      ⟨List.mem_map.mpr ⟨e, he, rfl⟩, htok e.2⟩
  rw [Function.comp_apply, releaseIfIdle, hlive]
  dsimp only
  rw [hcon]

-- ============================================== one connection, changed

/-- A live group that is replaced stays live under its token. -/
theorem live?_replaced (g' : Group)
    (hl : h.groups.live? id token = some g) (htok : g'.token = token) :
    (h.withGroups (h.groups.update id fun _ => g')).groups.live? id token
      = some g' := by
  obtain ⟨hg, -⟩ := GroupTable.live?_eq_some_iff.mp hl
  have hsome : (h.groups.find? id).isSome := by
    rw [GroupTable.find?_eq_some_iff.mpr hg]
    rfl
  rw [GroupTable.live?_eq_some_iff]
  exact ⟨GroupTable.find?_eq_some_iff.mp (GroupTable.find?_update_const hsome),
    htok⟩

/-- Erasing a provider forgets what its group was replaced by. -/
theorem entries_erase_update {g' : Group} :
    ((h.groups.update id fun _ => g').erase id).entries
      = (h.groups.erase id).entries := by
  rw [GroupTable.entries_erase, GroupTable.entries_update_const,
    GroupTable.entries_erase, List.filter_map]
  have hfst : ((fun e : ProviderId × Group => decide (e.1 ≠ id)) ∘
      fun e => if e.1 = id then (e.1, g') else e)
      = fun e => decide (e.1 ≠ id) := by
    funext e
    rw [Function.comp_apply]
    split <;> simp_all
  rw [hfst]
  refine (List.map_congr_left fun e he => ?_).trans (List.map_id _)
  have hne : e.1 ≠ id := by simpa using List.of_mem_filter he
  rw [if_neg hne]
  rfl

/-- Changing the group of one connection and then looking at it keeps the
group if it is left with work. -/
theorem entries_change {work : Group → Group} {l : Link}
    (hb : h.groups.Busy) (hl : h.groups.live? l.provider l.token = some g)
    (htok : (work g).token = g.token)
    (hret : (work g).retired = g.retired) :
    ((h.withGroups (h.groups.update l.provider fun _ => work g)).retireIfIdle
        l.provider l.token).host.groups.entries
      = h.groups.kept (l.only work) := by
  obtain ⟨hg, htoken⟩ := GroupTable.live?_eq_some_iff.mp hl
  rw [entries_retireIfIdle (live?_replaced _ hl (htok.trans htoken))
    (hret.trans (hb _ hg).1), GroupTable.kept_only hb hl]
  split
  · exact entries_erase_update
  · rfl

/-- Changing the group of one connection and then looking at it owes its
release if it is left without work. -/
theorem calls_change {work : Group → Group} {l : Link}
    (hb : h.groups.Busy) (hl : h.groups.live? l.provider l.token = some g)
    (htok : (work g).token = g.token)
    (hret : (work g).retired = g.retired)
    (hcon : (work g).connecting = g.connecting) :
    ((h.withGroups (h.groups.update l.provider fun _ => work g)).retireIfIdle
        l.provider l.token).calls
      = h.groups.released (l.only work) := by
  obtain ⟨hg, htoken⟩ := GroupTable.live?_eq_some_iff.mp hl
  rw [calls_retireIfIdle (live?_replaced _ hl (htok.trans htoken))
    (hret.trans (hb _ hg).1), GroupTable.released_only hb hl, hcon]

end Host

end SpellSessions
