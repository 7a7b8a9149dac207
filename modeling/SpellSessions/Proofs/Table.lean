/-
The table of live groups, read entry by entry.

No provider stands twice in a table, so a look-up and an entry say the
same thing. What a change does to the entries is said here once for each
change, as a map, a filter or an appended entry; transactions are then
followed through lists alone. The order of the entries is that in which
the groups are walked, and no look-up depends on it (`Host.Reorders`).
-/
import Mathlib.Data.List.Basic
import SpellSessions.Host

namespace SpellSessions

namespace GroupTable

variable {t : GroupTable} {id : ProviderId} {token : Token} {g g' : Group}

/-- A table is its entries. -/
theorem eq_of_entries {t t' : GroupTable} (h : t.entries = t'.entries) :
    t = t' := by
  cases t
  cases h
  rfl

-- ============================================================= look-ups

/-- A table finds exactly its entries. -/
theorem find?_eq_some_iff : t.find? id = some g ↔ (id, g) ∈ t.entries := by
  unfold find?
  have hd := t.distinct
  revert hd
  induction t.entries with
  | nil => intro _; simp
  | cons e rest ih =>
      obtain ⟨k, v⟩ := e
      intro hd
      rw [List.map_cons, List.nodup_cons] at hd
      rw [List.lookup_cons, List.mem_cons, Prod.mk.injEq]
      by_cases hk : id = k
      · subst hk
        have habs : (id, g) ∉ rest := fun hm =>
          hd.1 (List.mem_map.mpr ⟨_, hm, rfl⟩)
        simp [habs, eq_comm]
      · have hbeq : (id == k) = false := by simpa using hk
        simp [hbeq, hk, ih hd.2]

theorem find?_eq_none_iff :
    t.find? id = none ↔ ∀ g, (id, g) ∉ t.entries := by
  rw [Option.eq_none_iff_forall_ne_some]
  exact forall_congr' fun g => not_congr find?_eq_some_iff

/-- A provider has one group. -/
theorem group_unique (h : (id, g) ∈ t.entries)
    (h' : (id, g') ∈ t.entries) : g = g' := by
  rw [← find?_eq_some_iff] at h h'
  exact Option.some.inj (h.symm.trans h')

/-- The live group of a connection is an entry that carries its token. -/
theorem live?_eq_some_iff :
    t.live? id token = some g ↔ (id, g) ∈ t.entries ∧ g.token = token := by
  unfold live?
  rw [Option.filter_eq_some_iff, find?_eq_some_iff, decide_eq_true_eq]

/-- The group of a provider is live under its own token. -/
theorem live?_of_find? (h : t.find? id = some g) :
    t.live? id g.token = some g :=
  live?_eq_some_iff.mpr ⟨find?_eq_some_iff.mp h, rfl⟩

/-- A connection is not live when no entry of its provider carries its
token. -/
theorem live?_eq_none_iff :
    t.live? id token = none
      ↔ ∀ g, (id, g) ∈ t.entries → g.token ≠ token := by
  rw [Option.eq_none_iff_forall_ne_some]
  refine forall_congr' fun g => ?_
  rw [ne_eq, live?_eq_some_iff, not_and]

-- ============================================================== changes

theorem entries_update_const :
    (t.update id fun _ => g).entries
      = t.entries.map fun e => if e.1 = id then (e.1, g) else e := rfl

/-- A group replaced by itself changes no entry. -/
theorem entries_update_same (h : (id, g) ∈ t.entries) :
    (t.update id fun _ => g).entries = t.entries := by
  rw [entries_update_const]
  refine (List.map_congr_left fun e he => ?_).trans (List.map_id _)
  split
  · next hid =>
      have hgroup : g = e.2 := group_unique h (hid ▸ he)
      rw [hgroup]
      rfl
  · rfl

theorem entries_insert (h : t.find? id = none) :
    (t.insert id g).entries = t.entries ++ [(id, g)] := by
  have habs : id ∉ t.entries.map Prod.fst := by
    intro hm
    obtain ⟨⟨k, v⟩, he, rfl⟩ := List.mem_map.mp hm
    exact find?_eq_none_iff.mp h v he
  unfold insert
  rw [dif_neg habs]

theorem entries_erase :
    (t.erase id).entries = t.entries.filter (·.1 ≠ id) := rfl

/-- No link of a provider is live in a table without its group. -/
theorem live?_erase : (t.erase id).live? id token = none := by
  rw [live?_eq_none_iff]
  intro g hg
  rw [entries_erase] at hg
  have hne := List.of_mem_filter hg
  simp at hne

theorem find?_update_const (h : (t.find? id).isSome) :
    (t.update id fun _ => g).find? id = some g := by
  obtain ⟨old, hold⟩ := Option.isSome_iff_exists.mp h
  rw [find?_eq_some_iff] at hold ⊢
  rw [entries_update_const, List.mem_map]
  exact ⟨(id, old), hold, by simp⟩

/-- A change of one group changes no other. -/
theorem find?_update_of_ne {change : Group → Group} {id' : ProviderId}
    (hne : id' ≠ id) : (t.update id change).find? id' = t.find? id' := by
  refine Option.ext fun g => ?_
  rw [find?_eq_some_iff, find?_eq_some_iff]
  show (id', g) ∈ t.entries.map (changeEntry id change) ↔ _
  rw [List.mem_map]
  constructor
  · intro h
    obtain ⟨e, he, heq⟩ := h
    unfold changeEntry at heq
    split at heq
    · next hid =>
        cases heq
        exact absurd hid hne
    · exact heq ▸ he
  · intro h
    exact ⟨(id', g), h, if_neg hne⟩

theorem find?_insert (h : t.find? id = none) :
    (t.insert id g).find? id = some g := by
  rw [find?_eq_some_iff, entries_insert h]
  exact List.mem_append_right _ (List.mem_singleton.mpr rfl)

-- ================================================================ order

/-- The sorted entries are the entries. -/
theorem sorted_perm (t : GroupTable) : t.sorted.Perm t.entries :=
  List.mergeSort_perm _ _

/-- The sorted entries stand by strictly ascending provider. -/
theorem ascending_sorted (t : GroupTable) :
    t.sorted.Pairwise (·.1 < ·.1) := by
  have hsorted : t.sorted.Pairwise fun a b => decide (a.1 ≤ b.1) = true := by
    refine List.pairwise_mergeSort ?_ ?_ t.entries
    · intro a b c hab hbc
      rw [decide_eq_true_eq] at hab hbc ⊢
      exact String.le_trans hab hbc
    · intro a b
      rw [Bool.or_eq_true, decide_eq_true_eq, decide_eq_true_eq]
      exact String.le_total a.1 b.1
  have hdistinct : t.sorted.Pairwise fun a b => a.1 ≠ b.1 :=
    List.pairwise_map.mp ((t.sorted_perm.map _).nodup_iff.mpr t.distinct)
  refine (hsorted.and hdistinct).imp fun {a b} h => ?_
  obtain ⟨hle, hne⟩ := h
  rw [decide_eq_true_eq] at hle
  exact String.not_le.mp fun hge => hne (String.le_antisymm hle hge)

section Perm

variable {t' : GroupTable} (h : t.entries.Perm t'.entries)

include h

/-- Tables that differ in their order only find the same. -/
theorem find?_of_perm (id : ProviderId) : t.find? id = t'.find? id := by
  refine Option.ext fun g => ?_
  rw [find?_eq_some_iff, find?_eq_some_iff]
  exact h.mem_iff

theorem live?_of_perm (id : ProviderId) (token : Token) :
    t.live? id token = t'.live? id token := by
  unfold live?
  rw [find?_of_perm h]

/-- Tables that differ in their order only have the same sorted entries. -/
theorem sorted_eq_of_perm : t.sorted = t'.sorted := by
  have hperm : t.sorted.Perm t'.sorted :=
    t.sorted_perm.trans (h.trans t'.sorted_perm.symm)
  refine hperm.eq_of_pairwise ?_ t.ascending_sorted t'.ascending_sorted
  intro a b _ _ hab hba
  exact absurd hba (String.lt_asymm hab)

end Perm

-- ============================================================== one entry

/-- What looks at one provider's entry only yields what that entry
yields. -/
theorem filterMap_at {α : Type} {f : ProviderId × Group → Option α}
    (id : ProviderId) (hf : ∀ e ∈ t.entries, e.1 ≠ id → f e = none) :
    t.entries.filterMap f
      = ((t.find? id).bind fun g => f (id, g)).toList := by
  unfold find?
  have hd := t.distinct
  revert hd hf
  induction t.entries with
  | nil => intro _ _; rfl
  | cons e rest ih =>
      obtain ⟨k, v⟩ := e
      intro hf hd
      rw [List.map_cons, List.nodup_cons] at hd
      have hrest : ∀ e ∈ rest, e.1 ≠ id → f e = none :=
        fun e he => hf e (List.mem_cons_of_mem _ he)
      rw [List.lookup_cons, List.filterMap_cons]
      by_cases hk : id = k
      · subst hk
        have hnone : rest.filterMap f = [] := by
          rw [List.filterMap_eq_nil_iff]
          intro e he
          refine hrest e he fun heq => hd.1 ?_
          exact List.mem_map.mpr ⟨e, he, heq⟩
        rw [hnone, beq_self_eq_true]
        show _ = (f (id, v)).toList
        cases f (id, v) <;> rfl
      · have hbeq : (id == k) = false := by simpa using hk
        rw [hbeq, hf _ List.mem_cons_self (Ne.symm hk)]
        simpa using ih hrest hd.2

end GroupTable

-- ======================================================= another order

/-- The two hosts are the same but for the order in which their groups are
iterated. -/
structure Host.Reorders (h h' : Host) : Prop where
  entries : h.groups.entries.Perm h'.groups.entries
  registry : h.registry = h'.registry
  user : h.user = h'.user
  active : h.active = h'.active
  tokens : h.tokens = h'.tokens
  requests : h.requests = h'.requests

namespace Host.Reorders

variable {h h' k : Host}

theorem refl (h : Host) : h.Reorders h :=
  ⟨.refl _, rfl, rfl, rfl, rfl, rfl⟩

theorem symm (hr : h.Reorders h') : h'.Reorders h where
  entries := hr.entries.symm
  registry := hr.registry.symm
  user := hr.user.symm
  active := hr.active.symm
  tokens := hr.tokens.symm
  requests := hr.requests.symm

theorem trans (hr : h.Reorders h') (hr' : h'.Reorders k) : h.Reorders k where
  entries := hr.entries.trans hr'.entries
  registry := hr.registry.trans hr'.registry
  user := hr.user.trans hr'.user
  active := hr.active.trans hr'.active
  tokens := hr.tokens.trans hr'.tokens
  requests := hr.requests.trans hr'.requests

/-- A provider has the same group in both. -/
theorem find? (hr : h.Reorders h') (id : ProviderId) :
    h.groups.find? id = h'.groups.find? id :=
  GroupTable.find?_of_perm hr.entries id

theorem live? (hr : h.Reorders h') (id : ProviderId) (token : Token) :
    h.groups.live? id token = h'.groups.live? id token :=
  GroupTable.live?_of_perm hr.entries id token

end Host.Reorders

end SpellSessions
