/-
The table of live groups: at most one for each provider.

The entries have an order, that of iteration, and no operation depends
on it except where it says so. A changed entry keeps its place, a new
one goes to the end. Nothing promises that order: in a run the table may
be put into any other between two moves.
-/
import SpellSessions.Group

namespace SpellSessions

/-- The live groups, by provider. -/
structure GroupTable where
  entries : List (ProviderId × Group)
  /-- No provider has two groups. -/
  distinct : (entries.map Prod.fst).Nodup
deriving DecidableEq

namespace GroupTable

/-- The table without groups. -/
def empty : GroupTable := ⟨[], List.nodup_nil⟩

/-- The number of groups. -/
def size (t : GroupTable) : Nat :=
  t.entries.length

/-- The group of a provider. -/
def find? (t : GroupTable) (id : ProviderId) : Option Group :=
  List.lookup id t.entries

/-- The group of a provider, provided it belongs to a given token. -/
def live? (t : GroupTable) (id : ProviderId) (token : Token) :
    Option Group :=
  (t.find? id).filter (·.token = token)

-- ============================================================= changes

/-- An entry with its group changed if it is the entry of a given
provider. -/
def changeEntry (id : ProviderId) (change : Group → Group)
    (entry : ProviderId × Group) : ProviderId × Group :=
  if entry.1 = id then (entry.1, change entry.2) else entry

/-- Changing groups changes no provider. -/
theorem map_fst_changeEntry (id : ProviderId) (change : Group → Group)
    (entries : List (ProviderId × Group)) :
    (entries.map (changeEntry id change)).map Prod.fst
      = entries.map Prod.fst := by
  rw [List.map_map]
  refine List.map_congr_left ?_
  intro entry _
  show (changeEntry id change entry).1 = entry.1
  unfold changeEntry
  split <;> rfl

/-- The table with the group of a provider changed. -/
def update (t : GroupTable) (id : ProviderId) (change : Group → Group) :
    GroupTable where
  entries := t.entries.map (changeEntry id change)
  distinct := by
    rw [map_fst_changeEntry]
    exact t.distinct

/-- The table with every group changed. -/
def mapGroups (t : GroupTable) (change : Group → Group) :
    GroupTable where
  entries := t.entries.map fun entry => (entry.1, change entry.2)
  distinct := by
    rw [List.map_map]
    exact t.distinct

/-- The table without the group of a provider. -/
def erase (t : GroupTable) (id : ProviderId) : GroupTable where
  entries := t.entries.filter (·.1 ≠ id)
  distinct := (List.filter_sublist.map Prod.fst).nodup t.distinct

/-- The table with a group for a provider, in place of the one it has
or at the end. -/
def insert (t : GroupTable) (id : ProviderId) (g : Group) :
    GroupTable :=
  if h : id ∈ t.entries.map Prod.fst then
    t.update id fun _ => g
  else
    { entries := t.entries ++ [(id, g)]
      distinct := by
        rw [List.map_append, List.nodup_append]
        refine ⟨t.distinct, List.pairwise_singleton _ _, ?_⟩
        intro a ha b hb heq
        rw [List.map_singleton, List.mem_singleton] at hb
        subst hb
        exact h (heq ▸ ha) }

-- ================================================================ order

/-- The entries by ascending provider. -/
def sorted (t : GroupTable) : List (ProviderId × Group) :=
  t.entries.mergeSort fun a b => a.1 ≤ b.1

end GroupTable

end SpellSessions
