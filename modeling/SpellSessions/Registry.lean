/-
The registry: the providers that are known, in the order of discovery.

A registry is built from descriptors. The valid ones are kept, the first
of each id; a descriptor with a fault, or with an id that is taken, is
passed over with a notice and never stops the rest. A faulty descriptor
takes no id.
-/
import SpellSessions.Notice

namespace SpellSessions

/-- The known providers. -/
structure Registry where
  /-- The providers in the order of discovery. -/
  providers : List Provider
  /-- Where in that order the provider of an id stands, by id. -/
  index : List (ProviderId × Nat)
  /-- The index leads from an id to the first provider of it. -/
  indexed : ∀ id,
    List.lookup id index = providers.findIdx? fun p => decide (p.id = id)
deriving DecidableEq, Repr

namespace Registry

/-- The registry without providers. -/
def empty : Registry := ⟨[], [], fun _ => rfl⟩

/-- The number of known providers. -/
def size (r : Registry) : Nat :=
  r.providers.length

/-- Whether no provider is known. -/
def isEmpty (r : Registry) : Bool :=
  r.providers.isEmpty

/-- Where in the order of discovery the provider of a given id
stands. -/
def position? (r : Registry) (id : ProviderId) : Option Nat :=
  List.lookup id r.index

/-- The provider of a given id. -/
def get? (r : Registry) (id : ProviderId) : Option Provider :=
  (r.position? id).bind (r.providers[·]?)

/-- Whether the provider of a given id is known. -/
def contains (r : Registry) (id : ProviderId) : Bool :=
  (r.position? id).isSome

-- ============================================================ building

/-- An index that is right for some providers is right for one more, once
the place behind them is entered for its id. -/
theorem indexed_concat (r : Registry) {p : Provider}
    (hnew : r.contains p.id = false) (id : ProviderId) :
    List.lookup id ((p.id, r.providers.length) :: r.index)
      = (r.providers ++ [p]).findIdx? fun q => decide (q.id = id) := by
  have hnone : r.providers.findIdx? (fun q => decide (q.id = p.id))
      = none := by
    rw [← r.indexed]
    exact Option.not_isSome_iff_eq_none.mp (Bool.eq_false_iff.mp hnew)
  rw [List.lookup_cons, List.findIdx?_append, List.findIdx?_singleton]
  by_cases hid : id = p.id
  · subst hid
    rw [hnone, beq_self_eq_true, decide_eq_true rfl]
    simp
  · rw [r.indexed, beq_eq_false_iff_ne.mpr hid,
      decide_eq_false (Ne.symm hid)]
    simp

/-- The registry with a provider of a new id behind all others. -/
def add (r : Registry) (p : Provider) (hnew : r.contains p.id = false) :
    Registry where
  providers := r.providers ++ [p]
  index := (p.id, r.providers.length) :: r.index
  indexed := r.indexed_concat hnew

/-- A registry that learns of one more descriptor, and the notices
about it. -/
def learn (r : Registry) (d : Descriptor) : Logged Registry :=
  match d.validate with
  | .error fault => ⟨r, [.invalidProvider d.package fault]⟩
  | .ok p =>
    if h : r.contains p.id then ⟨r, [.duplicateProvider p.id d.package]⟩
    else ⟨r.add p (Bool.eq_false_iff.mpr h), []⟩

/-- A registry that learns of descriptors in turn. -/
def learnAll (r : Registry) : List Descriptor → Logged Registry
  | [] => ⟨r, []⟩
  | d :: ds =>
    let first := r.learn d
    let rest := first.value.learnAll ds
    ⟨rest.value, first.notices ++ rest.notices⟩

/-- The registry of a list of descriptors. -/
def ofDescriptors (ds : List Descriptor) : Logged Registry :=
  let built := empty.learnAll ds
  ⟨built.value, built.notices ++ [.registryRebuilt built.value.size]⟩

end Registry

end SpellSessions
