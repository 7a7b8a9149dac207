/-
Discovery: which of the discovered descriptors a registry lists.

A registry lists the providers that the descriptors describe, and of those
with one id the first. It lists them in the order of discovery, and its
index leads from each id to the one provider of it
(`ofDescriptors_lists`).

# One descriptor more

The providers and the index grow together, and a descriptor is asked for its
id only once it is known to describe something. So the invariant names the
places of the descriptors that were kept (`Keeps`). One more descriptor
changes nothing for the places before its own (`firstOfId_concat_of_lt`), and
it is kept at its own place exactly when nothing before it describes a
provider of its id (`firstOfId_concat_length`). That its id is then free in
the registry, too, is the one step with an argument in it: whatever is
described is listed, or something before it with its id is
(`exists_firstOfId`).
-/
import Mathlib.Data.List.Induction
import SpellSessions.Proofs.Registry

namespace SpellSessions

variable {ds : List Descriptor} {d : Descriptor} {place : Nat}
  {p : Provider} {r : Registry}

-- ===================================================== the first of an id

/-- The descriptor at a place describes a provider, and no descriptor before
it describes one of the same id. -/
structure Descriptor.FirstOfId (ds : List Descriptor) (place : Nat)
    (p : Provider) : Prop where
  described : ∃ d, ds[place]? = some d ∧ d.Describes p
  first : ∀ d ∈ ds.take place, ∀ q, d.Describes q → q.id ≠ p.id

namespace Descriptor

theorem FirstOfId.lt (h : FirstOfId ds place p) : place < ds.length := by
  obtain ⟨d, hd, -⟩ := h.described
  exact (List.getElem?_eq_some_iff.mp hd).1

/-- One descriptor more changes nothing for those before it. -/
theorem firstOfId_concat_of_lt (hlt : place < ds.length) :
    FirstOfId (ds ++ [d]) place p ↔ FirstOfId ds place p := by
  have hat : (ds ++ [d])[place]? = ds[place]? :=
    List.getElem?_append_left hlt
  have hbefore : (ds ++ [d]).take place = ds.take place :=
    List.take_append_of_le_length (Nat.le_of_lt hlt)
  constructor
  · intro h
    exact ⟨hat ▸ h.described, hbefore ▸ h.first⟩
  · intro h
    exact ⟨hat.symm ▸ h.described, hbefore.symm ▸ h.first⟩

/-- The last descriptor is the first of its id when none before it has the
id. -/
theorem firstOfId_concat_length :
    FirstOfId (ds ++ [d]) ds.length p
      ↔ d.Describes p ∧ ∀ e ∈ ds, ∀ q, e.Describes q → q.id ≠ p.id := by
  have hat : (ds ++ [d])[ds.length]? = some d := List.getElem?_concat_length
  have hbefore : (ds ++ [d]).take ds.length = ds := List.take_left
  constructor
  · intro h
    obtain ⟨e, he, hp⟩ := h.described
    cases hat.symm.trans he
    exact ⟨hp, hbefore ▸ h.first⟩
  · intro h
    exact ⟨⟨d, hat, h.1⟩, hbefore.symm ▸ h.2⟩

/-- With one descriptor more, the first of an id is one that was so before,
or the new one. -/
theorem firstOfId_concat :
    FirstOfId (ds ++ [d]) place p
      ↔ FirstOfId ds place p
        ∨ place = ds.length ∧ d.Describes p
          ∧ ∀ e ∈ ds, ∀ q, e.Describes q → q.id ≠ p.id := by
  rcases Nat.lt_trichotomy place ds.length with hlt | rfl | hgt
  · rw [firstOfId_concat_of_lt hlt]
    exact (or_iff_left fun h => Nat.ne_of_lt hlt h.1).symm
  · rw [firstOfId_concat_length]
    constructor
    · intro h
      exact .inr ⟨rfl, h⟩
    · rintro (hold | ⟨-, h⟩)
      · exact absurd hold.lt (Nat.lt_irrefl _)
      · exact h
  · constructor
    · intro h
      have hlt := h.lt
      rw [List.length_append, List.length_singleton] at hlt
      omega
    · rintro (hold | ⟨rfl, -⟩)
      · exact absurd hold.lt (by omega)
      · exact absurd hgt (Nat.lt_irrefl _)

/-- Whatever is described has an id of which there is a first. -/
theorem exists_firstOfId (hd : d ∈ ds) (hp : d.Describes p) :
    ∃ place q, FirstOfId ds place q ∧ q.id = p.id := by
  induction ds using List.reverseRecOn generalizing d p with
  | nil => cases hd
  | append_singleton ds e ih =>
      by_cases hbefore : ∃ c ∈ ds, ∃ q, c.Describes q ∧ q.id = p.id
      · obtain ⟨c, hc, q, hq, hid⟩ := hbefore
        obtain ⟨place, q', hfirst, hid'⟩ := ih hc hq
        exact ⟨place, q', firstOfId_concat.mpr (.inl hfirst),
          hid'.trans hid⟩
      · have hlast : d = e := by
          rcases List.mem_append.mp hd with hmem | hmem
          · exact absurd ⟨d, hmem, p, hp, rfl⟩ hbefore
          · exact List.mem_singleton.mp hmem
        subst hlast
        refine ⟨ds.length, p, firstOfId_concat_length.mpr ⟨hp, ?_⟩, rfl⟩
        intro c hc q hq hid
        exact hbefore ⟨c, hc, q, hq, hid⟩

end Descriptor

open Descriptor (FirstOfId firstOfId_concat exists_firstOfId)

namespace Registry

-- ============================================================ what is kept

/-- A registry that keeps of some descriptors the providers at some places:
they are the first ones of their ids, all of them and in the order of
discovery, and the index says where each of them stands. -/
structure Keeps (ds : List Descriptor) (kept : List (Nat × Provider))
    (r : Registry) : Prop where
  providers : kept.map (·.2) = r.providers
  ascending : kept.Pairwise (·.1 < ·.1)
  firsts : ∀ place p, (place, p) ∈ kept ↔ FirstOfId ds place p
  index : ∀ id i,
    (id, i) ∈ r.index ↔ ∃ p, r.providers[i]? = some p ∧ p.id = id

variable {kept : List (Nat × Provider)}

theorem keeps_empty : Keeps [] [] empty where
  providers := rfl
  ascending := .nil
  firsts := by
    intro place p
    constructor
    · intro h
      cases h
    · intro h
      cases h.lt
  index := by
    intro id i
    simp [empty]

/-- The ids that a registry knows are those that are described. -/
theorem Keeps.contains_iff (h : Keeps ds kept r) (id : ProviderId) :
    r.contains id = true ↔ ∃ d ∈ ds, ∃ p, d.Describes p ∧ p.id = id := by
  rw [Registry.contains_iff]
  constructor
  · intro hknown
    obtain ⟨p, hp, hid⟩ := hknown
    rw [← h.providers] at hp
    obtain ⟨⟨place, q⟩, hkept, rfl⟩ := List.mem_map.mp hp
    obtain ⟨d, hd, hdescribes⟩ := ((h.firsts place q).mp hkept).described
    exact ⟨d, List.mem_of_getElem? hd, q, hdescribes, hid⟩
  · intro hdescribed
    obtain ⟨d, hd, p, hp, hid⟩ := hdescribed
    obtain ⟨place, q, hfirst, hsame⟩ := exists_firstOfId hd hp
    have hkept := (h.firsts place q).mpr hfirst
    have hmem : q ∈ kept.map (·.2) := List.mem_map_of_mem hkept
    rw [h.providers] at hmem
    exact ⟨q, hmem, hsame.trans hid⟩

/-- A descriptor that is the first of no id leaves a registry right as it
is. -/
theorem Keeps.pass (h : Keeps ds kept r)
    (hpass : ∀ p, d.Describes p → r.contains p.id = true) :
    Keeps (ds ++ [d]) kept r where
  providers := h.providers
  ascending := h.ascending
  firsts := by
    intro place p
    rw [h.firsts, firstOfId_concat]
    refine (or_iff_left ?_).symm
    intro hnew
    obtain ⟨-, hp, hfree⟩ := hnew
    obtain ⟨e, he, q, hq, hid⟩ := (h.contains_iff _).mp (hpass p hp)
    exact hfree e he q hq hid
  index := h.index

/-- An index that says where each provider stands says so of one more behind
them. -/
theorem mem_index_add (hnew : r.contains p.id = false)
    (h : ∀ id i,
      (id, i) ∈ r.index ↔ ∃ q, r.providers[i]? = some q ∧ q.id = id)
    (id : ProviderId) (i : Nat) :
    (id, i) ∈ (r.add p hnew).index
      ↔ ∃ q, (r.add p hnew).providers[i]? = some q ∧ q.id = id := by
  show (id, i) ∈ (p.id, r.providers.length) :: r.index
    ↔ ∃ q, (r.providers ++ [p])[i]? = some q ∧ q.id = id
  rw [List.mem_cons, Prod.mk.injEq, h]
  rcases Nat.lt_trichotomy i r.providers.length with hlt | rfl | hgt
  · rw [List.getElem?_append_left hlt]
    exact or_iff_right fun heq => Nat.ne_of_lt hlt heq.2
  · rw [List.getElem?_concat_length, List.getElem?_eq_none (Nat.le_refl _)]
    simp [eq_comm]
  · have hbehind : (r.providers ++ [p])[i]? = none :=
      List.getElem?_eq_none (by
        rw [List.length_append, List.length_singleton]
        omega)
    rw [hbehind, List.getElem?_eq_none (Nat.le_of_lt hgt)]
    simp [Nat.ne_of_gt hgt]

/-- A descriptor that is the first of its id is kept behind all others. -/
theorem Keeps.add (h : Keeps ds kept r) (hp : d.Describes p)
    (hnew : r.contains p.id = false) :
    Keeps (ds ++ [d]) (kept ++ [(ds.length, p)]) (r.add p hnew) where
  providers := by
    rw [List.map_append, h.providers]
    rfl
  ascending := by
    rw [List.pairwise_append]
    refine ⟨h.ascending, List.pairwise_singleton _ _, ?_⟩
    intro before hbefore last hlast
    cases List.mem_singleton.mp hlast
    exact ((h.firsts before.1 before.2).mp hbefore).lt
  firsts := by
    intro place q
    have hfree : ∀ e ∈ ds, ∀ q, e.Describes q → q.id ≠ p.id := by
      intro e he q hq hid
      exact Bool.eq_false_iff.mp hnew
        ((h.contains_iff _).mpr ⟨e, he, q, hq, hid⟩)
    rw [List.mem_append, List.mem_singleton, h.firsts, firstOfId_concat,
      Prod.mk.injEq]
    refine or_congr_right (and_congr_right fun _ => ?_)
    constructor
    · intro hq
      subst hq
      exact ⟨hp, hfree⟩
    · intro hq
      exact hq.1.unique hp
  index := mem_index_add hnew h.index

/-- One turn of the loop. -/
theorem Keeps.learn (h : Keeps ds kept r) (d : Descriptor) :
    ∃ kept', Keeps (ds ++ [d]) kept' (r.learn d).value := by
  obtain ⟨hfault, hsame⟩ | ⟨p, hp, htaken, hsame⟩ | ⟨p, hnew, hp, hadd⟩ :=
    r.learn_cases d
  · rw [hsame]
    exact ⟨kept, h.pass fun p hp => absurd hp (hfault p)⟩
  · rw [hsame]
    refine ⟨kept, h.pass fun q hq => ?_⟩
    rw [hq.unique hp]
    exact htaken
  · rw [hadd]
    exact ⟨_, h.add hp hnew⟩

/-- The whole loop. -/
theorem exists_keeps (ds : List Descriptor) :
    ∃ kept, Keeps ds kept (ofDescriptors ds).value :=
  ofDescriptors_induction (P := fun ds r => ∃ kept, Keeps ds kept r)
    ⟨[], keeps_empty⟩ (fun _ _ d h => h.choose_spec.learn d) ds

-- ========================================================= the whole registry

/-- A registry lists what its descriptors describe, the first of each id, in
the order of discovery. No two of them have one id, a look-up for a text
gives the one provider that goes by it, and what the index holds is, for each
provider, its id and where it stands. -/
theorem ofDescriptors_lists (ds : List Descriptor) :
    let r := (ofDescriptors ds).value
    (∃ kept : List (Nat × Provider),
      kept.map (·.2) = r.providers
        ∧ kept.Pairwise (·.1 < ·.1)
        ∧ ∀ place p, (place, p) ∈ kept ↔ FirstOfId ds place p)
      ∧ (r.providers.map (·.id)).Nodup
      ∧ (∀ s p, r.get? s = some p ↔ p ∈ r.providers ∧ p.id = s)
      ∧ (∀ s, r.contains s = (r.get? s).isSome)
      ∧ ∀ s i,
        (s, i) ∈ r.index ↔ ∃ p, r.providers[i]? = some p ∧ p.id = s := by
  intro r
  obtain ⟨kept, hkeeps⟩ := exists_keeps ds
  have hsound : r.Sound := sound_ofDescriptors ds
  refine ⟨⟨kept, hkeeps.providers, hkeeps.ascending, hkeeps.firsts⟩,
    hsound.distinct, fun s p => hsound.get?_eq_some_iff, fun s => ?_,
    hkeeps.index⟩
  rw [Bool.eq_iff_iff, contains_iff, Option.isSome_iff_exists]
  exact exists_congr fun p => hsound.get?_eq_some_iff.symm

end Registry

end SpellSessions
