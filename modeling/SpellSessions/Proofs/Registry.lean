/-
The registry, read by id.

What a descriptor says of a provider is stated apart from the check that it
goes through (`Descriptor.Describes`), and the check makes that provider and
no other (`validate_eq_ok_iff`).

A registry is built from descriptors one by one: one with a blank id is
faulty, and one whose id is taken is passed over. So every known provider
goes by an id of its own, which is not empty (`sound_ofDescriptors`). Such an
id can be stored, and a look-up for it gives back the provider
(`Sound.get?_eq_some_iff`). Whatever is true of a registry because of how it
was built follows from the three things that can come of one descriptor
(`learn_cases`), one descriptor after another (`ofDescriptors_induction`).
-/
import Mathlib.Data.List.Forall2
import Mathlib.Data.List.Nodup
import SpellSessions.Registry

namespace SpellSessions

-- ========================================================== descriptors

/-- A described subtype is one with the locale of its tag and the same
value of the provider's own. -/
structure SubtypeDescription.Describes (t : SubtypeDescription)
    (s : ProviderSubtype) : Prop where
  locale : Locale.parse t.locale = .ok s.locale
  extra : s.extra = t.extra

theorem SubtypeDescription.validate_eq_ok_iff {t : SubtypeDescription}
    {s : ProviderSubtype} : t.validate = .ok s ↔ t.Describes s := by
  unfold SubtypeDescription.validate
  cases hread : Locale.parse t.locale with
  | error fault =>
      constructor
      · intro h
        cases h
      · intro h
        have := hread.symm.trans h.locale
        cases this
  | ok l =>
      constructor
      · intro h
        cases h
        exact ⟨hread, rfl⟩
      · intro h
        obtain ⟨hlocale, hextra⟩ := h
        cases s
        cases hread.symm.trans hlocale
        cases hextra
        rfl

/-- A list is read when every member of it is, each in its place. -/
theorem SubtypeDescription.mapM_validate_eq_ok_iff
    {ts : List SubtypeDescription} {subtypes : List ProviderSubtype} :
    ts.mapM validate = .ok subtypes
      ↔ List.Forall₂ Describes ts subtypes := by
  induction ts generalizing subtypes with
  | nil =>
      rw [List.mapM_nil, List.forall₂_nil_left_iff]
      constructor
      · intro h
        cases h
        rfl
      · intro h
        cases h
        rfl
  | cons t ts ih =>
      rw [List.mapM_cons, List.forall₂_cons_left_iff]
      constructor
      · intro h
        cases hfirst : t.validate with
        | error fault =>
            rw [hfirst] at h
            cases h
        | ok s =>
            cases hrest : ts.mapM validate with
            | error fault =>
                rw [hfirst, hrest] at h
                cases h
            | ok rest =>
                rw [hfirst, hrest] at h
                cases h
                exact ⟨s, rest, validate_eq_ok_iff.mp hfirst,
                  ih.mp hrest, rfl⟩
      · intro h
        obtain ⟨s, rest, hfirst, hrest, rfl⟩ := h
        rw [validate_eq_ok_iff.mpr hfirst, ih.mpr hrest]
        rfl

/-- A descriptor describes a provider when its id is not blank, it asks for
the bind permission, it has at least one subtype, and every tag can be read.
The provider has the descriptor's id, package and system flag, and its
subtypes in the order in which they are declared. -/
structure Descriptor.Describes (d : Descriptor) (p : Provider) : Prop where
  named : ∃ c ∈ d.id.toList, Text.isBlank c = false
  permitted : d.permission = some requiredPermission
  declares : d.subtypes ≠ []
  id : p.id = d.id
  package : p.package = d.package
  system : p.system = d.system
  subtypes : List.Forall₂ SubtypeDescription.Describes d.subtypes p.subtypes

/-- A text is not blank when some character of it is not. -/
theorem Text.isBlankText_eq_false_iff {s : String} :
    isBlankText s = false ↔ ∃ c ∈ s.toList, isBlank c = false := by
  unfold isBlankText
  simp

/-- The check of a descriptor gives what it describes, and a fault where it
describes nothing. -/
theorem Descriptor.validate_eq_ok_iff {d : Descriptor} {p : Provider} :
    d.validate = .ok p ↔ d.Describes p := by
  unfold Descriptor.validate
  constructor
  · intro h
    split at h
    · cases h
    · next hnamed =>
        split at h
        · cases h
        · next hpermitted =>
            split at h
            · cases h
            · next hdeclares =>
                split at h
                · cases h
                · next hread =>
                    cases h
                    exact {
                      named := Text.isBlankText_eq_false_iff.mp
                        (Bool.eq_false_iff.mpr hnamed)
                      permitted := not_not.mp hpermitted
                      declares := fun hnil => hdeclares (by rw [hnil]; rfl)
                      id := rfl
                      package := rfl
                      system := rfl
                      subtypes :=
                        SubtypeDescription.mapM_validate_eq_ok_iff.mp hread }
  · intro h
    have hread := SubtypeDescription.mapM_validate_eq_ok_iff.mpr h.subtypes
    have hdeclares : d.subtypes.isEmpty = false :=
      List.isEmpty_eq_false_iff.mpr h.declares
    have hp : p = ⟨d.id, d.package, d.system, p.subtypes⟩ := by
      rw [← h.id, ← h.package, ← h.system]
    rw [Text.isBlankText_eq_false_iff.mpr h.named, hdeclares, hread,
      if_neg Bool.false_ne_true, if_neg (not_not.mpr h.permitted),
      if_neg Bool.false_ne_true]
    exact congrArg Except.ok hp.symm

/-- A descriptor describes at most one provider. -/
theorem Descriptor.Describes.unique {d : Descriptor} {p q : Provider}
    (hp : d.Describes p) (hq : d.Describes q) : p = q := by
  have := (validate_eq_ok_iff.mpr hp).symm.trans (validate_eq_ok_iff.mpr hq)
  injection this

/-- A described provider does not go by the empty text. -/
theorem Descriptor.Describes.id_ne_empty {d : Descriptor}
    {p : Provider} (h : d.Describes p) : p.id ≠ "" := by
  intro hempty
  obtain ⟨c, hc, -⟩ := h.named
  rw [← h.id, hempty] at hc
  cases hc

namespace Registry

variable {r : Registry} {id : ProviderId} {p : Provider}

-- ============================================================= look-ups

/-- A look-up gives the first provider of the id. -/
theorem get?_eq_find? (r : Registry) (id : ProviderId) :
    r.get? id = r.providers.find? (·.id = id) := by
  unfold get? position?
  rw [r.indexed]
  exact List.find?_eq_bind_findIdx?_getElem?.symm

theorem mem_of_get? (h : r.get? id = some p) : p ∈ r.providers ∧ p.id = id := by
  rw [get?_eq_find?] at h
  have hid := List.find?_some h
  exact ⟨List.mem_of_find?_eq_some h, of_decide_eq_true hid⟩

theorem get?_eq_none_iff : r.get? id = none ↔ ∀ p ∈ r.providers, p.id ≠ id := by
  rw [get?_eq_find?, List.find?_eq_none]
  simp

theorem contains_iff : r.contains id = true ↔ ∃ p ∈ r.providers, p.id = id := by
  unfold contains position?
  rw [r.indexed, List.findIdx?_isSome, List.any_eq_true]
  simp

/-- What the registry gives for an id has that id and is known. -/
theorem get?_eq_some (h : r.get? id = some p) :
    p.id = id ∧ r.contains id = true := by
  obtain ⟨hmem, hid⟩ := mem_of_get? h
  exact ⟨hid, contains_iff.mpr ⟨p, hmem, hid⟩⟩

/-- Every known provider goes by an id of its own. -/
structure Sound (r : Registry) : Prop where
  distinct : (r.providers.map (·.id)).Nodup
  named : ∀ p ∈ r.providers, p.id ≠ ""

/-- A look-up gives exactly the provider of the id. -/
theorem Sound.get?_eq_some_iff (hr : r.Sound) :
    r.get? id = some p ↔ p ∈ r.providers ∧ p.id = id := by
  constructor
  · exact mem_of_get?
  · rintro ⟨hp, rfl⟩
    obtain ⟨q, hq⟩ : ∃ q, r.get? p.id = some q := by
      rw [← Option.isSome_iff_exists, get?_eq_find?, List.find?_isSome]
      exact ⟨p, hp, decide_eq_true rfl⟩
    obtain ⟨hmem, hid⟩ := mem_of_get? hq
    rw [hq, List.inj_on_of_nodup_map hr.distinct hmem hp hid]

/-- No provider goes by the empty text. -/
theorem Sound.get?_empty (hr : r.Sound) : r.get? "" = none := by
  rw [Option.eq_none_iff_forall_ne_some]
  intro p hp
  obtain ⟨hmem, hid⟩ := mem_of_get? hp
  exact hr.named p hmem hid

-- ============================================================= building

/-- What can come of a descriptor: it describes nothing, or a provider whose
id is taken, and the registry stays as it is, or one that is put behind all
others. -/
theorem learn_cases (r : Registry) (d : Descriptor) :
    ((∀ p, ¬ d.Describes p) ∧ (r.learn d).value = r)
      ∨ (∃ p, d.Describes p ∧ r.contains p.id = true
          ∧ (r.learn d).value = r)
      ∨ ∃ p, ∃ hnew : r.contains p.id = false, d.Describes p
          ∧ (r.learn d).value = r.add p hnew := by
  unfold learn
  split
  · next fault hfault =>
      refine .inl ⟨fun p hp => ?_, rfl⟩
      have := hfault.symm.trans (Descriptor.validate_eq_ok_iff.mpr hp)
      cases this
  · next p hp =>
      have hdescribes := Descriptor.validate_eq_ok_iff.mp hp
      split
      · next htaken => exact .inr (.inl ⟨p, hdescribes, htaken, rfl⟩)
      · next hnew =>
          exact .inr (.inr ⟨p, Bool.eq_false_iff.mpr hnew, hdescribes, rfl⟩)

/-- What one more descriptor keeps of a registry and the descriptors that it
was built from, any number of them keep. -/
theorem learnAll_induction {P : List Descriptor → Registry → Prop}
    (hlearn : ∀ seen r d, P seen r → P (seen ++ [d]) (r.learn d).value)
    {seen : List Descriptor} (hr : P seen r) (ds : List Descriptor) :
    P (seen ++ ds) (r.learnAll ds).value := by
  induction ds generalizing r seen with
  | nil =>
      rw [List.append_nil]
      exact hr
  | cons d ds ih =>
      rw [List.append_cons]
      exact ih (hlearn seen r d hr)

/-- What is true of the registry without providers and is kept by one more
descriptor is true of every registry that is built from descriptors. -/
theorem ofDescriptors_induction {P : List Descriptor → Registry → Prop}
    (hempty : P [] empty)
    (hlearn : ∀ seen r d, P seen r → P (seen ++ [d]) (r.learn d).value)
    (ds : List Descriptor) : P ds (ofDescriptors ds).value :=
  learnAll_induction hlearn hempty ds

/-- A provider that is put behind all others has an id that none of them
has. -/
theorem Sound.add (hr : r.Sound) (hnamed : p.id ≠ "")
    (hnew : r.contains p.id = false) : (r.add p hnew).Sound := by
  constructor
  · show ((r.providers ++ [p]).map (·.id)).Nodup
    rw [List.map_append, List.nodup_append]
    refine ⟨hr.distinct, List.nodup_singleton _, ?_⟩
    intro id hmem id' hmem' heq
    obtain ⟨q, hq, rfl⟩ := List.mem_map.mp hmem
    cases List.mem_singleton.mp hmem'
    exact Bool.eq_false_iff.mp hnew (contains_iff.mpr ⟨q, hq, heq⟩)
  · intro q hq
    rcases List.mem_append.mp hq with hbefore | hlast
    · exact hr.named q hbefore
    · cases List.mem_singleton.mp hlast
      exact hnamed

/-- A descriptor that is learned of takes an id that no other provider
has. -/
theorem Sound.learn (hr : r.Sound) (d : Descriptor) :
    (r.learn d).value.Sound := by
  obtain ⟨-, hsame⟩ | ⟨p, -, -, hsame⟩ | ⟨p, hnew, hp, hadd⟩ :=
    r.learn_cases d
  · rw [hsame]
    exact hr
  · rw [hsame]
    exact hr
  · rw [hadd]
    exact hr.add hp.id_ne_empty hnew

theorem sound_empty : empty.Sound where
  distinct := List.nodup_nil
  named := fun _ hp => absurd hp List.not_mem_nil

/-- In a registry that is built from descriptors every provider goes by an
id of its own. -/
theorem sound_ofDescriptors (ds : List Descriptor) :
    (ofDescriptors ds).value.Sound :=
  ofDescriptors_induction (P := fun _ => Sound) sound_empty
    (fun _ _ d hr => hr.learn d) ds

end Registry

end SpellSessions

namespace SpellSessions.Sample

/-- A provider with a subtype for each of some tags, as discovery lists
it. -/
def declaring (id : String) (tags : List String) : Descriptor :=
  ⟨id, "pkg", some requiredPermission, false, tags.map (⟨·, ""⟩)⟩

end SpellSessions.Sample
