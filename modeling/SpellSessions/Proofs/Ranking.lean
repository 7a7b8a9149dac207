/-
The default provider by locale: rungs before places.

Without a preference that names a provider, the choice goes by pairs: a rung
of the ladder and a place in the order of discovery, such that the provider
at that place declares the locale on that rung (`Match`). Rungs are tried one
after the other, each on all providers, so the pair that is found is the
least one in lexicographic order (`isLeast_of_matching`). With the two kinds of
preference before it and the first provider behind it this is the whole rule
(`choose_eq_iff`).

# The top rung

The least pair is on the rung of the system locale itself if any provider
declares it and it is the top rung. It is, unless the locale has a variant
and no region: such a locale is on no rung of its own ladder, which is the
ladder of its bare language (`ladder_of_no_region`). Then the bare language
decides, and a provider that declares the locale is chosen only if it is
chosen for the bare language too (`declaring_chosen_iff`).
-/
import Mathlib.Data.Prod.Lex
import Mathlib.Order.Bounds.Basic
import SpellSessions.Proofs.Selection

namespace SpellSessions

theorem Provider.declares_iff {p : Provider} {l : Locale} :
    p.declares l = true ↔ ∃ s ∈ p.subtypes, s.locale = l := by
  simp [declares]

namespace DefaultRule

variable {rule : DefaultRule} {r : Registry} {preference : Option String}
  {system l : Locale} {ladder : List Locale} {p q : Provider}
  {chosen : Option Provider}

-- ============================================================== matches

/-- A rung of a ladder and a place in the order of discovery, such that the
provider at that place declares the locale on that rung. -/
def Match (r : Registry) (ladder : List Locale) (m : ℕ ×ₗ ℕ) : Prop :=
  ∃ l p, ladder[(ofLex m).1]? = some l
    ∧ r.providers[(ofLex m).2]? = some p ∧ ∃ s ∈ p.subtypes, s.locale = l

/-- The first provider that declares a locale stands before every other one
that does. -/
theorem place_of_declaring (h : r.providers.find? (·.declares l) = some p) :
    ∃ place, r.providers[place]? = some p
      ∧ ∀ (other : ℕ) (q : Provider), r.providers[other]? = some q →
          q.declares l = true → place ≤ other := by
  obtain ⟨-, place, hplace, hp, hbefore⟩ :=
    List.find?_eq_some_iff_getElem.mp h
  refine ⟨place, List.getElem?_eq_some_iff.mpr ⟨hplace, hp⟩, ?_⟩
  intro other q hq hdeclares
  by_contra hlt
  obtain ⟨hother, rfl⟩ := List.getElem?_eq_some_iff.mp hq
  have hnot := hbefore other (by omega)
  simp [hdeclares] at hnot

/-- What is found on the ladder stands at the least of all matches. -/
theorem isLeast_of_matching (h : matching? r ladder = some p) :
    ∃ rung place, IsLeast {m | Match r ladder m} (toLex (rung, place))
      ∧ r.providers[place]? = some p := by
  obtain ⟨above, l, below, rfl, hfirst, habove⟩ :=
    List.findSome?_eq_some_iff.mp h
  obtain ⟨place, hplace, hleast⟩ := place_of_declaring hfirst
  have hdeclares := List.find?_some hfirst
  refine ⟨above.length, place, ⟨?_, ?_⟩, hplace⟩
  · exact ⟨l, p, by simp, hplace, Provider.declares_iff.mp hdeclares⟩
  · rintro m ⟨l', q, hl', hq, hmatch⟩
    rw [← Provider.declares_iff] at hmatch
    rw [Prod.Lex.le_iff]
    dsimp only [ofLex_toLex]
    -- no rung above has a match at all
    have hrung : above.length ≤ (ofLex m).1 := by
      by_contra hlt
      rw [List.getElem?_append_left (by omega)] at hl'
      have hnone := habove l' (List.mem_of_getElem? hl')
      rw [List.find?_eq_none] at hnone
      exact hnone q (List.mem_of_getElem? hq) hmatch
    rcases hrung.lt_or_eq with hlt | hsame
    · exact .inl hlt
    · right
      refine ⟨hsame, hleast _ q hq ?_⟩
      rw [← hsame] at hl'
      simp only [List.getElem?_append_right (Nat.le_refl _), Nat.sub_self,
        List.getElem?_cons_zero, Option.some_inj] at hl'
      rwa [hl']

/-- Nothing is found on the ladder exactly when there is no match. -/
theorem matching?_eq_none_iff :
    matching? r ladder = none ↔ ∀ m, ¬ Match r ladder m := by
  constructor
  · rintro hnone m ⟨l, p, hl, hp, hmatch⟩
    rw [matching?, List.findSome?_eq_none_iff] at hnone
    have hfirst := hnone l (List.mem_of_getElem? hl)
    rw [List.find?_eq_none] at hfirst
    exact hfirst p (List.mem_of_getElem? hp) (Provider.declares_iff.mpr hmatch)
  · intro hnone
    cases hfound : matching? r ladder with
    | none => rfl
    | some p =>
        obtain ⟨rung, place, hleast, -⟩ := isLeast_of_matching hfound
        exact absurd hleast.1 (hnone _)

-- ============================================================== the rule

/-- A preference that leaves the choice to the locale: there is none, or it
is neither the id nor the package of any provider. -/
def NamesNobody (r : Registry) (preference : Option String) : Prop :=
  ∀ wanted, preference = some wanted →
    wanted = "" ∨ ∀ p ∈ r.providers, p.id ≠ wanted ∧ p.package ≠ wanted

theorem preferred?_eq_none_iff :
    preferred? r preference = none ↔ NamesNobody r preference := by
  unfold NamesNobody
  cases preference with
  | none => simp [preferred?]
  | some wanted =>
      by_cases hname : wanted = ""
      · simp [preferred?, hname]
      · simp [preferred?_some hname, Registry.get?_eq_find?, hname,
          List.find?_eq_none, forall_and]

/-- Whom a preference and a ladder decide for among the known providers. -/
inductive Decides (r : Registry) (ladder : List Locale) :
    Option String → Option Provider → Prop
  /-- Nobody is known. -/
  | nobody {preference : Option String} (hnone : r.providers = []) :
      Decides r ladder preference none
  /-- The provider that goes by the preferred name. -/
  | named {wanted : String} {p : Provider} (hname : wanted ≠ "")
      (hp : p ∈ r.providers) (hid : p.id = wanted) :
      Decides r ladder (some wanted) (some p)
  /-- The first provider of the preferred package, if nobody goes by its
  name. -/
  | packaged {wanted : String} {p : Provider} (hname : wanted ≠ "")
      (hid : ∀ q ∈ r.providers, q.id ≠ wanted)
      (hfirst : r.providers.find? (·.package = wanted) = some p) :
      Decides r ladder (some wanted) (some p)
  /-- The provider at the least match, if the preference names nobody. -/
  | matched {preference : Option String} {rung place : ℕ} {p : Provider}
      (hnobody : NamesNobody r preference)
      (hleast : IsLeast {m | Match r ladder m} (toLex (rung, place)))
      (hp : r.providers[place]? = some p) :
      Decides r ladder preference (some p)
  /-- The first provider, if there is no match either. -/
  | first {preference : Option String} {p : Provider}
      (hnobody : NamesNobody r preference) (hnone : ∀ m, ¬ Match r ladder m)
      (hp : r.providers.head? = some p) :
      Decides r ladder preference (some p)

/-- A provider that a preference finds goes by its name, or is the first of
its package. -/
theorem decides_of_preferred (h : preferred? r preference = some p) :
    Decides r ladder preference (some p) := by
  cases preference with
  | none => cases h
  | some wanted =>
      have hname : wanted ≠ "" := by
        rintro rfl
        cases h
      rw [preferred?_some hname] at h
      rcases Option.or_eq_some_iff.mp h with hid | ⟨hid, hfirst⟩
      · obtain ⟨hp, hsame⟩ := Registry.mem_of_get? hid
        exact .named hname hp hsame
      · exact .packaged hname (Registry.get?_eq_none_iff.mp hid) hfirst

/-- The rule leaves no case out. -/
theorem exists_decides (r : Registry) (ladder : List Locale)
    (preference : Option String) :
    ∃ chosen, Decides r ladder preference chosen := by
  cases hproviders : r.providers with
  | nil => exact ⟨none, .nobody hproviders⟩
  | cons head rest =>
      cases hpreferred : preferred? r preference with
      | some p => exact ⟨some p, decides_of_preferred hpreferred⟩
      | none =>
          have hnobody := preferred?_eq_none_iff.mp hpreferred
          cases hmatching : matching? r ladder with
          | some p =>
              obtain ⟨rung, place, hleast, hp⟩ :=
                isLeast_of_matching hmatching
              exact ⟨some p, .matched hnobody hleast hp⟩
          | none =>
              have hnone := matching?_eq_none_iff.mp hmatching
              exact ⟨some head, .first hnobody hnone (by simp [hproviders])⟩

/-- Without a preference that names a provider the ladder is asked, and then
the order of discovery. -/
theorem choose_of_namesNobody (hsome : r.providers ≠ [])
    (h : NamesNobody r preference) :
    (rule.choose r preference system).value
      = (matching? r (system.ladder rule.fallbacks)).or
          r.providers.head? := by
  have hempty : r.isEmpty = false := List.isEmpty_eq_false_iff.mpr hsome
  unfold choose
  rw [if_neg (Bool.eq_false_iff.mp hempty), preferred?_eq_none_iff.mpr h]
  cases matching? r (system.ladder rule.fallbacks) with
  | some p => rfl
  | none => rfl

/-- Whom the rule decides for is chosen. -/
theorem Decides.choose_eq (hr : r.Sound)
    (h : Decides r (system.ladder rule.fallbacks) preference chosen) :
    (rule.choose r preference system).value = chosen := by
  cases h with
  | nobody hnone =>
      rw [choose_eq_none_iff, Registry.isEmpty, hnone]
      rfl
  | named hname hp hid =>
      have hget := hr.get?_eq_some_iff.mpr ⟨hp, hid⟩
      apply choose_of_preferred
      rw [preferred?_some hname, hget, Option.some_or]
  | packaged hname hid hfirst =>
      have hget := Registry.get?_eq_none_iff.mpr hid
      apply choose_of_preferred
      rw [preferred?_some hname, hget, Option.none_or, hfirst]
  | @matched _ rung place p hnobody hleast hp =>
      have hsome := List.ne_nil_of_mem (List.mem_of_getElem? hp)
      rw [choose_of_namesNobody hsome hnobody]
      cases hfound : matching? r (system.ladder rule.fallbacks) with
      | none => exact absurd hleast.1 (matching?_eq_none_iff.mp hfound _)
      | some q =>
          obtain ⟨rung', place', hleast', hq⟩ := isLeast_of_matching hfound
          cases toLex_inj.mp (hleast.unique hleast')
          rw [Option.some_or, ← hp, hq]
  | first hnobody hnone hp =>
      have hsome := List.ne_nil_of_mem (List.mem_of_mem_head? hp)
      rw [choose_of_namesNobody hsome hnobody,
        matching?_eq_none_iff.mpr hnone, Option.none_or, hp]

/-- In a registry that is built from descriptors, the choice is whom the rule
decides for. -/
theorem choose_eq_iff (ds : List Descriptor) :
    (rule.choose (Registry.ofDescriptors ds).value preference system).value
        = chosen
      ↔ Decides (Registry.ofDescriptors ds).value
          (system.ladder rule.fallbacks) preference chosen := by
  have hr := Registry.sound_ofDescriptors ds
  constructor
  · rintro rfl
    obtain ⟨ruled, hruled⟩ := exists_decides (Registry.ofDescriptors ds).value
      (system.ladder rule.fallbacks) preference
    rwa [hruled.choose_eq hr]
  · exact Decides.choose_eq hr

end DefaultRule

-- ========================================================== the top rung

namespace Locale

variable {system : Locale} {extra : List Locale}

/-- A locale with a region, or without a variant, is the first of its own
rungs. -/
theorem ownRungs_eq_cons
    (h : system.region.isSome = true ∨ system.variant = none) :
    ∃ rest, system.ownRungs = system :: rest := by
  obtain ⟨language, region, variant⟩ := system
  unfold ownRungs fullRung
  cases region with
  | none =>
      obtain rfl : variant = none := by simpa using h
      by_cases henglish : isEnglish ⟨language, none, none⟩ = true
      · simp [henglish, withoutVariant?, bareLanguage]
      · simp [henglish, withoutVariant?, bareLanguage]
  | some region =>
      cases variant with
      | none =>
          by_cases henglish : isEnglish ⟨language, some region, none⟩ = true
          · simp [henglish, withoutVariant?]
          · simp [henglish, withoutVariant?]
      | some variant =>
          by_cases henglish :
              isEnglish ⟨language, some region, some variant⟩ = true
          · simp [henglish]
          · simp [henglish]

/-- Such a locale stands on the top rung of its own ladder. -/
theorem ladder_eq_cons
    (h : system.region.isSome = true ∨ system.variant = none) :
    ∃ rest, system.ladder extra = system :: rest := by
  obtain ⟨rest, hrest⟩ := ownRungs_eq_cons h
  unfold ladder
  rw [hrest, List.cons_append, List.eraseDups_cons]
  exact ⟨_, rfl⟩

/-- Without a region, a variant makes no difference to the ladder. -/
theorem ladder_of_no_region (h : system.region = none) :
    system.ladder extra = system.bareLanguage.ladder extra := by
  have hown : system.ownRungs = system.bareLanguage.ownRungs := by
    obtain ⟨language, region, variant⟩ := system
    obtain rfl : region = none := h
    rfl
  unfold ladder
  rw [hown]
  rfl

end Locale

namespace DefaultRule

variable {rule : DefaultRule} {r : Registry} {system : Locale}
  {p : Provider}

/-- The first provider that declares the system locale is chosen if and only
if the locale has a region or no variant, or that provider is chosen for the
bare language as well. -/
theorem declaring_chosen_iff
    (hfirst : r.providers.find? (·.declares system) = some p) :
    (rule.choose r none system).value = some p
      ↔ (system.region.isSome = true ∨ system.variant = none)
        ∨ (rule.choose r none system.bareLanguage).value = some p := by
  have hsome : r.providers ≠ [] :=
    List.ne_nil_of_mem (List.mem_of_find?_eq_some hfirst)
  have hnobody : NamesNobody r none := nofun
  by_cases htop : system.region.isSome = true ∨ system.variant = none
  · refine iff_of_true ?_ (.inl htop)
    obtain ⟨rest, hladder⟩ := Locale.ladder_eq_cons htop
    rw [choose_of_namesNobody hsome hnobody, hladder, matching?,
      List.findSome?_cons, hfirst, Option.some_or]
  · rw [or_iff_right htop]
    have hregion : system.region = none := by
      rw [← Option.not_isSome_iff_eq_none]
      exact fun hregion => htop (.inl hregion)
    rw [choose_of_namesNobody hsome hnobody,
      choose_of_namesNobody hsome hnobody, Locale.ladder_of_no_region hregion]

end DefaultRule

namespace Sample

/-- British and American English, in this order of discovery. -/
def englishes : Registry :=
  (Registry.ofDescriptors
    [declaring "p" ["en-GB"], declaring "q" ["en-US"]]).value

/-- Serbian, and Serbian in Latin letters, in this order of discovery. -/
def serbians : Registry :=
  (Registry.ofDescriptors
    [declaring "p" ["sr"], declaring "q" ["sr-latn"]]).value

end Sample

/-- An American system locale chooses the provider that declares it, although
it is the second. -/
theorem american_chosen :
    ∃ p, Sample.englishes.providers.find?
          (·.declares ⟨"en", some "US", none⟩) = some p
      ∧ ((⟨[]⟩ : DefaultRule).choose Sample.englishes none
          ⟨"en", some "US", none⟩).value = some p
      ∧ p.id = "q" := by
  have hfirst : Sample.englishes.providers.find?
      (·.declares ⟨"en", some "US", none⟩)
        = some ⟨"q", "pkg", false, [⟨⟨"en", some "US", none⟩, ""⟩]⟩ := by
    decide
  exact ⟨_, hfirst,
    (DefaultRule.declaring_chosen_iff hfirst).mpr (.inl (.inl rfl)), rfl⟩

/-- A system locale with a variant and no region chooses the provider that
declares its bare language, although another one declares the locale. -/
theorem bare_language_chosen :
    ∃ system p q, Locale.parse "sr-latn" = .ok system
      ∧ Sample.serbians.providers.find? (·.declares system) = some q
      ∧ ((⟨[]⟩ : DefaultRule).choose Sample.serbians none system).value
          = some p
      ∧ p ≠ q :=
  ⟨⟨"sr", none, some "latn"⟩,
    ⟨"p", "pkg", false, [⟨⟨"sr", none, none⟩, ""⟩]⟩,
    ⟨"q", "pkg", false, [⟨⟨"sr", none, some "latn"⟩, ""⟩]⟩,
    rfl, by decide, by decide, by decide⟩

end SpellSessions
