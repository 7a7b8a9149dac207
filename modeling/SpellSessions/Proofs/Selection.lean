/-
The default provider: what is chosen from what is known.

Whatever is preferred, the choice is a known provider (`mem_of_choose`), and
there is one unless nothing is known (`choose_eq_none_iff`). A preference
that names a provider decides; one that names none leaves the choice to the
locale, as if there were no preference. A preference for a package is a
preference for a name, and providers go by names too
(`choose_of_package_iff`).
-/
import SpellSessions.Proofs.Registry
import SpellSessions.Selection

namespace SpellSessions.DefaultRule

variable {rule : DefaultRule} {r : Registry} {preference : Option String}
  {system : Locale} {p : Provider}

-- ======================================================== the candidates

/-- A preference that is a text names a provider by its id; failing that,
the first provider of a package. -/
theorem preferred?_some {wanted : String} (h : wanted ≠ "") :
    preferred? r (some wanted)
      = (r.get? wanted).or (r.providers.find? (·.package = wanted)) := by
  unfold preferred?
  dsimp only
  rw [if_neg]
  rwa [String.isEmpty_iff]

theorem mem_of_preferred (h : preferred? r preference = some p) :
    p ∈ r.providers := by
  unfold preferred? at h
  split at h
  · cases h
  · split at h
    · cases h
    · rcases Option.or_eq_some_iff.mp h with hid | ⟨-, hpackage⟩
      · exact (Registry.mem_of_get? hid).1
      · exact List.mem_of_find?_eq_some hpackage

theorem mem_of_matching {ladder : List Locale}
    (h : matching? r ladder = some p) : p ∈ r.providers := by
  obtain ⟨rung, -, hp⟩ := List.exists_of_findSome?_eq_some h
  exact List.mem_of_find?_eq_some hp

-- ============================================================ the choice

/-- The choice is a known provider. -/
theorem mem_of_choose
    (h : (rule.choose r preference system).value = some p) :
    p ∈ r.providers := by
  unfold choose at h
  split at h
  · cases h
  · split at h
    · next q hq =>
        cases h
        exact mem_of_preferred hq
    · split at h
      · next q hq =>
          cases h
          exact mem_of_matching hq
      · exact List.mem_of_mem_head? h

/-- There is a choice unless no provider is known. -/
theorem choose_eq_none_iff :
    (rule.choose r preference system).value = none ↔ r.isEmpty = true := by
  unfold choose
  split
  · next hempty => exact iff_of_true rfl hempty
  · next hsome =>
      refine iff_of_false ?_ hsome
      split
      · exact nofun
      · split
        · exact nofun
        · intro hhead
          rw [List.head?_eq_none_iff] at hhead
          exact hsome (List.isEmpty_iff.mpr hhead)

/-- A preference that names a provider decides. -/
theorem choose_of_preferred (h : preferred? r preference = some p) :
    (rule.choose r preference system).value = some p := by
  have hsome : r.isEmpty = false :=
    List.isEmpty_eq_false_iff.mpr (List.ne_nil_of_mem (mem_of_preferred h))
  unfold choose
  rw [if_neg (Bool.eq_false_iff.mp hsome), h]

/-- A preference that names no provider leaves the choice to the locale. -/
theorem choose_of_not_preferred (h : preferred? r preference = none) :
    rule.choose r preference system = rule.choose r none system := by
  unfold choose
  rw [h]
  rfl

-- =========================================== a preference for a package

variable {package : String}

/-- A package that a provider belongs to names one, if the package has a
name. -/
theorem exists_preferred (hname : package ≠ "")
    (hlisted : ∃ q ∈ r.providers, q.package = package) :
    ∃ p, preferred? r (some package) = some p := by
  obtain ⟨q, hq, hpackage⟩ := hlisted
  have hfirst : (r.providers.find? (·.package = package)).isSome = true :=
    List.find?_isSome.mpr ⟨q, hq, decide_eq_true hpackage⟩
  rw [preferred?_some hname, ← Option.isSome_iff_exists, Option.isSome_or,
    hfirst, Bool.or_true]

/-- What a package names belongs to it if no provider of another package
goes by its name. -/
theorem package_of_preferred (hname : package ≠ "")
    (hnamesake : ∀ q, r.get? package = some q → q.package = package)
    (h : preferred? r (some package) = some p) : p.package = package := by
  rw [preferred?_some hname] at h
  rcases Option.or_eq_some_iff.mp h with hid | ⟨-, hfirst⟩
  · exact hnamesake p hid
  · have hpackage := List.find?_some hfirst
    exact of_decide_eq_true hpackage

/-- Where some provider belongs to a package, a preference for it chooses one
that does if and only if no provider of another package goes by the name of
the package, and the locale chooses one if the package has no name. -/
theorem choose_of_package_iff (hr : r.Sound)
    (hlisted : ∃ q ∈ r.providers, q.package = package) :
    (∃ q, (rule.choose r (some package) system).value = some q
        ∧ q.package = package)
      ↔ (∀ q, r.get? package = some q → q.package = package)
        ∧ (package = "" → ∀ q,
            (rule.choose r none system).value = some q →
              q.package = package) := by
  by_cases hname : package = ""
  · -- without a name it is no preference, and no id is empty either
    subst hname
    rw [choose_of_not_preferred rfl, hr.get?_empty]
    constructor
    · rintro ⟨q, hq, hpackage⟩
      refine ⟨nofun, fun _ q' hq' => ?_⟩
      cases hq.symm.trans hq'
      exact hpackage
    · rintro ⟨-, hall⟩
      obtain ⟨q₀, hq₀, -⟩ := hlisted
      obtain ⟨q, hq⟩ : ∃ q, (rule.choose r none system).value = some q := by
        rw [← Option.ne_none_iff_exists', Ne, choose_eq_none_iff]
        exact fun hempty =>
          List.ne_nil_of_mem hq₀ (List.isEmpty_iff.mp hempty)
      exact ⟨q, hq, hall rfl q hq⟩
  · obtain ⟨p, hp⟩ := exists_preferred hname hlisted
    rw [choose_of_preferred hp]
    constructor
    · rintro ⟨q, hq, hpackage⟩
      cases hq
      refine ⟨fun q' hq' => ?_, fun hempty => absurd hempty hname⟩
      rw [preferred?_some hname, hq', Option.some_or] at hp
      cases hp
      exact hpackage
    · rintro ⟨hnamesake, -⟩
      exact ⟨p, rfl, package_of_preferred hname hnamesake hp⟩

end SpellSessions.DefaultRule
