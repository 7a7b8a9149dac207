/-
Subtypes: which of its subtypes a provider is used with.

A selection that follows the locale is made in one pass over the declared
subtypes. The pass finds what two searches would find, the second of them
made only if the first finds nothing (`scanSubtypes_eq`): the first subtype
with the candidate's tag, and the first whose tag the candidate's begins
with. A locale is told by its text, so the first search is for the candidate
itself, and what the second finds is shorter than the candidate
(`automaticSubtype?_of_not_declared`). All of a selection is read off from
there (`selectSubtype_eq_iff`).

# Languages

The second search compares texts and not their parts, and a text may begin
with another one in the middle of its language: `fil` begins with `fi`. So
the subtype for a candidate is one for its language unless it is a bare
language whose code begins the candidate's (`language_of_followed`).
-/
import SpellSessions.Proofs.Locale
import SpellSessions.Proofs.Registry
import SpellSessions.Selection

namespace SpellSessions

variable {p : Provider} {d : Descriptor} {s : ProviderSubtype}
  {subtypes : List ProviderSubtype} {candidate : Locale}
  {stored : SubtypeHash} {allowImplicit : Bool} {input : Option Locale}
  {system : Locale} {provider : Option Provider}
  {chosen : Option ProviderSubtype}

-- ========================================================= what is declared

/-- Where all of a list is read, whatever is read is read from a member of
it. -/
theorem exists_of_forall₂_describes {ts : List SubtypeDescription}
    (h : List.Forall₂ SubtypeDescription.Describes ts subtypes)
    (hs : s ∈ subtypes) : ∃ t ∈ ts, t.Describes s := by
  induction h with
  | nil => cases hs
  | @cons t first ts rest hfirst _ ih =>
      rcases List.mem_cons.mp hs with rfl | hmem
      · exact ⟨t, List.mem_cons_self, hfirst⟩
      · obtain ⟨u, hu, hread⟩ := ih hmem
        exact ⟨u, List.mem_cons_of_mem _ hu, hread⟩

/-- The subtypes of a provider that was read from a descriptor have locales
that were read from tags. -/
theorem Descriptor.built_of_validate (h : d.validate = .ok p)
    (hs : s ∈ p.subtypes) : s.locale.Built := by
  have hread := (validate_eq_ok_iff.mp h).subtypes
  obtain ⟨t, -, ht⟩ := exists_of_forall₂_describes hread hs
  exact .parsed ht.locale

/-- A search for a locale comes back empty where no subtype declares it. -/
theorem find?_locale_eq_none_iff :
    subtypes.find? (·.locale = candidate) = none
      ↔ ∀ s ∈ subtypes, s.locale ≠ candidate := by
  simp [List.find?_eq_none]

-- ================================================= one pass, two searches

/-- A pass finds a subtype with the candidate's tag, else what it remembers,
else the first subtype whose tag covers the candidate's. -/
theorem scanSubtypes_eq (tag : String) (remembered : Option ProviderSubtype)
    (subtypes : List ProviderSubtype) :
    scanSubtypes tag remembered subtypes
      = (subtypes.find? (·.locale.render = tag)).or
          (remembered.or
            (subtypes.find? fun s => tagCovers s.locale.render tag)) := by
  induction subtypes generalizing remembered with
  | nil => simp [scanSubtypes]
  | cons s rest ih =>
      by_cases hsame : s.locale.render = tag
      · simp [scanSubtypes, hsame]
      · cases remembered with
        | some r => simp [scanSubtypes, hsame, ih]
        | none =>
            by_cases hcovers : tagCovers s.locale.render tag = true
            · simp [scanSubtypes, hsame, hcovers, ih]
            · simp [scanSubtypes, hsame, hcovers, ih]

/-- A locale whose text is a proper beginning of another one's. -/
def Locale.Begins (l m : Locale) : Prop :=
  l.render.toList <+: m.render.toList ∧ l.render ≠ m.render

instance (l m : Locale) : Decidable (l.Begins m) :=
  inferInstanceAs (Decidable (_ ∧ _))

/-- The text of a legible locale is long enough to cover and to be
covered. -/
theorem tagCovers_iff {l m : Locale} (hl : l.Legible) (hm : m.Legible) :
    tagCovers l.render m.render = true
      ↔ l.render.toList <+: m.render.toList := by
  have hlong := hl.two_le_utf8ByteSize
  have hlong' := hm.two_le_utf8ByteSize
  simp [tagCovers, hlong, hlong']

section Legible

variable (hsubtypes : ∀ s ∈ subtypes, s.locale.Legible)
  (hcandidate : candidate.Legible)

include hsubtypes hcandidate

/-- To look for the candidate's text is to look for the candidate. -/
theorem find?_render :
    subtypes.find? (·.locale.render = candidate.render)
      = subtypes.find? (·.locale = candidate) := by
  apply List.find?_congr
  intro s hs
  rw [decide_eq_decide]
  constructor
  · exact (hsubtypes s hs).eq_of_render hcandidate
  · exact congrArg Locale.render

/-- A subtype that declares the candidate is chosen, wherever it stands. -/
theorem automaticSubtype?_of_declared
    (h : subtypes.find? (·.locale = candidate) = some s) :
    automaticSubtype? subtypes candidate = some s := by
  rw [automaticSubtype?, scanSubtypes_eq,
    find?_render hsubtypes hcandidate, h, Option.some_or]

/-- Where the candidate is not declared, the first subtype that begins it is
chosen. -/
theorem automaticSubtype?_of_not_declared
    (h : ∀ s ∈ subtypes, s.locale ≠ candidate) :
    automaticSubtype? subtypes candidate
      = subtypes.find? (·.locale.Begins candidate) := by
  rw [automaticSubtype?, scanSubtypes_eq, find?_render hsubtypes hcandidate,
    find?_locale_eq_none_iff.mpr h, Option.none_or, Option.none_or]
  apply List.find?_congr
  intro s hs
  rw [Bool.eq_iff_iff, tagCovers_iff (hsubtypes s hs) hcandidate,
    decide_eq_true_eq, Locale.Begins, iff_self_and]
  intro _ hsame
  exact h s hs ((hsubtypes s hs).eq_of_render hcandidate hsame)

end Legible

-- =========================================================== the selection

/-- A selection that follows the locale: an automatic one, or an implicit one
where nothing is stored. -/
def FollowsLocale (stored : SubtypeHash) (allowImplicit : Bool) : Prop :=
  stored = .automatic ∨ stored = .unset ∧ allowImplicit = true

theorem selectSubtype_of_followsLocale
    (h : FollowsLocale stored allowImplicit) :
    selectSubtype (some p) stored allowImplicit input system
      = automaticSubtype? p.subtypes (input.getD system) := by
  have hother : SubtypeHash.automatic ≠ .unset := by decide
  rcases h with rfl | ⟨rfl, rfl⟩
  · simp [selectSubtype, hother]
  · simp [selectSubtype]

/-- What a selection comes to: how a provider, what is stored and a candidate
locale decide on a subtype. -/
inductive Selects (stored : SubtypeHash) (allowImplicit : Bool)
    (candidate : Locale) : Option Provider → Option ProviderSubtype → Prop
  /-- Nobody has no subtype. -/
  | nobody : Selects stored allowImplicit candidate none none
  /-- Nothing is stored, and nothing is implied. -/
  | nothing {p : Provider} (hstored : stored = .unset)
      (himplicit : allowImplicit = false) :
      Selects stored allowImplicit candidate (some p) none
  /-- A hash is stored: the first subtype with it, if there is one. -/
  | named {p : Provider} (hset : stored ≠ .unset)
      (hnamed : stored ≠ .automatic) :
      Selects stored allowImplicit candidate (some p)
        (p.subtypes.find? (·.hash = stored))
  /-- The first subtype for the very candidate. -/
  | declared {p : Provider} {s : ProviderSubtype}
      (hfollows : FollowsLocale stored allowImplicit)
      (hs : p.subtypes.find? (·.locale = candidate) = some s) :
      Selects stored allowImplicit candidate (some p) (some s)
  /-- No subtype is for the candidate: the first one that begins it, if there
  is one. -/
  | begun {p : Provider} (hfollows : FollowsLocale stored allowImplicit)
      (hnone : ∀ s ∈ p.subtypes, s.locale ≠ candidate) :
      Selects stored allowImplicit candidate (some p)
        (p.subtypes.find? (·.locale.Begins candidate))

/-- The rules leave no case out. -/
theorem exists_selects (stored : SubtypeHash) (allowImplicit : Bool)
    (candidate : Locale) (provider : Option Provider) :
    ∃ chosen, Selects stored allowImplicit candidate provider chosen := by
  cases provider with
  | none => exact ⟨none, .nobody⟩
  | some p =>
      by_cases hfollows : FollowsLocale stored allowImplicit
      · cases hfind : p.subtypes.find? (·.locale = candidate) with
        | some s => exact ⟨some s, .declared hfollows hfind⟩
        | none =>
            have hnone := find?_locale_eq_none_iff.mp hfind
            exact ⟨_, .begun hfollows hnone⟩
      · simp only [FollowsLocale, not_or, not_and, Bool.not_eq_true]
          at hfollows
        obtain ⟨hnamed, himplied⟩ := hfollows
        by_cases hset : stored = .unset
        · exact ⟨none, .nothing hset (himplied hset)⟩
        · exact ⟨_, .named hset hnamed⟩

/-- What the rules select is selected. -/
theorem Selects.selected
    (hprovider : ∀ p, provider = some p → ∃ d : Descriptor, d.validate = .ok p)
    (hcandidate : (input.getD system).Built)
    (h : Selects stored allowImplicit (input.getD system) provider chosen) :
    selectSubtype provider stored allowImplicit input system = chosen := by
  have hlegible : ∀ p, provider = some p →
      ∀ s ∈ p.subtypes, s.locale.Legible := by
    intro p hp s hs
    obtain ⟨d, hd⟩ := hprovider p hp
    exact (d.built_of_validate hd hs).legible
  cases h with
  | nobody => rfl
  | nothing hunset himplicit => simp [selectSubtype, hunset, himplicit]
  | named hset hnamed =>
      simp [selectSubtype, hset, hnamed, Provider.subtype?]
  | declared hfollows hs =>
      rw [selectSubtype_of_followsLocale hfollows]
      exact automaticSubtype?_of_declared (hlegible _ rfl)
        hcandidate.legible hs
  | begun hfollows hnone =>
      rw [selectSubtype_of_followsLocale hfollows]
      exact automaticSubtype?_of_not_declared (hlegible _ rfl)
        hcandidate.legible hnone

/-- The rules select what is selected, and nothing else. -/
theorem selectSubtype_eq_iff
    (hprovider : ∀ p, provider = some p → ∃ d : Descriptor, d.validate = .ok p)
    (hcandidate : (input.getD system).Built) :
    selectSubtype provider stored allowImplicit input system = chosen
      ↔ Selects stored allowImplicit (input.getD system) provider chosen := by
  constructor
  · rintro rfl
    obtain ⟨ruled, hruled⟩ :=
      exists_selects stored allowImplicit (input.getD system) provider
    rwa [hruled.selected hprovider hcandidate]
  · exact Selects.selected hprovider hcandidate

namespace Sample

/-- A provider that declares English twice, the second time for a region. -/
def english : Provider :=
  ⟨"p", "pkg", false,
    [⟨⟨"en", none, none⟩, ""⟩, ⟨⟨"en", some "US", none⟩, ""⟩]⟩

theorem validate_english :
    (declaring "p" ["en", "en-US"]).validate = .ok english := by
  rfl

end Sample

/-- A subtype for the candidate itself is selected before an earlier one that
only begins it. -/
theorem candidate_selected_over_beginning :
    ∃ p s, (Sample.declaring "p" ["en", "en-US"]).validate = .ok p
      ∧ selectSubtype (some p) .automatic false none ⟨"en", some "US", none⟩
          = some s
      ∧ s.locale = ⟨"en", some "US", none⟩ := by
  have hcandidate : (Option.getD none
      (⟨"en", some "US", none⟩ : Locale)).Built :=
    .parsed (show Locale.parse "en-US" = .ok _ from rfl)
  have hprovider : ∀ p, some Sample.english = some p →
      ∃ d : Descriptor, d.validate = .ok p := by
    rintro p hp
    cases hp
    exact ⟨_, Sample.validate_english⟩
  refine ⟨Sample.english, ⟨⟨"en", some "US", none⟩, ""⟩,
    Sample.validate_english, ?_, rfl⟩
  rw [selectSubtype_eq_iff hprovider hcandidate]
  exact .declared (.inl rfl) (by decide)

-- ============================================================= languages

/-- The subtype that is chosen for a candidate is one for its language, or a
bare language whose code begins the candidate's; then no subtype is for the
candidate, and the candidate's language has more than two letters. -/
theorem language_of_followed (hp : d.validate = .ok p)
    (hcandidate : (input.getD system).Built)
    (hfollows : FollowsLocale stored allowImplicit)
    (hs : selectSubtype (some p) stored allowImplicit input system = some s) :
    s.locale.language = (input.getD system).language
      ∨ s.locale.IsStemOf (input.getD system)
        ∧ 2 < (input.getD system).language.length
        ∧ ∀ t ∈ p.subtypes, t.locale ≠ input.getD system := by
  have hsubtypes : ∀ t ∈ p.subtypes, t.locale.Legible :=
    fun t ht => (d.built_of_validate hp ht).legible
  rw [selectSubtype_of_followsLocale hfollows] at hs
  cases hfind : p.subtypes.find? (·.locale = input.getD system) with
  | some t =>
      rw [automaticSubtype?_of_declared hsubtypes hcandidate.legible hfind]
        at hs
      cases hs
      have hlocale := List.find?_some hfind
      left
      rw [of_decide_eq_true hlocale]
  | none =>
      have hnone := find?_locale_eq_none_iff.mp hfind
      rw [automaticSubtype?_of_not_declared hsubtypes hcandidate.legible
        hnone] at hs
      have hmem := hsubtypes s (List.mem_of_find?_eq_some hs)
      have hbegins := List.find?_some hs
      rcases hmem.language_of_start hcandidate.legible
        (of_decide_eq_true hbegins).1 with hsame | hstem
      · exact .inl hsame
      · exact .inr ⟨hstem, hstem.two_lt hmem, hnone⟩

/-- A candidate in a language of two letters keeps its language. -/
theorem english_kept :
    ∃ p s, (Sample.declaring "p" ["en", "en-US"]).validate = .ok p
      ∧ selectSubtype (some p) .automatic false none ⟨"en", some "GB", none⟩
          = some s
      ∧ s.locale.language = "en" := by
  have hcandidate : (Option.getD none
      (⟨"en", some "GB", none⟩ : Locale)).Built :=
    .parsed (show Locale.parse "en-GB" = .ok _ from rfl)
  have hs : selectSubtype (some Sample.english) .automatic false none
      ⟨"en", some "GB", none⟩ = some ⟨⟨"en", none, none⟩, ""⟩ := by
    decide
  refine ⟨_, _, Sample.validate_english, hs, ?_⟩
  rcases language_of_followed Sample.validate_english hcandidate
    (.inl rfl) hs with hsame | ⟨-, hlong, -⟩
  · exact hsame
  · exact absurd hlong (by decide)

/-- A Finnish subtype is chosen for a Filipino candidate. -/
theorem finnish_for_filipino :
    ∃ p s candidate,
      (Sample.declaring "p" ["fi"]).validate = .ok p
        ∧ Locale.parse "fil" = .ok candidate
        ∧ selectSubtype (some p) .automatic false none candidate = some s
        ∧ s.locale.language ≠ candidate.language :=
  ⟨⟨"p", "pkg", false, [⟨⟨"fi", none, none⟩, ""⟩]⟩,
    ⟨⟨"fi", none, none⟩, ""⟩, ⟨"fil", none, none⟩, rfl, rfl, by decide,
    by decide⟩

end SpellSessions
