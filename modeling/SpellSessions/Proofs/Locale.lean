/-
Locales and their texts.

The canonical text of a locale that was read from a tag, cut at its
separators, gives the parts of the tag in canonical spelling
(`toList_render`), and these parts stand for the same locale as the parts
of the tag (`ofSubtags_canonical`). So the text of such a locale says what it
is (`Legible`): it is the text of no other one (`Legible.eq_of_render`), and
the language is what stands before the first separator
(`Legible.takeWhile_render`).

Every locale there is can be told so by its text: a locale is read from a
tag, is a bare language, or is a rung of the ladder of one
(`Built.legible`).
-/
import Mathlib
import SpellSessions.Locale.Ladder

namespace SpellSessions.Locale

variable {l m : Locale} {part : List Char} {parts rest : List (List Char)}
  {system : Locale} {extra : List Locale}

-- ============================================================ characters

/-- A letter separates nothing. -/
theorem isSeparator_of_isAlpha {c : Char} (h : c.isAlpha = true) :
    isSeparator c = false := by
  rw [isSeparator, Bool.or_eq_false_iff]
  constructor
  · rw [decide_eq_false_iff_not]
    rintro rfl
    revert h
    decide
  · rw [decide_eq_false_iff_not]
    rintro rfl
    revert h
    decide

@[simp] theorem isSeparator_toLower (c : Char) :
    isSeparator c.toLower = isSeparator c := by
  by_cases h : c.isAlpha = true
  · rw [isSeparator_of_isAlpha h, isSeparator_of_isAlpha]
    simpa using h
  · rw [Char.toLower_eq_of_not_isUpper]
    simp only [Char.isAlpha, Bool.or_eq_true, not_or] at h
    exact h.1

@[simp] theorem isSeparator_toUpper (c : Char) :
    isSeparator c.toUpper = isSeparator c := by
  by_cases h : c.isAlpha = true
  · rw [isSeparator_of_isAlpha h, isSeparator_of_isAlpha]
    simpa using h
  · rw [Char.toUpper_eq_of_not_isLower]
    simp only [Char.isAlpha, Bool.or_eq_true, not_or] at h
    exact h.2

/-- A digit has no other case. -/
theorem toUpper_of_isDigit {c : Char} (h : c.isDigit = true) :
    c.toUpper = c := by
  apply Char.toUpper_eq_of_not_isLower
  simp only [Char.isDigit, Char.isLower, UInt32.le_iff_toNat_le,
    Bool.and_eq_true, decide_eq_true_eq] at h ⊢
  simp only [UInt32.reduceToNat, Char.reduceVal] at h ⊢
  omega

-- =============================================== cutting and joining parts

/-- Parts without separators in them, as a cut leaves them. -/
def Cut (parts : List (List Char)) : Prop :=
  ∀ part ∈ parts, ∀ c ∈ part, isSeparator c = false

theorem cut_cons : Cut (part :: parts)
    ↔ (∀ c ∈ part, isSeparator c = false) ∧ Cut parts :=
  List.forall_mem_cons

theorem cut_subtags (cs : List Char) : Cut (subtags cs) :=
  fun _ hpart => Text.not_separator_of_mem_split hpart

/-- A cut undoes a join. -/
theorem subtags_joinSubtags (hne : parts ≠ []) (hcut : Cut parts) :
    subtags (joinSubtags parts) = parts := by
  induction parts with
  | nil => exact absurd rfl hne
  | cons part rest ih =>
      obtain ⟨hpart, hrest⟩ := cut_cons.mp hcut
      cases rest with
      | nil => exact Text.split_of_not_separator hpart
      | cons next more =>
          have hjoin : joinSubtags (part :: next :: more)
              = part ++ '-' :: joinSubtags (next :: more) := rfl
          have htail := ih (List.cons_ne_nil next more) hrest
          unfold subtags at htail ⊢
          rw [hjoin, Text.split_append_cons hpart rfl, htail]

/-- What follows the first of joined parts is written like a variant. -/
theorem joinSubtags_cons (part : List Char) (rest : List (List Char)) :
    joinSubtags (part :: rest)
      = part ++ (renderPart (variantText rest)).toList := by
  cases rest with
  | nil => simp [joinSubtags, variantText, renderPart]
  | cons next more => simp [joinSubtags, variantText, renderPart]

-- ====================================================== canonical spelling

/-- The parts after the language in canonical spelling. -/
def canonicalRest : List (List Char) → List (List Char)
  | [] => []
  | part :: parts =>
    if isRegion part then part.map Char.toUpper :: parts else part :: parts

/-- The parts of a tag in canonical spelling. -/
def canonical : List (List Char) → List (List Char)
  | [] => []
  | first :: rest => first.map Char.toLower :: canonicalRest rest

theorem isLanguage_toLower (part : List Char) :
    isLanguage (part.map Char.toLower) = isLanguage part := by
  simp [isLanguage, Function.comp_def]

theorem languageText_toLower (part : List Char) :
    languageText (part.map Char.toLower) = languageText part := by
  simp [languageText, Function.comp_def]

theorem regionText_toUpper (part : List Char) :
    regionText (part.map Char.toUpper) = regionText part := by
  simp [regionText, Function.comp_def]

/-- A region in upper case is a region. -/
theorem isRegion_toUpper (h : isRegion part = true) :
    isRegion (part.map Char.toUpper) = true := by
  rw [isRegion, Bool.or_eq_true] at h
  rcases h with hletters | hdigits
  · rw [isRegion, Bool.or_eq_true]
    left
    simpa [Function.comp_def] using hletters
  · have hsame : part.map Char.toUpper = part := by
      rw [Bool.and_eq_true, List.all_eq_true] at hdigits
      exact (List.map_congr_left fun c hc =>
        toUpper_of_isDigit (hdigits.2 c hc)).trans (List.map_id part)
    rw [hsame, isRegion, hdigits, Bool.or_true]

theorem splitRegion_canonicalRest (rest : List (List Char)) :
    splitRegion (canonicalRest rest) = splitRegion rest := by
  cases rest with
  | nil => rfl
  | cons part parts =>
      by_cases h : isRegion part = true
      · simp [canonicalRest, splitRegion, h, isRegion_toUpper h,
          regionText_toUpper]
      · simp [canonicalRest, splitRegion, h]

/-- What parts stand for does not hang on their spelling. -/
theorem ofSubtags_canonical (parts : List (List Char)) :
    ofSubtags (canonical parts) = ofSubtags parts := by
  cases parts with
  | nil => rfl
  | cons first rest =>
      simp only [canonical, ofSubtags, isLanguage_toLower,
        languageText_toLower, splitRegion_canonicalRest]

theorem Cut.canonicalRest (h : Cut rest) : Cut (canonicalRest rest) := by
  cases rest with
  | nil => exact h
  | cons part parts =>
      obtain ⟨hpart, hparts⟩ := cut_cons.mp h
      by_cases hregion : isRegion part = true
      · rw [Locale.canonicalRest, if_pos hregion, cut_cons]
        exact ⟨by simpa using hpart, hparts⟩
      · rwa [Locale.canonicalRest, if_neg hregion]

theorem Cut.canonical (h : Cut parts) : Cut (canonical parts) := by
  cases parts with
  | nil => exact h
  | cons first rest =>
      obtain ⟨hfirst, hrest⟩ := cut_cons.mp h
      rw [Locale.canonical, cut_cons]
      exact ⟨by simpa using hfirst, Cut.canonicalRest hrest⟩

-- ==================================================== what parts stand for

theorem ofSubtags_cons (first : List Char) (rest : List (List Char)) :
    ofSubtags (first :: rest)
      = if isLanguage first then
          if (splitRegion rest).2.any List.isEmpty then .error .emptySubtag
          else .ok ⟨languageText first, (splitRegion rest).1,
            variantText (splitRegion rest).2⟩
        else .error .language :=
  rfl

/-- Parts stand for a locale if the first is a language and none of the
variant's is empty. -/
theorem ofSubtags_eq_ok_iff :
    ofSubtags parts = .ok l ↔
      ∃ first rest, parts = first :: rest ∧ isLanguage first = true
        ∧ (splitRegion rest).2.any List.isEmpty = false
        ∧ l = ⟨languageText first, (splitRegion rest).1,
            variantText (splitRegion rest).2⟩ := by
  constructor
  · intro h
    cases parts with
    | nil => cases h
    | cons first rest =>
        rw [ofSubtags_cons] at h
        split at h
        · next hfirst =>
            split at h
            · cases h
            · next hempty =>
                cases h
                exact ⟨first, rest, rfl, hfirst,
                  Bool.eq_false_iff.mpr hempty, rfl⟩
        · cases h
  · rintro ⟨first, rest, rfl, hfirst, hempty, rfl⟩
    rw [ofSubtags_cons, if_pos hfirst, if_neg (Bool.eq_false_iff.mp hempty)]

/-- A region and a variant are written like the parts they were read from. -/
theorem toList_renderRest (rest : List (List Char)) :
    (renderPart (splitRegion rest).1).toList
        ++ (renderPart (variantText (splitRegion rest).2)).toList
      = (renderPart (variantText (canonicalRest rest))).toList := by
  cases rest with
  | nil => rfl
  | cons part parts =>
      by_cases h : isRegion part = true
      · simp [splitRegion, canonicalRest, h, variantText, renderPart,
          joinSubtags_cons, regionText]
      · simp [splitRegion, canonicalRest, h, renderPart]

/-- The text of a locale that was read from parts is these parts joined, in
canonical spelling. -/
theorem toList_render (h : ofSubtags parts = .ok l) :
    l.render.toList = joinSubtags (canonical parts) := by
  obtain ⟨first, rest, rfl, -, -, rfl⟩ := ofSubtags_eq_ok_iff.mp h
  rw [canonical, joinSubtags_cons, ← toList_renderRest]
  simp [render, languageText]

-- ======================================================= legible locales

/-- A locale that the parts of its own text stand for. -/
def Legible (l : Locale) : Prop :=
  ofSubtags (subtags l.render.toList) = .ok l

/-- A locale is legible if any parts stand for it. -/
theorem legible_of_ofSubtags (hcut : Cut parts)
    (h : ofSubtags parts = .ok l) : l.Legible := by
  have hne : canonical parts ≠ [] := by
    obtain ⟨first, rest, rfl, -⟩ := ofSubtags_eq_ok_iff.mp h
    exact List.cons_ne_nil _ _
  unfold Legible
  rw [toList_render h, subtags_joinSubtags hne hcut.canonical,
    ofSubtags_canonical, h]

theorem legible_of_parse {tag : String} (h : parse tag = .ok l) :
    l.Legible := by
  unfold parse ofTrimmed at h
  split at h
  · cases h
  · cases hparts : ofSubtags (subtags (Text.trim tag.toList)) with
    | error fault =>
        rw [hparts] at h
        cases h
    | ok read =>
        rw [hparts] at h
        cases h
        exact legible_of_ofSubtags (cut_subtags _) hparts

theorem cut_of_isLanguage (h : isLanguage part = true) : Cut [part] := by
  intro p hp c hc
  cases List.mem_singleton.mp hp
  simp only [isLanguage, Bool.and_eq_true, List.all_eq_true] at h
  exact isSeparator_of_isAlpha (h.2 c hc)

theorem legible_of_ofLanguage {language : String}
    (h : ofLanguage language = .ok l) : l.Legible := by
  unfold ofLanguage at h
  split at h
  · next hlanguage =>
      cases h
      apply legible_of_ofSubtags (cut_of_isLanguage hlanguage)
      exact ofSubtags_eq_ok_iff.mpr ⟨_, [], rfl, hlanguage, rfl, rfl⟩
  · cases h

theorem Legible.bareLanguage (h : l.Legible) : l.bareLanguage.Legible := by
  obtain ⟨first, rest, -, hfirst, -, hl⟩ := ofSubtags_eq_ok_iff.mp h
  apply legible_of_ofSubtags (cut_of_isLanguage hfirst)
  refine ofSubtags_eq_ok_iff.mpr ⟨first, [], rfl, hfirst, rfl, ?_⟩
  rw [Locale.bareLanguage, hl]
  rfl

theorem Legible.withoutVariant (h : l.Legible)
    (hm : l.withoutVariant? = some m) : m.Legible := by
  obtain ⟨first, rest, hparts, hfirst, -, hl⟩ := ofSubtags_eq_ok_iff.mp h
  obtain ⟨region, hregion, rfl⟩ := Option.map_eq_some_iff.mp hm
  have hcut := hparts ▸ cut_subtags l.render.toList
  rw [hl] at hregion
  cases rest with
  | nil => cases hregion
  | cons part parts =>
      by_cases hpart : isRegion part = true
      · have hsplit : splitRegion [part] = (some region, []) := by
          simpa [splitRegion, hpart] using hregion
        have hboth : Cut [first, part] :=
          fun p hp => hcut p (by grind)
        apply legible_of_ofSubtags hboth
        refine ofSubtags_eq_ok_iff.mpr ⟨first, [part], rfl, hfirst, ?_, ?_⟩
        · rw [hsplit]
          rfl
        · rw [hsplit, hl]
          rfl
      · simp [splitRegion, hpart] at hregion

theorem legible_enUS : enUS.Legible := by
  unfold Legible
  rfl

theorem legible_enGB : enGB.Legible := by
  unfold Legible
  rfl

-- ===================================================== what a text tells

/-- A legible locale is told by its text. -/
theorem Legible.eq_of_render (hl : l.Legible) (hm : m.Legible)
    (h : l.render = m.render) : l = m := by
  unfold Legible at hl hm
  rw [h, hm] at hl
  cases hl
  rfl

/-- The language of a legible locale is one in lower case. -/
theorem Legible.isLanguage (h : l.Legible) :
    isLanguage l.language.toList = true := by
  obtain ⟨first, rest, -, hfirst, -, rfl⟩ := ofSubtags_eq_ok_iff.mp h
  rwa [languageText, String.toList_ofList, isLanguage_toLower]

theorem Legible.language_not_separator (h : l.Legible) :
    ∀ c ∈ l.language.toList, (!isSeparator c) = true := by
  intro c hc
  have hcut := cut_of_isLanguage h.isLanguage
  rw [hcut _ List.mem_cons_self c hc, Bool.not_false]

/-- A text is the language alone, or goes on with a separator. -/
theorem toList_render_cases (l : Locale) :
    (l.bareLanguage = l ∧ l.render.toList = l.language.toList)
      ∨ ∃ cs, l.render.toList = l.language.toList ++ '-' :: cs := by
  obtain ⟨language, region, variant⟩ := l
  cases region with
  | some region =>
      right
      exact ⟨region.toList ++ (renderPart variant).toList,
        by simp [render, renderPart]⟩
  | none =>
      cases variant with
      | some variant =>
          right
          exact ⟨variant.toList, by simp [render, renderPart]⟩
      | none =>
          left
          exact ⟨rfl, by simp [render, renderPart]⟩

/-- The language is what stands before the first separator. -/
theorem Legible.takeWhile_render (h : l.Legible) :
    l.render.toList.takeWhile (!isSeparator ·) = l.language.toList := by
  have hlanguage := h.language_not_separator
  rcases l.toList_render_cases with ⟨-, htext⟩ | ⟨cs, htext⟩
  · rw [htext, List.takeWhile_eq_self_iff.mpr hlanguage]
  · rw [htext, List.takeWhile_append_of_pos hlanguage,
      List.takeWhile_cons_of_neg (by decide), List.append_nil]

theorem length_le_utf8ByteSize (text : String) :
    text.toList.length ≤ text.utf8ByteSize := by
  have hlist : ∀ cs : List Char, cs.length ≤ String.utf8Len cs := by
    intro cs
    induction cs with
    | nil => exact Nat.le_refl _
    | cons c cs ih =>
        have hsize := c.utf8Size_pos
        rw [String.utf8Len_cons, List.length_cons]
        omega
  have htext := hlist text.toList
  rwa [← String.utf8ByteSize_ofList, String.ofList_toList] at htext

/-- The text of a legible locale has two bytes at least. -/
theorem Legible.two_le_utf8ByteSize (h : l.Legible) :
    2 ≤ l.render.utf8ByteSize := by
  have hlanguage := h.isLanguage
  simp only [Locale.isLanguage, Bool.and_eq_true, decide_eq_true_eq]
    at hlanguage
  have hbytes := length_le_utf8ByteSize l.language
  simp only [render, String.utf8ByteSize_append]
  omega

-- ================================================= a text inside another

/-- A bare language whose code is the beginning of another one. -/
def IsStemOf (l m : Locale) : Prop :=
  l.bareLanguage = l ∧ l.language.toList <+: m.language.toList
    ∧ l.language ≠ m.language

/-- Where a text begins with another one, the languages are the same, or the
other one is a stem. -/
theorem Legible.language_of_start (hl : l.Legible) (hm : m.Legible)
    (h : l.render.toList <+: m.render.toList) :
    l.language = m.language ∨ l.IsStemOf m := by
  obtain ⟨cs, hcs⟩ := h
  have hlanguage := hl.language_not_separator
  have htake := hm.takeWhile_render
  rcases l.toList_render_cases with ⟨hbare, htext⟩ | ⟨tail, htext⟩
  · by_cases hsame : l.language = m.language
    · exact .inl hsame
    · right
      refine ⟨hbare, ?_, hsame⟩
      rw [← htake, ← hcs, htext, List.takeWhile_append_of_pos hlanguage]
      exact List.prefix_append _ _
  · left
    rw [← String.toList_inj, ← htake, ← hcs, htext, List.append_assoc,
      List.takeWhile_append_of_pos hlanguage, List.cons_append,
      List.takeWhile_cons_of_neg (by decide), List.append_nil]

/-- A language that has a stem has more than two letters. -/
theorem IsStemOf.two_lt (h : l.IsStemOf m) (hl : l.Legible) :
    2 < m.language.length := by
  obtain ⟨-, hbegin, hne⟩ := h
  have hlanguage := hl.isLanguage
  simp only [Locale.isLanguage, Bool.and_eq_true, decide_eq_true_eq]
    at hlanguage
  have hlt : l.language.toList.length < m.language.toList.length := by
    apply Nat.lt_of_le_of_ne hbegin.length_le
    intro hlength
    exact hne (String.toList_inj.mp (hbegin.eq_of_length hlength))
  rw [← String.length_toList]
  omega

-- =============================================== where locales come from

theorem mem_fullRung (h : l ∈ system.fullRung) : l = system := by
  unfold fullRung at h
  split at h
  · exact List.mem_singleton.mp h
  · cases h

/-- The own rungs of a system locale generalise it, or are one of the two
kinds of English. -/
theorem mem_ownRungs (h : l ∈ system.ownRungs) :
    l = system ∨ l = system.bareLanguage ∨ system.withoutVariant? = some l
      ∨ l = enUS ∨ l = enGB := by
  unfold ownRungs at h
  split at h
  · rcases List.mem_append.mp h with hfull | hothers
    · exact .inl (mem_fullRung hfull)
    · simp only [List.mem_cons, List.not_mem_nil, or_false] at hothers
      rcases hothers with hfirst | hothers
      · cases hshorter : system.withoutVariant? with
        | none =>
            rw [hshorter, Option.getD_none] at hfirst
            exact .inr (.inl hfirst)
        | some shorter =>
            rw [hshorter, Option.getD_some] at hfirst
            rw [hfirst]
            exact .inr (.inr (.inl rfl))
      · tauto
  · rcases List.mem_append.mp h with hleft | hbare
    · rcases List.mem_append.mp hleft with hfull | hshorter
      · exact .inl (mem_fullRung hfull)
      · exact .inr (.inr (.inl (Option.mem_toList.mp hshorter)))
    · exact .inr (.inl (List.mem_singleton.mp hbare))

theorem mem_ladder (h : l ∈ system.ladder extra) :
    l ∈ system.ownRungs ∨ l ∈ extra := by
  unfold ladder at h
  rcases List.mem_append.mp (List.mem_eraseDups.mp h) with hown | hextra
  · exact .inl hown
  · split at hextra
    · cases hextra
    · exact .inr hextra

/-- The locales that there are: a locale is read from a tag, is the one of a
bare language, or stands on the ladder of a locale. -/
inductive Built : Locale → Prop
  | parsed {tag : String} {l : Locale} (h : parse tag = .ok l) : Built l
  | named {language : String} {l : Locale} (h : ofLanguage language = .ok l) :
      Built l
  | rung {system l : Locale} {extra : List Locale} (hsystem : Built system)
      (hextra : ∀ e ∈ extra, Built e) (h : l ∈ system.ladder extra) : Built l

/-- Whatever a locale comes from, its text tells what it is. -/
theorem Built.legible (h : l.Built) : l.Legible := by
  induction h with
  | parsed h => exact legible_of_parse h
  | named h => exact legible_of_ofLanguage h
  | rung _ _ h hsystem hextra =>
      rcases mem_ladder h with hown | hmem
      · rcases mem_ownRungs hown with rfl | rfl | hshorter | rfl | rfl
        · exact hsystem
        · exact hsystem.bareLanguage
        · exact hsystem.withoutVariant hshorter
        · exact legible_enUS
        · exact legible_enGB
      · exact hextra _ hmem

end SpellSessions.Locale
