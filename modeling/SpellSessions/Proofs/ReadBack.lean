/-
Locales read back from their texts.

The text of a locale that was built is cut into the parts it was made of
(`Built.legible`), so all that could spoil reading it is a blank at one of its
ends. There is none (`Built.isTrimmed_render`). For a locale that was read from
a tag this is so because the canonical text of a tag has its blanks where the
trimmed tag has them (`map_isBlank_joinSubtags`, `map_isBlank_canonical`), a
free variant included; a locale without a variant has no blank in its text at
all (`Legible.not_blank_render`).
-/
import SpellSessions.Locale.Json
import SpellSessions.Proofs.Json.Value
import SpellSessions.Proofs.Ladder
import SpellSessions.Proofs.Tags

namespace SpellSessions.Locale

open Text (isBlank IsTrimmed Cuts)

variable {l m system : Locale} {tag : String} {cs ds part : List Char}
  {parts rest : List (List Char)} {extra : List Locale}

-- ======================================================= where blanks stand

theorem isBlank_toUpper (c : Char) : isBlank c.toUpper = isBlank c := by
  rw [← isBlank_toLower c.toUpper, ← isBlank_toLower c]
  simp

theorem not_blank_of_map_eq {o p : Option Char}
    (h : o.map isBlank = p.map isBlank)
    (ho : ∀ c, o = some c → isBlank c = false) :
    ∀ d, p = some d → isBlank d = false := by
  intro d hd
  rw [hd, Option.map_some, Option.map_eq_some_iff] at h
  obtain ⟨c, hc, hsame⟩ := h
  rw [← hsame]
  exact ho c hc

/-- Whether a text is trimmed hangs on where its blanks stand. -/
theorem isTrimmed_congr (h : cs.map isBlank = ds.map isBlank)
    (hcs : IsTrimmed cs) : IsTrimmed ds where
  first := by
    apply not_blank_of_map_eq ?_ hcs.first
    rw [← List.head?_map, h, List.head?_map]
  last := by
    apply not_blank_of_map_eq ?_ hcs.last
    rw [← List.getLast?_map, h, List.getLast?_map]

/-- A text without blanks is trimmed. -/
theorem isTrimmed_of_not_blank (h : ∀ c ∈ cs, isBlank c = false) :
    IsTrimmed cs where
  first := fun c hc => h c (List.mem_of_head? hc)
  last := fun c hc => h c (List.mem_of_getLast? hc)

theorem joinSubtags_cons_of_ne_nil (part : List Char) (h : rest ≠ []) :
    joinSubtags (part :: rest) = part ++ '-' :: joinSubtags rest := by
  cases rest with
  | nil => exact absurd rfl h
  | cons next more => rfl

/-- A text that was cut and joined has its blanks where they were: one
separator is as little of a blank as the other. -/
theorem map_isBlank_joinSubtags (h : Cuts isSeparator cs parts) :
    (joinSubtags parts).map isBlank = cs.map isBlank := by
  induction h with
  | whole _ => rfl
  | cut _ hc hrest ih =>
      have hjoint : isBlank '-' = false := rfl
      rw [joinSubtags_cons_of_ne_nil _ hrest.ne_nil, List.map_append,
        List.map_append, List.map_cons, List.map_cons, ih, hjoint,
        isBlank_of_isSeparator hc]

/-- Canonical spelling leaves the blanks where they are. -/
theorem map_isBlank_canonical (parts : List (List Char)) :
    (joinSubtags (canonical parts)).map isBlank
      = (joinSubtags parts).map isBlank := by
  have hlower : isBlank ∘ Char.toLower = isBlank := funext isBlank_toLower
  have hupper : isBlank ∘ Char.toUpper = isBlank := funext isBlank_toUpper
  have hrest : ∀ rest,
      (renderPart (variantText (canonicalRest rest))).toList.map isBlank
        = (renderPart (variantText rest)).toList.map isBlank := by
    intro rest
    cases rest with
    | nil => rfl
    | cons part parts =>
        by_cases hregion : isRegion part = true
        · simp [canonicalRest, hregion, variantText, renderPart,
            joinSubtags_cons, hupper]
        · simp [canonicalRest, hregion]
  cases parts with
  | nil => rfl
  | cons first rest =>
      rw [canonical_cons, joinSubtags_cons, joinSubtags_cons, List.map_append,
        List.map_append, List.map_map, hlower, hrest]

/-- A tag that is read has no blanks at the ends of its canonical text. -/
theorem isTrimmed_render_of_parse (h : parse tag = .ok l) :
    IsTrimmed l.render.toList := by
  rw [parse_eq_ok_iff_ofTrimmed, ofTrimmed_eq_ok_iff] at h
  rw [toList_render h]
  refine isTrimmed_congr ?_ (Text.isTrimmed_trim tag.toList)
  rw [map_isBlank_canonical, subtags,
    map_isBlank_joinSubtags (Text.cuts_split _ _)]

-- ================================================= what a text is made of

theorem mem_renderPart {part : Option String} {c : Char} :
    c ∈ (renderPart part).toList
      ↔ ∃ text, part = some text ∧ (c = '-' ∨ c ∈ text.toList) := by
  cases part with
  | none => simp [renderPart]
  | some text => simp [renderPart]

/-- The region of a legible locale is one in upper case. -/
theorem Legible.isRegion {region : String} (h : l.Legible)
    (hregion : l.region = some region) :
    isRegion region.toList = true := by
  obtain ⟨parts, hreads⟩ : ∃ parts, Reads parts l :=
    ⟨_, ofSubtags_eq_ok_iff_reads.mp h⟩
  cases hreads with
  | regional _ hsecond _ =>
      cases hregion
      rw [String.toList_ofList]
      exact isRegion_toUpper (isRegion_iff.mpr hsecond)
  | plain _ _ _ => cases hregion

/-- Outside its variant, a text is letters, digits and `-`. -/
theorem Legible.of_mem_render {c : Char} (h : l.Legible)
    (hc : c ∈ l.render.toList) :
    c.isAlphanum = true ∨ c = '-'
      ∨ ∃ variant, l.variant = some variant ∧ c ∈ variant.toList := by
  rw [render, String.toList_append, String.toList_append, List.mem_append,
    List.mem_append, mem_renderPart, mem_renderPart] at hc
  rcases hc with (hc | ⟨region, hregion, hdash | hc⟩)
    | ⟨variant, hvariant, hdash | hc⟩
  · left
    have hletters := (isLanguage_iff.mp h.isLanguage).2.2 c hc
    rw [Char.isAlphanum, hletters, Bool.true_or]
  · exact .inr (.inl hdash)
  · left
    rcases isRegion_iff.mp (h.isRegion hregion) with
      ⟨-, hletters⟩ | ⟨-, hdigits⟩
    · rw [Char.isAlphanum, hletters c hc, Bool.true_or]
    · rw [Char.isAlphanum, hdigits c hc, Bool.or_true]
  · exact .inr (.inl hdash)
  · exact .inr (.inr ⟨variant, hvariant, hc⟩)

/-- There is no blank in a text without a variant. -/
theorem Legible.not_blank_render (h : l.Legible) (hvariant : l.variant = none) :
    ∀ c ∈ l.render.toList, isBlank c = false := by
  intro c hc
  rcases h.of_mem_render hc with halnum | rfl | ⟨variant, hsome, -⟩
  · rw [Char.isAlphanum, Bool.or_eq_true] at halnum
    rcases halnum with hletter | hdigit
    · exact isBlank_of_isAlpha c hletter
    · exact isBlank_of_isDigit c hdigit
  · rfl
  · rw [hvariant] at hsome
    cases hsome

theorem Legible.isTrimmed_render (h : l.Legible) (hvariant : l.variant = none) :
    IsTrimmed l.render.toList :=
  isTrimmed_of_not_blank (h.not_blank_render hvariant)

/-- The own rungs of a system locale that are not the locale itself have no
variant. -/
theorem variant_of_mem_ownRungs (h : l ∈ system.ownRungs) :
    l = system ∨ l.variant = none := by
  rcases mem_ownRungs h with rfl | rfl | hshorter | rfl | rfl
  · exact .inl rfl
  · exact .inr rfl
  · obtain ⟨region, -, rfl⟩ := Option.map_eq_some_iff.mp hshorter
    exact .inr rfl
  · exact .inr rfl
  · exact .inr rfl

-- ================================================================ the whole

/-- Whatever a locale comes from, there is no blank at an end of its text. -/
theorem Built.isTrimmed_render (h : l.Built) : IsTrimmed l.render.toList := by
  -- on how the locale was built: a rung is the locale itself, one of the extra
  -- ones, or without a variant
  induction h with
  | parsed h => exact isTrimmed_render_of_parse h
  | @named language l h =>
      have hl : l.Built := .named h
      apply hl.legible.isTrimmed_render
      unfold ofLanguage at h
      split at h
      · cases h
        rfl
      · cases h
  | @rung system l extra hsystem hextra h ihsystem ihextra =>
      rcases mem_ladder h with hown | hmem
      · rcases variant_of_mem_ownRungs hown with rfl | hvariant
        · exact ihsystem
        · have hl : l.Built := .rung hsystem hextra h
          exact hl.legible.isTrimmed_render hvariant
      · exact ihextra l hmem

/-- A locale is read back from its text. -/
theorem Built.parse_render (h : l.Built) : parse l.render = .ok l := by
  rw [parse_eq_ok_iff_ofTrimmed, ofTrimmed_eq_ok_iff,
    Text.trim_of_isTrimmed h.isTrimmed_render]
  exact h.legible

theorem Built.bareLanguage (h : l.Built) : l.bareLanguage.Built :=
  .rung h (List.forall_mem_nil _)
    (mem_ladder_iff.mpr (.inl (bareLanguage_mem_ownRungs l)))

theorem Built.withoutVariant (h : l.Built) (hm : l.withoutVariant? = some m) :
    m.Built :=
  .rung h (List.forall_mem_nil _)
    (mem_ladder_iff.mpr (.inl (mem_ownRungs_of_withoutVariant hm)))

/-- A locale is read back from the JSON text of it. -/
theorem Built.ofJson?_toJson (h : l.Built) :
    (Json.parse? l.toJson.compact).bind ofJson? = some l := by
  rw [toJson, (Json.spelled_ofText l.render).parse?_compact,
    Option.bind_some, ofJson?, Json.ofText, Json.text?, Option.bind_some,
    h.parse_render]
  rfl

/-- Writing a locale and reading it undo one another. A locale that was built,
or cut down from one that was, is read back from its text and from its JSON
text; so no two such locales have one text, and to read a tag and write it twice
comes to the same as to do so once. -/
theorem parse_inverse_of_render :
    (∀ l : Locale, l.Built →
        parse l.render = .ok l
          ∧ (Json.parse? l.toJson.compact).bind ofJson? = some l
          ∧ l.bareLanguage.Built
          ∧ ∀ m, l.withoutVariant? = some m → m.Built)
      ∧ (∀ l m : Locale, l.Built → m.Built → l.render = m.render → l = m)
      ∧ ∀ tag, ((parse tag).map render >>= fun text => (parse text).map render)
          = (parse tag).map render := by
  refine ⟨?_, ?_, ?_⟩
  · intro l hl
    exact ⟨hl.parse_render, hl.ofJson?_toJson, hl.bareLanguage,
      fun m => hl.withoutVariant⟩
  · intro l m hl hm htext
    exact hl.legible.eq_of_render hm.legible htext
  · intro tag
    cases htag : parse tag with
    | error e => rfl
    | ok l =>
        have hl : l.Built := .parsed htag
        show (parse l.render).map render = _
        rw [hl.parse_render]

/-- A variant is read back with the blank and the letter in it that are
spelled as they are. -/
theorem valencian_read_back :
    let l : Locale := ⟨"ca", some "ES", some "València x"⟩
    l.Built ∧ l.render = "ca-ES-València x"
      ∧ parse "ca-ES-València x" = .ok l
      ∧ (Json.parse? "\"ca-ES-València x\"").bind ofJson? = some l
      ∧ parse "ca-ES" = .ok ⟨"ca", some "ES", none⟩ := by
  intro l
  have hread : parse " CA_es_València x\u3000" = .ok l := rfl
  have hl : l.Built := .parsed hread
  have htext : l.toJson.compact = "\"ca-ES-València x\"" := by
    decide +kernel
  obtain ⟨hback, -, -⟩ := parse_inverse_of_render
  obtain ⟨hparse, hjson, -, hshorter⟩ := hback l hl
  obtain ⟨hshort, -⟩ := hback _ (hshorter _ rfl)
  rw [htext] at hjson
  exact ⟨hl, rfl, hparse, hjson, hshort⟩

end SpellSessions.Locale
