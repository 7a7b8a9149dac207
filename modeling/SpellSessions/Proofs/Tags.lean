/-
Tags: which texts stand for a locale, and for which.

A text is trimmed, cut at its separators, and its parts are read
(`Denotes`): a first part that names a language, perhaps a second one that
names a region, and parts of a variant, none of them empty (`Reads`). That is
all the reader accepts and all it makes of it (`parse_eq_ok_iff`).

# Respellings

A tag may be spelled with either separator, in any case and with blanks
around it (`Respelling`). Each such change leaves the parts alone but for the
case of the language and the region, and these are lost in the canonical
spelling (`Respelling.canonical_eq`). What is read, or the reason why nothing
is, hangs on no more than that (`ofTrimmed_congr`), so a whole chain of changes
comes to the same (`parse_follows_grammar`).

The argument is short because a trimmed text is cut in one place at a time:
the first separator keeps the blanks in front of the language apart from those
behind the tag (`subtags_trim_append`).
-/
import Mathlib.Logic.Relation
import SpellSessions.Proofs.Locale
import SpellSessions.Proofs.Text

namespace SpellSessions.Locale

open Text (Trims Cuts AllBlank)

variable {l : Locale} {tag : String} {cs ds first part other : List Char}
  {parts rest : List (List Char)} {c : Char}

-- ============================================================== the grammar

/-- Two to eight ASCII letters. -/
def NamesLanguage (part : List Char) : Prop :=
  2 ≤ part.length ∧ part.length ≤ 8 ∧ ∀ c ∈ part, c.isAlpha = true

/-- Two ASCII letters or three ASCII digits. -/
def NamesRegion (part : List Char) : Prop :=
  (part.length = 2 ∧ ∀ c ∈ part, c.isAlpha = true)
    ∨ (part.length = 3 ∧ ∀ c ∈ part, c.isDigit = true)

/-- The variant that parts make up: absent when there are none, and otherwise
the parts with `-` between them. -/
def joined (parts : List (List Char)) : Option String :=
  if parts = [] then none
  else some (String.ofList (['-'].intercalate parts))

/-- What parts stand for. -/
inductive Reads : List (List Char) → Locale → Prop
  /-- A language, a region, and what remains. -/
  | regional {first second : List Char} {rest : List (List Char)}
      (hfirst : NamesLanguage first) (hsecond : NamesRegion second)
      (hrest : [] ∉ rest) :
      Reads (first :: second :: rest)
        ⟨String.ofList (first.map Char.toLower),
          some (String.ofList (second.map Char.toUpper)), joined rest⟩
  /-- A language, and what remains if its first part is no region. -/
  | plain {first : List Char} {rest : List (List Char)}
      (hfirst : NamesLanguage first)
      (hsecond : ∀ second, rest.head? = some second → ¬ NamesRegion second)
      (hrest : [] ∉ rest) :
      Reads (first :: rest)
        ⟨String.ofList (first.map Char.toLower), none, joined rest⟩

/-- What a text stands for: without the blanks around it, it is cut into parts
that stand for it. -/
def Denotes (tag : String) (l : Locale) : Prop :=
  ∃ core parts,
    Trims tag.toList core ∧ Cuts isSeparator core parts ∧ Reads parts l

theorem isLanguage_iff : isLanguage part = true ↔ NamesLanguage part := by
  simp [isLanguage, NamesLanguage, and_assoc]

theorem isRegion_iff : isRegion part = true ↔ NamesRegion part := by
  simp [isRegion, NamesRegion]

theorem NamesRegion.ne_nil (h : NamesRegion part) : part ≠ [] := by
  rintro rfl
  rcases h with ⟨hlength, -⟩ | ⟨hlength, -⟩
  · cases hlength
  · cases hlength

theorem joinSubtags_eq_intercalate (parts : List (List Char)) :
    joinSubtags parts = ['-'].intercalate parts := by
  induction parts with
  | nil => rfl
  | cons part rest ih =>
      cases rest with
      | nil => rw [List.intercalate_singleton, joinSubtags]
      | cons next more =>
          rw [List.intercalate_cons_cons, ← ih, List.append_assoc]
          rfl

theorem variantText_eq_joined (parts : List (List Char)) :
    variantText parts = joined parts := by
  cases parts with
  | nil => rfl
  | cons part rest =>
      rw [variantText, joinSubtags_eq_intercalate, joined,
        if_neg (List.cons_ne_nil part rest)]
      exact List.cons_ne_nil part rest

theorem any_isEmpty_eq_false_iff :
    parts.any List.isEmpty = false ↔ [] ∉ parts := by
  rw [List.any_eq_false]
  constructor
  · intro h hmem
    exact h [] hmem rfl
  · intro h part hpart hempty
    exact h (List.isEmpty_iff.mp hempty ▸ hpart)

-- ============================================================== the reader

/-- The reader makes of parts what they stand for. -/
theorem ofSubtags_eq_ok_iff_reads :
    ofSubtags parts = .ok l ↔ Reads parts l := by
  rw [ofSubtags_eq_ok_iff]
  constructor
  · intro h
    obtain ⟨first, rest, rfl, hfirst, hempty, rfl⟩ := h
    rw [isLanguage_iff] at hfirst
    rw [any_isEmpty_eq_false_iff] at hempty
    rw [variantText_eq_joined]
    cases rest with
    | nil => exact .plain hfirst nofun hempty
    | cons second rest =>
        by_cases hsecond : isRegion second = true
        · rw [splitRegion, if_pos hsecond] at hempty ⊢
          exact .regional hfirst (isRegion_iff.mp hsecond) hempty
        · rw [splitRegion, if_neg hsecond] at hempty ⊢
          rw [isRegion_iff] at hsecond
          apply Reads.plain hfirst ?_ hempty
          intro region hregion
          cases hregion
          exact hsecond
  · intro h
    cases h with
    | @regional first second rest hfirst hsecond hrest =>
        have hsplit : splitRegion (second :: rest)
            = (some (regionText second), rest) := by
          rw [splitRegion, if_pos (isRegion_iff.mpr hsecond)]
        refine ⟨first, second :: rest, rfl, isLanguage_iff.mpr hfirst, ?_, ?_⟩
        · rw [hsplit]
          exact any_isEmpty_eq_false_iff.mpr hrest
        · rw [hsplit, variantText_eq_joined]
          rfl
    | @plain first rest hfirst hsecond hrest =>
        have hsplit : splitRegion rest = (none, rest) := by
          cases rest with
          | nil => rfl
          | cons second rest =>
              rw [splitRegion, if_neg]
              rw [isRegion_iff]
              exact hsecond second rfl
        refine ⟨first, rest, rfl, isLanguage_iff.mpr hfirst, ?_, ?_⟩
        · rw [hsplit]
          exact any_isEmpty_eq_false_iff.mpr hrest
        · rw [hsplit, variantText_eq_joined]
          rfl

/-- Parts stand for something when the first names a language and no other is
empty. -/
theorem exists_reads_iff :
    (∃ l, Reads parts l)
      ↔ ∃ first rest, parts = first :: rest ∧ NamesLanguage first
          ∧ [] ∉ rest := by
  constructor
  · intro h
    obtain ⟨l, h⟩ := h
    cases h with
    | regional hfirst hsecond hrest =>
        refine ⟨_, _, rfl, hfirst, ?_⟩
        rw [List.mem_cons, not_or]
        exact ⟨hsecond.ne_nil.symm, hrest⟩
    | plain hfirst _ hrest => exact ⟨_, _, rfl, hfirst, hrest⟩
  · intro h
    obtain ⟨first, rest, rfl, hfirst, hrest⟩ := h
    cases rest with
    | nil => exact ⟨_, .plain hfirst nofun hrest⟩
    | cons second rest =>
        by_cases hsecond : NamesRegion second
        · have hmore : [] ∉ rest := fun h =>
            hrest (List.mem_cons_of_mem second h)
          exact ⟨_, .regional hfirst hsecond hmore⟩
        · refine ⟨_, .plain hfirst ?_ hrest⟩
          intro region hregion
          cases hregion
          exact hsecond

/-- That a text is empty needs no question of its own. -/
theorem ofTrimmed_eq_ok_iff :
    ofTrimmed cs = .ok l ↔ ofSubtags (subtags cs) = .ok l := by
  cases cs with
  | nil =>
      constructor
      · intro h
        cases h
      · intro h
        cases h
  | cons c cs => rfl

/-- But for the text it quotes, a refusal is one of the trimmed text. -/
theorem mapError_parse (tag : String) :
    (parse tag).mapError (·.fault) = ofTrimmed (Text.trim tag.toList) := by
  unfold parse
  cases ofTrimmed (Text.trim tag.toList) with
  | error fault => rfl
  | ok l => rfl

theorem parse_eq_ok_iff_ofTrimmed :
    parse tag = .ok l ↔ ofTrimmed (Text.trim tag.toList) = .ok l := by
  rw [← mapError_parse]
  cases parse tag with
  | error e => simp [Except.mapError]
  | ok read => simp [Except.mapError]

/-- The reader accepts what the grammar does, and makes the same of it. -/
theorem parse_eq_ok_iff : parse tag = .ok l ↔ Denotes tag l := by
  rw [parse_eq_ok_iff_ofTrimmed, ofTrimmed_eq_ok_iff,
    ofSubtags_eq_ok_iff_reads]
  constructor
  · intro h
    exact ⟨_, _, Text.trims_trim _, Text.cuts_split _ _, h⟩
  · intro h
    obtain ⟨core, parts, hcore, hparts, hreads⟩ := h
    rw [Text.trim_eq_iff.mpr hcore, subtags, Text.split_eq_iff.mpr hparts]
    exact hreads

-- ============================================================== characters

theorem isBlank_of_isAlpha (c : Char) (h : c.isAlpha = true) :
    Text.isBlank c = false := by
  simp only [Char.isAlpha, Char.isUpper, Char.isLower, Bool.or_eq_true,
    Bool.and_eq_true, decide_eq_true_eq, ge_iff_le,
    UInt32.le_iff_toNat_le] at h
  simp only [Char.reduceVal, UInt32.reduceToNat, Char.toNat_val] at h
  simp [Text.isBlank]
  omega

theorem isBlank_of_isDigit (c : Char) (h : c.isDigit = true) :
    Text.isBlank c = false := by
  simp only [Char.isDigit, Bool.and_eq_true, decide_eq_true_eq, ge_iff_le,
    UInt32.le_iff_toNat_le] at h
  simp only [Char.reduceVal, UInt32.reduceToNat, Char.toNat_val] at h
  simp [Text.isBlank]
  omega

theorem isBlank_of_isSeparator (h : isSeparator c = true) :
    Text.isBlank c = false := by
  simp only [isSeparator, Bool.or_eq_true, decide_eq_true_eq] at h
  rcases h with rfl | rfl
  · rfl
  · rfl

theorem isSeparator_of_isDigit (c : Char) (h : c.isDigit = true) :
    isSeparator c = false := by
  by_contra hc
  simp only [isSeparator, Bool.or_eq_true, decide_eq_true_eq,
    Bool.not_eq_false] at hc
  rcases hc with rfl | rfl
  · exact absurd h (by decide)
  · exact absurd h (by decide)

theorem isDigit_of_isAlpha (c : Char) (h : c.isAlpha = true) :
    c.isDigit = false := by
  simp only [Char.isAlpha, Char.isUpper, Char.isLower, Char.isDigit,
    Bool.or_eq_true, Bool.and_eq_true, decide_eq_true_eq, ge_iff_le,
    UInt32.le_iff_toNat_le, Bool.and_eq_false_iff, decide_eq_false_iff_not,
    Char.reduceVal, UInt32.reduceToNat] at h ⊢
  omega

/-- A class of characters without letters does not tell their case. -/
theorem apply_toLower {p : Char → Bool}
    (h : ∀ c : Char, c.isAlpha = true → p c = false) (c : Char) :
    p c.toLower = p c := by
  by_cases hc : c.isAlpha = true
  · rw [h c hc]
    apply h
    simpa using hc
  · rw [Char.toLower_eq_of_not_isUpper]
    simp only [Char.isAlpha, Bool.or_eq_true, not_or] at hc
    exact hc.1

theorem isBlank_toLower (c : Char) :
    Text.isBlank c.toLower = Text.isBlank c :=
  apply_toLower isBlank_of_isAlpha c

theorem NamesRegion.not_blank (h : NamesRegion part) :
    ∀ c ∈ part, Text.isBlank c = false := by
  intro c hc
  rcases h with ⟨-, hletters⟩ | ⟨-, hdigits⟩
  · exact isBlank_of_isAlpha c (hletters c hc)
  · exact isBlank_of_isDigit c (hdigits c hc)

theorem NamesRegion.not_separator (h : NamesRegion part) :
    ∀ c ∈ part, isSeparator c = false := by
  intro c hc
  rcases h with ⟨-, hletters⟩ | ⟨-, hdigits⟩
  · exact isSeparator_of_isAlpha (hletters c hc)
  · exact isSeparator_of_isDigit c (hdigits c hc)

-- ================================================= the case of letters

section Case

variable (hcase : part.map Char.toLower = other.map Char.toLower)

include hcase

theorem not_separator_of_case (h : ∀ c ∈ part, isSeparator c = false) :
    ∀ c ∈ other, isSeparator c = false := by
  have hlower : ∀ c ∈ part.map Char.toLower, isSeparator c = false := by
    simpa using h
  rw [hcase] at hlower
  simpa using hlower

theorem toUpper_of_case : part.map Char.toUpper = other.map Char.toUpper := by
  have hthrough : ∀ cs : List Char,
      cs.map Char.toUpper = (cs.map Char.toLower).map Char.toUpper := by
    intro cs
    simp [Function.comp_def]
  rw [hthrough part, hcase, ← hthrough]

theorem NamesRegion.of_case (h : NamesRegion part) : NamesRegion other := by
  have hlower : ∀ cs : List Char,
      NamesRegion (cs.map Char.toLower) ↔ NamesRegion cs := by
    intro cs
    simp [NamesRegion, apply_toLower isDigit_of_isAlpha]
  rw [← hlower, ← hcase]
  exact (hlower part).mpr h

end Case

-- ==================================================== the parts of a text

/-- A separator keeps the parts before it, and the blanks there, apart from
those behind it. -/
theorem subtags_trim_append (before : List Char) (hc : isSeparator c = true)
    (after : List Char) :
    subtags (Text.trim (before ++ c :: after))
      = subtags (Text.trimStart before) ++ subtags (Text.trimEnd after) := by
  rw [Text.trim_append_cons _ (isBlank_of_isSeparator hc), subtags,
    Text.split_append_separator _ hc]
  rfl

theorem subtags_of_not_separator (h : ∀ c ∈ part, isSeparator c = false) :
    subtags part = [part] :=
  Text.split_of_not_separator h

theorem subtags_trimStart (h : ∀ c ∈ part, isSeparator c = false) :
    subtags (Text.trimStart part) = [Text.trimStart part] :=
  subtags_of_not_separator fun c hc =>
    h c ((List.dropWhile_suffix Text.isBlank).mem hc)

theorem subtags_trim (h : ∀ c ∈ part, isSeparator c = false) :
    subtags (Text.trim part) = [Text.trim part] := by
  obtain ⟨before, after, hpart, -⟩ := Text.trims_trim part
  apply subtags_of_not_separator
  intro c hc
  apply h
  rw [hpart]
  exact List.mem_append_left _ (List.mem_append_right _ hc)

/-- What follows a region does not hang on which region it is. -/
theorem exists_subtags_region {after : List Char}
    (hafter : ∀ d, after.head? = some d → isSeparator d = true) :
    ∃ rest, ∀ part, NamesRegion part →
      subtags (Text.trimEnd (part ++ after)) = part :: rest := by
  cases after with
  | nil =>
      refine ⟨[], ?_⟩
      intro part hpart
      rw [List.append_nil, Text.trimEnd_of_last,
        subtags_of_not_separator hpart.not_separator]
      intro c hc
      exact hpart.not_blank c (List.mem_of_getLast? hc)
  | cons d after =>
      have hd := hafter d rfl
      refine ⟨subtags (Text.trimEnd after), ?_⟩
      intro part hpart
      rw [Text.trimEnd_append_cons _ (isBlank_of_isSeparator hd), subtags,
        Text.split_append_cons hpart.not_separator hd]
      rfl

theorem canonical_cons (first : List Char) (rest : List (List Char)) :
    canonical (first :: rest)
      = first.map Char.toLower :: canonicalRest rest :=
  rfl

theorem canonicalRest_eq_nil_iff : canonicalRest rest = [] ↔ rest = [] := by
  cases rest with
  | nil => exact Iff.rfl
  | cons part parts =>
      by_cases hregion : isRegion part = true
      · simp [canonicalRest, hregion]
      · simp [canonicalRest, hregion]

/-- Only the empty text has one empty part. -/
theorem canonical_subtags_eq_iff : canonical (subtags cs) = [[]] ↔ cs = [] := by
  constructor
  · intro h
    have hcuts := Text.cuts_split isSeparator cs
    unfold subtags at h
    generalize Text.split isSeparator cs = parts at h hcuts
    cases hcuts with
    | whole hpart => simpa [canonical, canonicalRest] using h
    | cut _ _ hrest =>
        simp only [canonical, List.cons.injEq, canonicalRest_eq_nil_iff] at h
        rw [h.2] at hrest
        cases hrest
  · intro h
    rw [h]
    rfl

-- ============================================================= respellings

/-- The same text with one thing in it spelled otherwise. -/
inductive Respelling : List Char → List Char → Prop
  /-- One separator is another. -/
  | separator {c d : Char} (before after : List Char)
      (hc : isSeparator c = true) (hd : isSeparator d = true) :
      Respelling (before ++ c :: after) (before ++ d :: after)
  /-- Letters of the language, which begins the text, are in another case. -/
  | language {part other : List Char} (after : List Char)
      (hpart : ∀ c ∈ part, isSeparator c = false)
      (hcase : part.map Char.toLower = other.map Char.toLower) :
      Respelling (part ++ after) (other ++ after)
  /-- Letters of the region, which is the whole of the second part, are in
  another case. -/
  | region {first part other after : List Char} {c : Char}
      (hfirst : ∀ c ∈ first, isSeparator c = false)
      (hc : isSeparator c = true) (hpart : NamesRegion part)
      (hcase : part.map Char.toLower = other.map Char.toLower)
      (hafter : ∀ d, after.head? = some d → isSeparator d = true) :
      Respelling (first ++ c :: (part ++ after))
        (first ++ c :: (other ++ after))
  /-- There are blanks around it. -/
  | blanks {before after : List Char} (cs : List Char)
      (hbefore : AllBlank before) (hafter : AllBlank after) :
      Respelling cs (before ++ cs ++ after)

/-- The parts of a respelled text have the same canonical spelling. -/
theorem Respelling.canonical_eq (h : Respelling cs ds) :
    canonical (subtags (Text.trim cs))
      = canonical (subtags (Text.trim ds)) := by
  cases h with
  | separator before after hc hd =>
      rw [subtags_trim_append _ hc, subtags_trim_append _ hd]
  | @language part other after hpart hcase =>
      have hother := not_separator_of_case hcase hpart
      -- the language may go on behind the letters that are changed
      rcases Text.plain_or_cut isSeparator after with
        hplain | ⟨more, c, rest, rfl, hmore, hc⟩
      · have hboth := List.forall_mem_append.mpr ⟨hpart, hplain⟩
        have hboth' := List.forall_mem_append.mpr ⟨hother, hplain⟩
        rw [subtags_trim hboth, subtags_trim hboth', canonical_cons,
          canonical_cons, ← Text.trim_map isBlank_toLower,
          ← Text.trim_map isBlank_toLower, List.map_append, List.map_append,
          hcase]
      · have hboth := List.forall_mem_append.mpr ⟨hpart, hmore⟩
        have hboth' := List.forall_mem_append.mpr ⟨hother, hmore⟩
        rw [← List.append_assoc, ← List.append_assoc,
          subtags_trim_append _ hc, subtags_trim_append _ hc,
          subtags_trimStart hboth, subtags_trimStart hboth',
          List.singleton_append, List.singleton_append, canonical_cons,
          canonical_cons, ← Text.trimStart_map isBlank_toLower,
          ← Text.trimStart_map isBlank_toLower, List.map_append,
          List.map_append, hcase]
  | @region first part other after c hfirst hc hpart hcase hafter =>
      obtain ⟨rest, hrest⟩ := exists_subtags_region hafter
      have hother := NamesRegion.of_case hcase hpart
      rw [subtags_trim_append _ hc, subtags_trim_append _ hc,
        subtags_trimStart hfirst, hrest part hpart, hrest other hother,
        List.singleton_append, List.singleton_append, canonical_cons,
        canonical_cons, canonicalRest, canonicalRest,
        if_pos (isRegion_iff.mpr hpart), if_pos (isRegion_iff.mpr hother),
        toUpper_of_case hcase]
  | blanks cs hbefore hafter => rw [Text.trim_append hbefore hafter]

/-- What is read of a trimmed text, or why nothing is, hangs on the canonical
spelling of its parts. -/
theorem ofTrimmed_congr
    (h : canonical (subtags cs) = canonical (subtags ds)) :
    ofTrimmed cs = ofTrimmed ds := by
  have hempty : cs = [] ↔ ds = [] := by
    rw [← canonical_subtags_eq_iff, h, canonical_subtags_eq_iff]
  by_cases hcs : cs = []
  · rw [hcs, hempty.mp hcs]
  · have hds := mt hempty.mpr hcs
    rw [ofTrimmed, ofTrimmed, if_neg (by simpa using hcs),
      if_neg (by simpa using hds), ← ofSubtags_canonical, h,
      ofSubtags_canonical]

/-- A text comes to the same however often it is respelled. -/
theorem ofTrimmed_of_respellings (h : Relation.EqvGen Respelling cs ds) :
    ofTrimmed (Text.trim cs) = ofTrimmed (Text.trim ds) := by
  induction h with
  | rel cs ds hstep => exact ofTrimmed_congr hstep.canonical_eq
  | refl cs => rfl
  | symm cs ds _ ih => exact ih.symm
  | trans cs ds es _ _ ih ih' => exact ih.trans ih'

-- =============================================================== the whole

theorem input_of_parse_error {e : LocaleError} (h : parse tag = .error e) :
    e.input = tag := by
  unfold parse at h
  cases hread : ofTrimmed (Text.trim tag.toList) with
  | error fault =>
      rw [hread] at h
      cases h
      rfl
  | ok read =>
      rw [hread] at h
      cases h

/-- The reader follows the grammar: it reads a locale exactly from the tags
that denote it; a tag denotes some locale exactly if, trimmed and cut, its
first part has two to eight ASCII letters and no other part is empty; tags
that are respellings of one another denote the same, or are refused for the
same reason; and a refusal quotes the text as it was given. -/
theorem parse_follows_grammar (tag : String) :
    (∀ l, parse tag = .ok l ↔ Denotes tag l)
      ∧ ((∃ l, parse tag = .ok l) ↔ ∃ core first rest,
          Trims tag.toList core ∧ Cuts isSeparator core (first :: rest)
            ∧ NamesLanguage first ∧ [] ∉ rest)
      ∧ (∀ other : String,
          Relation.EqvGen Respelling tag.toList other.toList →
            (parse other).mapError (·.fault) = (parse tag).mapError (·.fault))
      ∧ ∀ e, parse tag = .error e → e.input = tag := by
  refine ⟨fun l => parse_eq_ok_iff, ?_, ?_, fun e => input_of_parse_error⟩
  · constructor
    · intro h
      obtain ⟨l, hl⟩ := h
      obtain ⟨core, parts, hcore, hparts, hreads⟩ := parse_eq_ok_iff.mp hl
      obtain ⟨first, rest, rfl, hfirst, hrest⟩ :=
        exists_reads_iff.mp ⟨l, hreads⟩
      exact ⟨core, first, rest, hcore, hparts, hfirst, hrest⟩
    · intro h
      obtain ⟨core, first, rest, hcore, hparts, hfirst, hrest⟩ := h
      obtain ⟨l, hreads⟩ :=
        exists_reads_iff.mpr ⟨first, rest, rfl, hfirst, hrest⟩
      exact ⟨l, parse_eq_ok_iff.mpr ⟨core, _, hcore, hparts, hreads⟩⟩
  · intro other h
    rw [mapError_parse, mapError_parse, ofTrimmed_of_respellings h]

/-- An American tag in other letters, with the other separator and among
blanks. -/
theorem american_respelled :
    Relation.EqvGen Respelling "en-US".toList "\u3000EN_us ".toList := by
  have hlanguage : Respelling (['e', 'n'] ++ ['-', 'U', 'S'])
      (['E', 'N'] ++ ['-', 'U', 'S']) :=
    .language _ (by simp [isSeparator]) (by decide)
  have hregion : Respelling (['E', 'N'] ++ '-' :: (['U', 'S'] ++ []))
      (['E', 'N'] ++ '-' :: (['u', 's'] ++ [])) := by
    apply Respelling.region
    · simp [isSeparator]
    · rfl
    · exact isRegion_iff.mp (by decide)
    · decide
    · intro d hd
      cases hd
  have hseparator : Respelling (['E', 'N'] ++ '-' :: ['u', 's'])
      (['E', 'N'] ++ '_' :: ['u', 's']) :=
    .separator _ _ rfl rfl
  have hblanks : Respelling ['E', 'N', '_', 'u', 's']
      (['\u3000'] ++ ['E', 'N', '_', 'u', 's'] ++ [' ']) := by
    apply Respelling.blanks
    · simp [AllBlank, Text.isBlank]
    · simp [AllBlank, Text.isBlank]
  exact .trans _ _ _ (.rel _ _ hlanguage) <|
    .trans _ _ _ (.rel _ _ hregion) <|
      .trans _ _ _ (.rel _ _ hseparator) (.rel _ _ hblanks)

/-- A respelled tag is read like the tag, and a tag that is refused is quoted
with its blanks. -/
theorem american_read_alike :
    (parse "en-US").mapError (·.fault) = .ok enUS
      ∧ (parse "\u3000EN_us ").mapError (·.fault) = .ok enUS
      ∧ ∃ e, parse " e_us" = .error e ∧ e.input = " e_us" := by
  have hread : (parse "en-US").mapError (·.fault) = .ok enUS := rfl
  obtain ⟨-, -, hspelled, -⟩ := parse_follows_grammar "en-US"
  obtain ⟨-, -, -, hquoted⟩ := parse_follows_grammar " e_us"
  have hrefused : parse " e_us" = .error ⟨" e_us", .language⟩ := rfl
  exact ⟨hread, (hspelled _ american_respelled).trans hread, _, hrefused,
    hquoted _ hrefused⟩

end SpellSessions.Locale
