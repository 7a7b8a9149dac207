/-
The ladder of locales, rung by rung.

A ladder grows at its end, by locales that have no place on it yet (`push`), so
no locale is on it twice and what is built already never changes
(`prefix_foldl_push`). A ladder is what comes of its own rungs and the extra
locales in turn (`ladder_eq_foldl`).

The own rungs of a locale that is not English are some of its generalisations,
each more special than those behind it (`descends_ownRungs`). What the extra
locales add behind them is kept up with one locale at a time (`Follows.push`),
and so for a list of any length (`follows_foldl`).
-/
import SpellSessions.Proofs.Locale

namespace SpellSessions.Locale

variable {l m system : Locale} {ls base tried added extra : List Locale}

-- ================================================================ the loop

/-- A locale at the end of a ladder, unless it has a place there. -/
def push (ladder : List Locale) (l : Locale) : List Locale :=
  if l ∈ ladder then ladder else ladder ++ [l]

theorem eraseDups_concat (ls : List Locale) (l : Locale) :
    (ls ++ [l]).eraseDups = push ls.eraseDups l := by
  rw [List.eraseDups_append, push]
  by_cases h : l ∈ ls
  · rw [if_pos (List.mem_eraseDups.mpr h)]
    simp [List.removeAll, h]
  · rw [if_neg (mt List.mem_eraseDups.mp h)]
    simp [List.removeAll, h, List.eraseDups_cons]

/-- To keep the first places only is to push one locale after the other. -/
theorem foldl_push_nil (ls : List Locale) :
    ls.foldl push [] = ls.eraseDups := by
  induction ls using List.reverseRecOn with
  | nil => rfl
  | append_singleton ls l ih =>
      rw [List.foldl_append, ih, eraseDups_concat]
      rfl

/-- A ladder is built by pushing its own rungs, and then the extra locales
unless it is an English one. -/
theorem ladder_eq_foldl (system : Locale) (extra : List Locale) :
    system.ladder extra = (if system.isEnglish then [] else extra).foldl push
      (system.ownRungs.foldl push []) := by
  rw [← List.foldl_append, foldl_push_nil, ladder]

theorem nodup_push (h : ls.Nodup) (l : Locale) : (push ls l).Nodup := by
  unfold push
  split
  · exact h
  · next hnew =>
      rw [← List.concat_eq_append]
      exact h.concat hnew

theorem nodup_foldl_push (more : List Locale) (h : ls.Nodup) :
    (more.foldl push ls).Nodup := by
  induction more generalizing ls with
  | nil => exact h
  | cons l more ih => exact ih (nodup_push h l)

/-- Locales that are new and not repeated are all pushed. -/
theorem foldl_push_of_nodup {more : List Locale} (h : (ls ++ more).Nodup) :
    more.foldl push ls = ls ++ more := by
  induction more generalizing ls with
  | nil => rw [List.append_nil, List.foldl_nil]
  | cons l more ih =>
      have hnew : l ∉ ls := fun hl =>
        (List.nodup_append.mp h).2.2 l hl l List.mem_cons_self rfl
      rw [List.append_cons] at h ⊢
      rw [List.foldl_cons, push, if_neg hnew, ih h]

theorem prefix_push (ls : List Locale) (l : Locale) : ls <+: push ls l := by
  unfold push
  split
  · exact List.prefix_rfl
  · exact List.prefix_append ls [l]

/-- What is built stays. -/
theorem prefix_foldl_push (more ls : List Locale) :
    ls <+: more.foldl push ls := by
  induction more generalizing ls with
  | nil => exact List.prefix_rfl
  | cons l more ih => exact (prefix_push ls l).trans (ih (push ls l))

-- ========================================================= what is on it

theorem mem_ladder_iff : l ∈ system.ladder extra ↔
    l ∈ system.ownRungs ∨ (system.isEnglish = false ∧ l ∈ extra) := by
  rw [ladder, List.mem_eraseDups, List.mem_append]
  by_cases h : system.isEnglish = true
  · simp [h]
  · simp [h]

theorem bareLanguage_mem_ownRungs (system : Locale) :
    system.bareLanguage ∈ system.ownRungs := by
  by_cases h : system.isEnglish = true
  · simp [ownRungs, h]
  · simp [ownRungs, h]

theorem mem_ownRungs_of_withoutVariant (h : system.withoutVariant? = some l) :
    l ∈ system.ownRungs := by
  by_cases henglish : system.isEnglish = true
  · simp [ownRungs, henglish, h]
  · simp [ownRungs, henglish, h]

theorem nodup_ladder (system : Locale) (extra : List Locale) :
    (system.ladder extra).Nodup := by
  rw [ladder, ← foldl_push_nil]
  exact nodup_foldl_push _ List.nodup_nil

theorem ladder_prefix (system : Locale) (extra more : List Locale) :
    system.ladder extra <+: system.ladder (extra ++ more) := by
  rw [ladder_eq_foldl, ladder_eq_foldl]
  by_cases h : system.isEnglish = true
  · rw [if_pos h, if_pos h]
  · rw [if_neg h, if_neg h, List.foldl_append]
    exact prefix_foldl_push more _

-- ========================================================= an English one

theorem isEnglish_iff : system.isEnglish = true ↔ system.language = "en" := by
  rw [isEnglish, decide_eq_true_eq]

theorem language_of_mem_ownRungs (henglish : system.language = "en")
    (h : l ∈ system.ownRungs) : l.language = "en" := by
  rcases mem_ownRungs h with rfl | rfl | hshorter | rfl | rfl
  · exact henglish
  · exact henglish
  · obtain ⟨region, -, rfl⟩ := Option.map_eq_some_iff.mp hshorter
    exact henglish
  · rfl
  · rfl

theorem ladder_of_english (h : system.language = "en") (extra : List Locale) :
    system.ladder extra = system.ownRungs.eraseDups := by
  rw [ladder, if_pos (isEnglish_iff.mpr h), List.append_nil]

/-- Three kinds of English are rungs of each. -/
theorem english_mem_ownRungs (h : system.language = "en") :
    enUS ∈ system.ownRungs ∧ enGB ∈ system.ownRungs
      ∧ ⟨"en", none, none⟩ ∈ system.ownRungs := by
  have hbare : (⟨"en", none, none⟩ : Locale) = system.bareLanguage := by
    rw [bareLanguage, h]
  have htrue := isEnglish_iff.mpr h
  refine ⟨?_, ?_, ?_⟩
  · simp [ownRungs, htrue]
  · simp [ownRungs, htrue]
  · rw [hbare]
    exact bareLanguage_mem_ownRungs system

-- ========================================================== any other one

/-- A locale with some parts of another one left out, or none. -/
@[mk_iff]
structure Generalises (l m : Locale) : Prop where
  language : l.language = m.language
  region : l.region = none ∨ l.region = m.region
  variant : l.variant = none ∨ l.variant = m.variant

/-- The rungs of a locale from the most to the least special: its
generalisations, but that a variant is kept with its region only. -/
structure Descends (system : Locale) (rungs : List Locale) : Prop where
  mem : ∀ l, l ∈ rungs
    ↔ l.Generalises system ∧ (l.region = none → l.variant = none)
  descending : rungs.Pairwise fun l m => m.Generalises l ∧ m ≠ l

/-- What extra locales add behind some rungs: those that are none of them, in
the order in which they come first. -/
structure Follows (base tried added : List Locale) : Prop where
  mem : ∀ l, l ∈ added ↔ l ∈ tried ∧ l ∉ base
  ordered : added.Pairwise fun l m => tried.idxOf l < tried.idxOf m

theorem ownRungs_of_other (h : system.language ≠ "en") :
    system.ownRungs = system.fullRung ++ system.withoutVariant?.toList
      ++ [system.bareLanguage] :=
  if_neg (mt isEnglish_iff.mp h)

theorem mem_ownRungs_iff (h : system.language ≠ "en") :
    l ∈ system.ownRungs
      ↔ l.Generalises system ∧ (l.region = none → l.variant = none) := by
  rw [ownRungs_of_other h]
  obtain ⟨first, second, third⟩ := l
  obtain ⟨language, region, variant⟩ := system
  simp only [fullRung, withoutVariant?, bareLanguage, generalises_iff]
  -- how many rungs there are hangs on the parts that the locale has
  cases region with
  | none => grind
  | some region =>
      cases variant with
      | none => grind
      | some variant => grind

theorem pairwise_ownRungs (h : system.language ≠ "en") :
    system.ownRungs.Pairwise fun l m => m.Generalises l ∧ m ≠ l := by
  rw [ownRungs_of_other h]
  obtain ⟨language, region, variant⟩ := system
  cases region with
  | none => simp [fullRung, withoutVariant?]
  | some region =>
      cases variant with
      | none => simp [fullRung, withoutVariant?, bareLanguage, generalises_iff]
      | some variant =>
          simp [fullRung, withoutVariant?, bareLanguage, generalises_iff]

theorem descends_ownRungs (h : system.language ≠ "en") :
    Descends system system.ownRungs :=
  ⟨fun _ => mem_ownRungs_iff h, pairwise_ownRungs h⟩

theorem follows_nil (base : List Locale) : Follows base [] [] where
  mem := fun l => by simp
  ordered := .nil

/-- One locale more. -/
theorem Follows.push (h : Follows base tried added) (l : Locale) :
    ∃ more, push (base ++ added) l = base ++ more
      ∧ Follows base (tried ++ [l]) more := by
  -- the locales that were tried keep the places at which they come first
  have hkept : added.Pairwise fun m n =>
      (tried ++ [l]).idxOf m < (tried ++ [l]).idxOf n := by
    refine h.ordered.imp_of_mem ?_
    intro m n hm hn hlt
    rwa [List.idxOf_append_of_mem ((h.mem m).mp hm).1,
      List.idxOf_append_of_mem ((h.mem n).mp hn).1]
  by_cases hmem : l ∈ base ++ added
  · refine ⟨added, if_pos hmem, ?_, hkept⟩
    intro m
    rw [h.mem, List.mem_append, List.mem_singleton]
    constructor
    · intro ⟨htried, hbase⟩
      exact ⟨.inl htried, hbase⟩
    · intro ⟨hm, hbase⟩
      rcases hm with htried | rfl
      · exact ⟨htried, hbase⟩
      · rcases List.mem_append.mp hmem with hold | hadded
        · exact absurd hold hbase
        · exact (h.mem m).mp hadded
  · obtain ⟨hbase, hadded⟩ : l ∉ base ∧ l ∉ added := by
      rwa [List.mem_append, not_or] at hmem
    have hnew : l ∉ tried := fun htried =>
      hadded ((h.mem l).mpr ⟨htried, hbase⟩)
    refine ⟨added ++ [l], ?_, ?_, ?_⟩
    · rw [Locale.push, if_neg hmem, List.append_assoc]
    · intro m
      have hl : m = l → m ∉ base := fun hml => hml ▸ hbase
      rw [List.mem_append, List.mem_append, List.mem_singleton, h.mem,
        or_and_right, and_iff_left_of_imp hl]
    · rw [List.pairwise_append]
      refine ⟨hkept, List.pairwise_singleton _ l, ?_⟩
      intro m hm n hn
      have hm' := ((h.mem m).mp hm).1
      rw [List.mem_singleton.mp hn, List.idxOf_append_of_mem hm',
        List.idxOf_append_of_notMem hnew]
      have := List.idxOf_lt_length_of_mem hm'
      omega

/-- Any number of them. -/
theorem follows_foldl (more : List Locale) (h : Follows base tried added) :
    ∃ all, more.foldl Locale.push (base ++ added) = base ++ all
      ∧ Follows base (tried ++ more) all := by
  induction more generalizing tried added with
  | nil => exact ⟨added, rfl, by rwa [List.append_nil]⟩
  | cons l more ih =>
      obtain ⟨added', hpush, h'⟩ := h.push l
      obtain ⟨all, hall, hfollows⟩ := ih h'
      refine ⟨all, ?_, ?_⟩
      · rw [List.foldl_cons, hpush, hall]
      · rwa [List.append_assoc, List.singleton_append] at hfollows

theorem Descends.nodup {rungs : List Locale} (h : Descends system rungs) :
    rungs.Nodup :=
  h.descending.imp fun hless => hless.2.symm

/-- The ladder of a locale that is not English: its own rungs, and what the
extra locales add. -/
theorem exists_ladder_eq_append (h : system.language ≠ "en")
    (extra : List Locale) :
    ∃ added, system.ladder extra = system.ownRungs ++ added
      ∧ Follows system.ownRungs extra added := by
  have hown : system.ownRungs.foldl push [] = system.ownRungs :=
    foldl_push_of_nodup (descends_ownRungs h).nodup
  obtain ⟨added, hladder, hfollows⟩ :=
    follows_foldl extra (follows_nil system.ownRungs)
  refine ⟨added, ?_, hfollows⟩
  rw [ladder_eq_foldl, if_neg (mt isEnglish_iff.mp h), hown]
  rwa [List.append_nil] at hladder

/-- What stands behind all of some rungs, unless it is one of them. -/
theorem idxOf_lt_of_append {e rung : Locale} (hrung : rung ∈ base)
    (he : e ∉ base) :
    (base ++ added).idxOf rung < (base ++ added).idxOf e := by
  have hplace := List.idxOf_lt_length_of_mem hrung
  rw [List.idxOf_append_of_mem hrung, List.idxOf_append_of_notMem he]
  omega

theorem count_ladder_of_mem {e : Locale} (h : system.language ≠ "en")
    (he : e ∈ extra) : (system.ladder extra).count e = 1 := by
  have hother : system.isEnglish = false :=
    Bool.eq_false_iff.mpr (mt isEnglish_iff.mp h)
  exact List.count_eq_one_of_mem (nodup_ladder system extra)
    (mem_ladder_iff.mpr (.inr ⟨hother, he⟩))

-- ================================================================ the whole

/-- The shape of a ladder. It has the bare language of its locale and no
locale twice, and it is only appended to when the extra locales are. An English
one has English locales only, American, British and bare English among them,
and the extra locales do not matter. Any other one begins with its own rungs,
generalisations from the most to the least special, and goes on with the extra
locales that are none of these, in the order in which they come first; each
extra locale is on it once, and before no own rung unless it is one. -/
theorem ladder_shape (system : Locale) (extra : List Locale) :
    (system.ladder extra).Nodup
      ∧ system.bareLanguage ∈ system.ladder extra
      ∧ (∀ more, system.ladder extra <+: system.ladder (extra ++ more))
      ∧ (system.language = "en" →
          (∀ l ∈ system.ladder extra, l.language = "en")
            ∧ enUS ∈ system.ladder extra ∧ enGB ∈ system.ladder extra
            ∧ ⟨"en", none, none⟩ ∈ system.ladder extra
            ∧ ∀ other, system.ladder other = system.ladder extra)
      ∧ (system.language ≠ "en" →
          ∃ own added, system.ladder extra = own ++ added
            ∧ Descends system own ∧ Follows own extra added
            ∧ ∀ e ∈ extra, (system.ladder extra).count e = 1
              ∧ (e ∈ own ∨ ∀ rung ∈ own, (system.ladder extra).idxOf rung
                  < (system.ladder extra).idxOf e)) := by
  refine ⟨nodup_ladder system extra,
    mem_ladder_iff.mpr (.inl (bareLanguage_mem_ownRungs system)),
    ladder_prefix system extra, ?_, ?_⟩
  · intro henglish
    have hladder := ladder_of_english henglish
    obtain ⟨hUS, hGB, hbare⟩ := english_mem_ownRungs henglish
    simp only [hladder, List.mem_eraseDups]
    exact ⟨fun l => language_of_mem_ownRungs henglish, hUS, hGB, hbare,
      fun _ => trivial⟩
  · intro hother
    obtain ⟨added, hladder, hfollows⟩ := exists_ladder_eq_append hother extra
    refine ⟨system.ownRungs, added, hladder, descends_ownRungs hother, hfollows,
      ?_⟩
    intro e he
    refine ⟨count_ladder_of_mem hother he, ?_⟩
    by_cases hown : e ∈ system.ownRungs
    · exact .inl hown
    · right
      intro rung hrung
      rw [hladder]
      exact idxOf_lt_of_append hrung hown

/-- A Valencian ladder goes on with German once, an Australian one with
nothing. -/
theorem german_on_ladders :
    let german : Locale := ⟨"de", none, none⟩
    let valencian : Locale := ⟨"ca", some "ES", some "valencia"⟩
    let australian : Locale := ⟨"en", some "AU", none⟩
    valencian.language ≠ "en" ∧ australian.language = "en"
      ∧ (valencian.ladder [german, valencian, german]).count german = 1
      ∧ (∃ own added, Descends valencian own
          ∧ Follows own [german, valencian, german] added
          ∧ own ++ added = [valencian, ⟨"ca", some "ES", none⟩,
              ⟨"ca", none, none⟩, german])
      ∧ german ∉ australian.ladder [german] := by
  intro german valencian australian
  have hcatalan : valencian.language ≠ "en" := by decide
  obtain ⟨-, -, -, -, hother⟩ :=
    ladder_shape valencian [german, valencian, german]
  obtain ⟨own, added, hladder, hown, hadded, honce⟩ := hother hcatalan
  obtain ⟨-, -, -, henglish, -⟩ := ladder_shape australian [german]
  obtain ⟨hall, -⟩ := henglish rfl
  refine ⟨hcatalan, rfl, (honce german List.mem_cons_self).1, ?_, ?_⟩
  · exact ⟨own, added, hown, hadded, hladder.symm⟩
  · intro hgerman
    exact absurd (hall german hgerman) (by decide)

end SpellSessions.Locale
