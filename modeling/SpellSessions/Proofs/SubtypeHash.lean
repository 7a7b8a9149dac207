/-
What the hash of a subtype is taken of.

The zero byte between tag and extra value is the whole encoding of U+0000, so
what is digested are the bytes of one text, and they tell this text
(`digested_eq_digested_iff`). Where the tag ends in it is told only if no tag
goes on past the first U+0000: that is the one way in which two subtypes are
digested alike (`joined_eq_joined_iff`, `RunsOn`). Language and region hold no
U+0000 and a variant may, so a variant decides it (`Legible.holdsZero`).

Of the digest the hash keeps the leading word, and it makes one of two words
only where it avoids the reserved numbers (`ofWord_eq_ofWord_iff`).
-/
import SpellSessions.Proofs.ReadBack
import SpellSessions.Selection

namespace SpellSessions

namespace SubtypeHash

variable {s t e f : String} {w v : UInt32}

-- ================================================================= bytes

/-- A zero byte is what a zero character is encoded by. -/
theorem digested_eq_toByteArray (s e : String) :
    digested s e = (s ++ "\x00" ++ e).toByteArray.data.toList := by
  have hzero : "\x00".toByteArray.data.toList = [0] := by decide
  rw [String.toByteArray_append, String.toByteArray_append,
    ByteArray.data_append, ByteArray.data_append, Array.toList_append,
    Array.toList_append, hzero, List.append_assoc]
  rfl

theorem digested_eq_digested_iff :
    digested s e = digested t f ↔ s ++ "\x00" ++ e = t ++ "\x00" ++ f := by
  rw [digested_eq_toByteArray, digested_eq_toByteArray, Array.toList_inj,
    ← ByteArray.ext_iff, String.toByteArray_inj]

-- ======================================================= where the tag ends

/-- The second text goes on where the first one ends, with a zero character,
and it goes on with what stands behind the first one. -/
def RunsOn (s e t f : String) : Prop :=
  ∃ more, t = s ++ "\x00" ++ more ∧ e = more ++ "\x00" ++ f

section Cut

variable {α : Type} {z : α} {as bs cs ds gap : List α}

/-- A list that is cut at an element, and cut there again no earlier, is cut
alike or has that element once more. -/
theorem eq_or_later (hcs : cs = as ++ gap) (hbs : z :: bs = gap ++ z :: ds) :
    (as = cs ∧ bs = ds)
      ∨ ∃ more, cs = as ++ z :: more ∧ bs = more ++ z :: ds := by
  cases gap with
  | nil =>
      rw [List.nil_append, List.cons.injEq] at hbs
      rw [List.append_nil] at hcs
      exact .inl ⟨hcs.symm, hbs.2⟩
  | cons c more =>
      rw [List.cons_append, List.cons.injEq] at hbs
      obtain ⟨rfl, hbs⟩ := hbs
      exact .inr ⟨more, hcs, hbs⟩

theorem append_cons_eq_append_cons_iff :
    as ++ z :: bs = cs ++ z :: ds ↔
      (as = cs ∧ bs = ds)
        ∨ (∃ more, cs = as ++ z :: more ∧ bs = more ++ z :: ds)
        ∨ ∃ more, as = cs ++ z :: more ∧ ds = more ++ z :: bs := by
  rw [List.append_eq_append_iff]
  constructor
  · intro h
    rcases h with ⟨gap, hcs, hbs⟩ | ⟨gap, has, hds⟩
    · exact (eq_or_later hcs hbs).imp_right .inl
    · rcases eq_or_later has hds with ⟨hsame, hrest⟩ | hmore
      · exact .inl ⟨hsame.symm, hrest.symm⟩
      · exact .inr (.inr hmore)
  · intro h
    rcases h with ⟨rfl, rfl⟩ | ⟨more, rfl, rfl⟩ | ⟨more, rfl, rfl⟩
    · exact .inl ⟨[], (List.append_nil as).symm, rfl⟩
    · exact .inl ⟨z :: more, rfl, rfl⟩
    · exact .inr ⟨z :: more, rfl, rfl⟩

end Cut

theorem toList_joined (s e : String) :
    (s ++ "\x00" ++ e).toList = s.toList ++ '\x00' :: e.toList := by
  simp

theorem runsOn_iff : RunsOn s e t f ↔ ∃ more,
    t.toList = s.toList ++ '\x00' :: more
      ∧ e.toList = more ++ '\x00' :: f.toList := by
  constructor
  · intro h
    obtain ⟨more, rfl, rfl⟩ := h
    exact ⟨more.toList, toList_joined s more, toList_joined more f⟩
  · intro h
    obtain ⟨more, ht, he⟩ := h
    refine ⟨String.ofList more, ?_, ?_⟩
    · rw [← String.toList_inj, ht, toList_joined, String.toList_ofList]
    · rw [← String.toList_inj, he, toList_joined, String.toList_ofList]

/-- Two joined texts are the same if they are cut alike, or if one tag runs on
into what stands behind the other. -/
theorem joined_eq_joined_iff :
    s ++ "\x00" ++ e = t ++ "\x00" ++ f ↔
      (s = t ∧ e = f) ∨ RunsOn s e t f ∨ RunsOn t f s e := by
  rw [← String.toList_inj, toList_joined, toList_joined,
    append_cons_eq_append_cons_iff, runsOn_iff, runsOn_iff, String.toList_inj,
    String.toList_inj]

/-- A text that runs on holds a zero character. -/
theorem RunsOn.mem (h : RunsOn s e t f) : '\x00' ∈ t.toList := by
  obtain ⟨more, ht, -⟩ := runsOn_iff.mp h
  rw [ht]
  exact List.mem_append_right _ List.mem_cons_self

-- ============================================================== the number

/-- The leading word of what is digested for a subtype. -/
def leading (locale extra : String) : UInt32 :=
  (Digest.sha256 (digested locale extra)).headD 0

/-- Words that come to the same number: they are equal, or each of them is the
same reserved number or the one next to it. -/
def Coincide (w v : UInt32) : Prop :=
  w = v ∨ ∃ reserved ∈ ([0, 0x80000000] : List UInt32),
    (w = reserved ∨ w = reserved + 1) ∧ (v = reserved ∨ v = reserved + 1)

/-- A word, out of the way of the reserved ones. -/
def avoiding (w : UInt32) : UInt32 :=
  if w = 0 then 1 else if w = 0x80000000 then 0x80000001 else w

theorem toInt32_eq_toInt32_iff : w.toInt32 = v.toInt32 ↔ w = v :=
  Int32.ofUInt32.injEq w v ▸ Iff.rfl

theorem ofWord_eq (w : UInt32) : ofWord w = ⟨(avoiding w).toInt32⟩ := by
  have hautomatic : w.toInt32 = automatic.raw ↔ w = 0 :=
    toInt32_eq_toInt32_iff
  have hunset : w.toInt32 = unset.raw ↔ w = 0x80000000 :=
    toInt32_eq_toInt32_iff
  simp only [ofWord, avoiding, hautomatic, hunset]
  split
  · rfl
  · split
    · rfl
    · rfl

theorem ofWord_eq_ofWord_iff : ofWord w = ofWord v ↔ Coincide w v := by
  have hnext : (0x80000000 : UInt32) + 1 = 0x80000001 := rfl
  have hone : (0 : UInt32) + 1 = 1 := rfl
  rw [ofWord_eq, ofWord_eq, SubtypeHash.mk.injEq, toInt32_eq_toInt32_iff]
  simp only [Coincide, avoiding, List.mem_cons, List.not_mem_nil, or_false,
    exists_eq_or_imp, exists_eq_left, hnext, hone]
  grind

/-- Two subtypes have one hash exactly if the leading words coincide. -/
theorem of_eq_of_iff :
    SubtypeHash.of s e = SubtypeHash.of t f
      ↔ Coincide (leading s e) (leading t f) :=
  ofWord_eq_ofWord_iff

end SubtypeHash

namespace Locale

open SubtypeHash (digested leading RunsOn Coincide)

variable {l m : Locale} {e f : String}

/-- A locale with a zero character in its variant. -/
def HoldsZero (l : Locale) : Prop :=
  ∃ variant, l.variant = some variant ∧ '\x00' ∈ variant.toList

/-- A zero character in a tag is one in its variant. -/
theorem Legible.holdsZero (h : l.Legible) (hzero : '\x00' ∈ l.render.toList) :
    l.HoldsZero := by
  rcases h.of_mem_render hzero with halnum | hdash | hvariant
  · exact absurd halnum (by decide)
  · exact absurd hdash (by decide)
  · exact hvariant

/-- What is digested for two subtypes is the same exactly if they are the same,
or if the tag of one of them has a zero character and runs on from there into
the extra value of the other. So it tells all subtypes whose variants hold no
zero character, and two such subtypes have one hash only if the leading words
of different digests coincide. -/
theorem digested_eq_iff (hl : l.Built) (hm : m.Built) (e f : String) :
    (digested l.render e = digested m.render f ↔
        (l = m ∧ e = f) ∨ RunsOn l.render e m.render f
          ∨ RunsOn m.render f l.render e)
      ∧ (¬ l.HoldsZero → ¬ m.HoldsZero →
          digested l.render e = digested m.render f → l = m ∧ e = f)
      ∧ (SubtypeHash.of l.render e = SubtypeHash.of m.render f
          ↔ Coincide (leading l.render e) (leading m.render f)) := by
  have htag : l.render = m.render ↔ l = m :=
    ⟨hl.legible.eq_of_render hm.legible, congrArg render⟩
  have hiff : digested l.render e = digested m.render f ↔
      (l = m ∧ e = f) ∨ RunsOn l.render e m.render f
        ∨ RunsOn m.render f l.render e := by
    rw [← htag]
    exact SubtypeHash.digested_eq_digested_iff.trans
      SubtypeHash.joined_eq_joined_iff
  refine ⟨hiff, ?_, SubtypeHash.of_eq_of_iff⟩
  intro hl0 hm0 hsame
  rcases hiff.mp hsame with hboth | hruns | hruns
  · exact hboth
  · exact absurd (hm.legible.holdsZero hruns.mem) hm0
  · exact absurd (hl.legible.holdsZero hruns.mem) hl0

/-- A variant is told from an extra value that is spelled like it. -/
theorem variant_told_from_extra :
    let l : Locale := ⟨"en", none, some "a"⟩
    let m : Locale := ⟨"en", none, none⟩
    l.Built ∧ m.Built ∧ ¬ l.HoldsZero ∧ ¬ m.HoldsZero
      ∧ digested l.render "c" ≠ digested m.render "a\x00c" := by
  intro l m
  have hl : l.Built := .parsed (show parse "EN_a" = .ok l from rfl)
  have hm : m.Built := .parsed (show parse "en" = .ok m from rfl)
  have hl0 : ¬ l.HoldsZero := by
    intro h
    obtain ⟨variant, hvariant, hzero⟩ := h
    cases hvariant
    exact absurd hzero (by decide)
  have hm0 : ¬ m.HoldsZero := by
    intro h
    obtain ⟨variant, hvariant, -⟩ := h
    cases hvariant
  refine ⟨hl, hm, hl0, hm0, ?_⟩
  intro hsame
  have hboth := (digested_eq_iff hl hm "c" "a\x00c").2.1 hl0 hm0 hsame
  exact absurd hboth.1 (by decide)

/-- Two subtypes that are digested alike, and so have one hash: whoever stored
the hash of the second is given the first. -/
theorem zero_digested_alike :
    let l : Locale := ⟨"en", none, some "a\x00b"⟩
    let m : Locale := ⟨"en", none, some "a"⟩
    let s : ProviderSubtype := ⟨l, "c"⟩
    let t : ProviderSubtype := ⟨m, "b\x00c"⟩
    parse "en-a\x00b" = .ok l ∧ parse "en-a" = .ok m
      ∧ digested l.render "c" = digested m.render "b\x00c"
      ∧ ¬ (l = m ∧ "c" = "b\x00c")
      ∧ (Provider.mk "p" "pkg" false [s, t]).subtype? t.hash = some s := by
  intro l m s t
  have hsame : digested l.render "c" = digested m.render "b\x00c" := by
    apply SubtypeHash.digested_eq_digested_iff.mpr
    decide
  have hhash : s.hash = t.hash := by
    simp only [ProviderSubtype.hash, SubtypeHash.of]
    rw [hsame]
  refine ⟨rfl, rfl, hsame, by decide, ?_⟩
  simp [Provider.subtype?, hhash]

end Locale

end SpellSessions
