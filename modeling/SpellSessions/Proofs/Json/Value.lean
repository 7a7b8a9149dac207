/-
Values in JSON: what is written is read back.

The reader takes the tokens of a value and is then where the finished value
has left it, whatever is open around (`run_tokens`); so the tokens of a value
stand for it and for no other (`ofTokens?_tokens`). The compact text is cut
into those tokens (`Spells`). The one place at which the cut could go wrong is
the end of a word: a word goes on for as long as its characters do, so what
follows it must begin otherwise (`Breaks`). In a compact text a comma, a colon
or a bracket follows.
-/
import Mathlib.Data.List.TakeWhile
import SpellSessions.Proofs.Json

namespace SpellSessions.Json

-- ======================================================= tokens of a value

namespace Reader

variable {up : List Container} {t : Token} {ts : List Token}

theorem run_cons (r : Reader) (t : Token) (ts : List Token) :
    r.run (t :: ts) = (r.step t).bind (·.run ts) :=
  rfl

/-- Unless it ends at once, the first item of an array begins as any value
does. -/
theorem step_firstItem (h : t ≠ .bracketClose) :
    (firstItem up).step t = beginValue (.array [] :: up) t := by
  cases t with
  | bracketClose => exact absurd rfl h
  | _ => rfl

end Reader

open Reader (run_cons finish)

/-- A value does not begin with the end of an array. -/
theorem exists_tokens_eq_cons (v : Json) :
    ∃ t ts, v.tokens = t :: ts ∧ t ≠ .bracketClose := by
  cases v with
  | array items => cases items <;> simp [tokens]
  | object members => cases members <;> simp [tokens]
  | _ => simp [tokens]

theorem run_firstItem (v : Json) (up : List Container) (ts : List Token) :
    (Reader.firstItem up).run (v.tokens ++ ts)
      = (Reader.value (.array [] :: up)).run (v.tokens ++ ts) := by
  obtain ⟨t, rest, htokens, ht⟩ := exists_tokens_eq_cons v
  rw [htokens, List.cons_append, run_cons, run_cons,
    Reader.step_firstItem ht]
  rfl

mutual

/-- The reader takes the tokens of a value, and the value is finished. -/
theorem run_tokens (v : Json) (up : List Container) (ts : List Token) :
    (Reader.value up).run (v.tokens ++ ts) = (finish v up).run ts := by
  cases v with
  | null => rw [tokens]; rfl
  | bool b => rw [tokens]; rfl
  | number literal => rw [tokens]; rfl
  | string text => rw [tokens]; rfl
  | array items =>
      cases items with
      | nil => rw [tokens]; rfl
      | cons v vs =>
          simp only [tokens, List.cons_append, List.append_assoc, run_cons]
          show (Reader.firstItem up).run _ = _
          rw [run_firstItem, run_tokens v]
          exact run_itemTokens vs [v] up ts
  | object members =>
      cases members with
      | nil => rw [tokens]; rfl
      | cons m ms =>
          obtain ⟨name, v⟩ := m
          simp only [tokens, List.cons_append, List.append_assoc, run_cons]
          show (Reader.value (.object [] name :: up)).run _ = _
          rw [run_tokens v]
          exact run_memberTokens ms [(name, v)] name up ts

/-- The reader takes the items after the first, to the end of the array. -/
theorem run_itemTokens (vs items : List Json) (up : List Container)
    (ts : List Token) :
    (Reader.next (.array items) up).run
        (itemTokens vs ++ (.bracketClose :: ts))
      = (finish (.array (items.reverse ++ vs)) up).run ts := by
  cases vs with
  | nil =>
      rw [itemTokens, List.append_nil]
      rfl
  | cons v vs =>
      rw [itemTokens, List.append_assoc, List.cons_append, run_cons]
      show (Reader.value (.array items :: up)).run _ = _
      rw [run_tokens v]
      show (Reader.next (.array (v :: items)) up).run _ = _
      rw [run_itemTokens vs, List.reverse_cons, List.append_assoc]
      rfl

/-- The reader takes the members after the first, to the end of the
object. -/
theorem run_memberTokens (ms members : List (Option String × Json))
    (label : Option String) (up : List Container) (ts : List Token) :
    (Reader.next (.object members label) up).run
        (memberTokens ms ++ (.braceClose :: ts))
      = (finish (.object (members.reverse ++ ms)) up).run ts := by
  cases ms with
  | nil =>
      rw [memberTokens, List.append_nil]
      rfl
  | cons m ms =>
      obtain ⟨name, v⟩ := m
      rw [memberTokens, List.append_assoc, List.cons_append,
        List.cons_append, List.cons_append, run_cons]
      show (Reader.value (.object members name :: up)).run _ = _
      rw [run_tokens v]
      show (Reader.next (.object ((name, v) :: members) name) up).run _ = _
      rw [run_memberTokens ms, List.reverse_cons, List.append_assoc]
      rfl

end

/-- The tokens of a value stand for the value. -/
theorem ofTokens?_tokens (v : Json) : ofTokens? v.tokens = some v := by
  have hrun := run_tokens v [] []
  rw [List.append_nil] at hrun
  rw [ofTokens?, hrun]
  rfl

-- ======================================================== words in a text

namespace Token

variable {c : Char} {cs cs' rest : List Char} {t : Token} {ts ts' : List Token}

/-- Whether a word that ends in front of a text does not go on in it. -/
def Breaks (cs : List Char) : Prop :=
  ∀ c ∈ cs.head?, isWordChar c = false

/-- A text is cut into the given tokens, whatever stands behind it, as long as
that does not go on with its last word. -/
def Spells (cs : List Char) (ts : List Token) : Prop :=
  ∀ rest, Breaks rest → scan (cs ++ rest) = (scan rest).map (ts ++ ·)

theorem breaks_nil : Breaks [] :=
  nofun

theorem breaks_cons (h : isWordChar c = false) : Breaks (c :: cs) := by
  intro d hd
  cases hd
  exact h

theorem Breaks.append (h : Breaks cs) (h' : Breaks cs') :
    Breaks (cs ++ cs') := by
  cases cs with
  | nil => exact h'
  | cons c cs => exact breaks_cons (h c rfl)

/-- Punctuation stands in no word and is no blank. -/
theorem of_punctuation (h : ofPunctuation? c = some t) :
    isWordChar c = false ∧ isSpace c = false := by
  unfold ofPunctuation? at h
  split at h
  case h_7 => cases h
  all_goals exact ⟨rfl, rfl⟩

/-- A character of words is none of the others. -/
theorem of_isWordChar (h : isWordChar c = true) :
    isSpace c = false ∧ ofPunctuation? c = none ∧ c ≠ '"' := by
  refine ⟨?_, ?_, ?_⟩
  · rw [Bool.eq_false_iff]
    intro hspace
    simp only [isSpace, Bool.or_eq_true, decide_eq_true_eq] at hspace
    rcases hspace with ((rfl | rfl) | rfl) | rfl <;> cases h
  · cases hp : ofPunctuation? c with
    | none => rfl
    | some t =>
        rw [(of_punctuation hp).1] at h
        cases h
  · rintro rfl
    cases h

-- ============================================================ piece by piece

theorem spells_nil : Spells [] [] := by
  intro rest _
  simp

theorem Spells.append (h : Spells cs ts) (h' : Spells cs' ts')
    (hbreaks : Breaks cs') : Spells (cs ++ cs') (ts ++ ts') := by
  intro rest hrest
  rw [List.append_assoc, h _ (hbreaks.append hrest), h' rest hrest,
    Option.map_map]
  congr 1
  funext after
  exact (List.append_assoc ts ts' after).symm

theorem Spells.punctuation (hc : ofPunctuation? c = some t)
    (h : Spells cs ts) : Spells (c :: cs) (t :: ts) := by
  intro rest hrest
  rw [List.cons_append, scan, if_neg (by simp [(of_punctuation hc).2]), hc]
  show (scan (cs ++ rest)).map _ = _
  rw [h rest hrest, Option.map_map]
  rfl

theorem Spells.quote (text : Option String) (h : Spells cs ts) :
    Spells (quote text ++ cs) (.string text :: ts) := by
  intro rest hrest
  rw [List.append_assoc, scan_quote, h rest hrest, Option.map_map]
  rfl

/-- A word is a token of its own. -/
theorem spells_word (hword : cs.all isWordChar = true)
    (hof : ofWord? cs = some t) : Spells cs [t] := by
  intro rest hrest
  rw [List.all_eq_true] at hword
  cases cs with
  | nil => cases hof
  | cons c cs =>
      obtain ⟨hspace, hpunctuation, hquote⟩ :=
        of_isWordChar (hword c List.mem_cons_self)
      have hrestword : rest.takeWhile isWordChar = []
          ∧ rest.dropWhile isWordChar = rest := by
        cases rest with
        | nil => exact ⟨rfl, rfl⟩
        | cons d rest => simp [hrest d rfl]
      have hcs : ∀ d ∈ cs, isWordChar d = true :=
        fun d hd => hword d (List.mem_cons_of_mem c hd)
      rw [List.cons_append, scan, if_neg (by simp [hspace]), hpunctuation]
      dsimp only
      rw [if_neg hquote, List.takeWhile_append_of_pos hcs,
        List.dropWhile_append_of_pos hcs, hrestword.1, hrestword.2,
        List.append_nil, hof]
      rfl

-- ================================================================= numbers

/-- What is tested behind the digits of a number consists of characters of
words, so the number does. -/
theorem isWordChar_of_digitsThen {next : List Char → Bool}
    (hnext : ∀ {cs}, next cs = true → ∀ c ∈ cs, isWordChar c = true)
    (h : digitsThen next cs = true) : ∀ c ∈ cs, isWordChar c = true := by
  have hdigit : ∀ c : Char, c.isDigit = true → isWordChar c = true := by
    intro c hc
    simp [isWordChar, Char.isAlphanum, hc]
  cases cs with
  | nil => cases h
  | cons d cs =>
      obtain ⟨hd, hcs⟩ := Bool.and_eq_true_iff.mp h
      intro c hc
      rcases List.mem_cons.mp hc with rfl | hc
      · exact hdigit c hd
      rw [← cs.takeWhile_append_dropWhile (p := Char.isDigit)] at hc
      rcases List.mem_append.mp hc with hfirst | hlast
      · exact hdigit c (List.mem_takeWhile_imp hfirst)
      · exact hnext hcs c hlast

theorem isWordChar_of_isExponentPart (h : isExponentPart cs = true) :
    ∀ c ∈ cs, isWordChar c = true := by
  have hend : ∀ {cs : List Char}, cs.isEmpty = true →
      ∀ c ∈ cs, isWordChar c = true := by
    intro cs hcs c hc
    rw [List.isEmpty_iff.mp hcs] at hc
    cases hc
  cases cs with
  | nil => exact nofun
  | cons e cs =>
      obtain ⟨he, hcs⟩ := Bool.and_eq_true_iff.mp h
      have hletter : isWordChar e = true := by
        rcases (Bool.or_eq_true _ _).mp he with he | he
        · cases of_decide_eq_true he
          rfl
        · cases of_decide_eq_true he
          rfl
      refine List.forall_mem_cons.mpr ⟨hletter, ?_⟩
      split at hcs
      · exact List.forall_mem_cons.mpr
          ⟨rfl, isWordChar_of_digitsThen hend hcs⟩
      · exact List.forall_mem_cons.mpr
          ⟨rfl, isWordChar_of_digitsThen hend hcs⟩
      · exact isWordChar_of_digitsThen hend hcs

theorem isWordChar_of_isFractionPart (h : isFractionPart cs = true) :
    ∀ c ∈ cs, isWordChar c = true := by
  unfold isFractionPart at h
  split at h
  · exact List.forall_mem_cons.mpr
      ⟨rfl, isWordChar_of_digitsThen isWordChar_of_isExponentPart h⟩
  · exact isWordChar_of_isExponentPart h

theorem isWordChar_of_isMagnitude (h : isMagnitude cs = true) :
    ∀ c ∈ cs, isWordChar c = true := by
  unfold isMagnitude at h
  split at h
  · exact List.forall_mem_cons.mpr ⟨rfl, isWordChar_of_isFractionPart h⟩
  · exact isWordChar_of_digitsThen isWordChar_of_isFractionPart h

theorem isWordChar_of_isNumber (h : isNumber cs = true) :
    ∀ c ∈ cs, isWordChar c = true := by
  unfold isNumber at h
  split at h
  · exact List.forall_mem_cons.mpr ⟨rfl, isWordChar_of_isMagnitude h⟩
  · exact isWordChar_of_isMagnitude h

/-- The literal of a number is the token of the number. -/
theorem spells_number {literal : String}
    (h : isNumber literal.toList = true) :
    Spells literal.toList [.number literal] := by
  apply spells_word (List.all_eq_true.mpr (isWordChar_of_isNumber h))
  have hnot : ∀ word, isNumber word = false → literal.toList ≠ word := by
    rintro word hword rfl
    rw [h] at hword
    cases hword
  rw [ofWord?, if_neg (hnot _ rfl), if_neg (hnot _ rfl), if_neg (hnot _ rfl),
    if_pos h, String.ofList_toList]

end Token

-- ========================================================== the whole text

open SpellSessions.Json.Token (Spells Breaks spells_word spells_number)

/-- The values in which every number is spelled as a number. -/
inductive Spelled : Json → Prop
  | null : Spelled .null
  | bool (b : Bool) : Spelled (.bool b)
  | number (literal : String)
      (hliteral : Token.isNumber literal.toList = true) :
      Spelled (.number literal)
  | string (text : Option String) : Spelled (.string text)
  | array (items : List Json) (hitems : ∀ v ∈ items, Spelled v) :
      Spelled (.array items)
  | object (members : List (Option String × Json))
      (hmembers : ∀ m ∈ members, Spelled m.2) : Spelled (.object members)

/-- The characters of tokens. -/
def charsOf (ts : List Token) : List Char :=
  ts.flatMap Token.spell

theorem charsOf_cons (t : Token) (ts : List Token) :
    charsOf (t :: ts) = t.spell ++ charsOf ts :=
  rfl

theorem charsOf_append (ts ts' : List Token) :
    charsOf (ts ++ ts') = charsOf ts ++ charsOf ts' :=
  List.flatMap_append

theorem spells_itemTokens {vs : List Json}
    (h : ∀ v ∈ vs, Spells (charsOf v.tokens) v.tokens) :
    Breaks (charsOf (itemTokens vs))
      ∧ Spells (charsOf (itemTokens vs)) (itemTokens vs) := by
  induction vs with
  | nil =>
      rw [itemTokens]
      exact ⟨Token.breaks_nil, Token.spells_nil⟩
  | cons v vs ih =>
      obtain ⟨hv, hvs⟩ := List.forall_mem_cons.mp h
      obtain ⟨hbreaks, hitems⟩ := ih hvs
      rw [itemTokens, List.cons_append, charsOf_cons, charsOf_append]
      exact ⟨Token.breaks_cons rfl, (hv.append hitems hbreaks).punctuation rfl⟩

theorem spells_memberTokens {ms : List (Option String × Json)}
    (h : ∀ m ∈ ms, Spells (charsOf m.2.tokens) m.2.tokens) :
    Breaks (charsOf (memberTokens ms))
      ∧ Spells (charsOf (memberTokens ms)) (memberTokens ms) := by
  induction ms with
  | nil =>
      rw [memberTokens]
      exact ⟨Token.breaks_nil, Token.spells_nil⟩
  | cons m ms ih =>
      obtain ⟨hm, hms⟩ := List.forall_mem_cons.mp h
      obtain ⟨hbreaks, hmembers⟩ := ih hms
      simp only [memberTokens, List.cons_append, charsOf_cons, charsOf_append]
      refine ⟨Token.breaks_cons rfl, Spells.punctuation rfl ?_⟩
      apply Spells.quote
      exact (hm.append hmembers hbreaks).punctuation rfl

/-- The characters of a value are cut into its tokens. -/
theorem Spelled.spells {v : Json} (h : v.Spelled) :
    Spells (charsOf v.tokens) v.tokens := by
  induction h with
  | null =>
      rw [tokens]
      exact spells_word rfl rfl
  | bool b =>
      rw [tokens]
      cases b with
      | true => exact spells_word rfl rfl
      | false => exact spells_word rfl rfl
  | number literal hliteral =>
      rw [tokens, charsOf, List.flatMap_singleton]
      exact spells_number hliteral
  | string text =>
      rw [tokens]
      exact Token.spells_nil.quote text
  | array items hitems ih =>
      cases items with
      | nil =>
          rw [tokens]
          exact (Token.spells_nil.punctuation rfl).punctuation rfl
      | cons v vs =>
          obtain ⟨hv, hvs⟩ := List.forall_mem_cons.mp ih
          obtain ⟨hbreaks, hitems⟩ := spells_itemTokens hvs
          have hend : Spells [']'] [.bracketClose] :=
            Token.spells_nil.punctuation rfl
          simp only [tokens, List.cons_append, charsOf_cons, charsOf_append]
          apply Spells.punctuation rfl
          exact (hv.append hitems hbreaks).append hend (Token.breaks_cons rfl)
  | object members hmembers ih =>
      cases members with
      | nil =>
          rw [tokens]
          exact (Token.spells_nil.punctuation rfl).punctuation rfl
      | cons m ms =>
          obtain ⟨hm, hms⟩ := List.forall_mem_cons.mp ih
          obtain ⟨hbreaks, hmembers⟩ := spells_memberTokens hms
          have hend : Spells ['\x7d'] [.braceClose] :=
            Token.spells_nil.punctuation rfl
          simp only [tokens, List.cons_append, charsOf_cons, charsOf_append]
          apply Spells.punctuation rfl
          apply Spells.quote
          apply Spells.punctuation rfl
          exact (hm.append hmembers hbreaks).append hend (Token.breaks_cons rfl)

/-- A text that is cut into the tokens of a value stands for the value. -/
theorem parse?_of_scan {text : String} {v : Json}
    (h : Token.scan text.toList = some v.tokens) : parse? text = some v := by
  rw [parse?, h]
  exact ofTokens?_tokens v

theorem spelled_ofText (text : String) : (ofText text).Spelled :=
  .string text

/-- A value is read back from its compact text. -/
theorem Spelled.parse?_compact {v : Json} (h : v.Spelled) :
    parse? v.compact = some v := by
  apply parse?_of_scan
  have hscan := h.spells [] Token.breaks_nil
  rw [List.append_nil, Token.scan, Option.map_some, List.append_nil] at hscan
  rw [compact, String.toList_ofList]
  exact hscan

end SpellSessions.Json
