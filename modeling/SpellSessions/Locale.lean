/-
Locale tags: `language[-region[-variant]]`.

A tag is read from text with either separator and any letter case, and
written in one canonical form: a lower-case language, an upper-case
region, `-` between the parts. A variant is free text and keeps its
spelling.

# The grammar

With the blanks around it removed, a tag is split at every `-` and `_`.
The first part is the language: two to eight ASCII letters. A second
part of two ASCII letters or three ASCII digits is the region; all parts
after it, or after the language when the second part is no region, are
the variant, and none of them is empty. `Char.isAlpha`, `Char.isDigit`
and core's case maps know ASCII only, which is what the grammar asks.
-/
import SpellSessions.Text.Blank
import SpellSessions.Text.Split

namespace SpellSessions

/-- A locale, in the spelling of its canonical form. -/
structure Locale where
  language : String
  region : Option String
  variant : Option String
deriving DecidableEq, Repr

/-- Why a text is no locale tag. -/
inductive LocaleFault where
  /-- There is nothing but blanks. -/
  | empty
  /-- The first part is not two to eight ASCII letters. -/
  | language
  /-- A part of the variant is empty. -/
  | emptySubtag
deriving DecidableEq, Repr

/-- A text that is no locale tag, as it was given, and why. -/
structure LocaleError where
  input : String
  fault : LocaleFault
deriving DecidableEq, Repr

/-- The reason in words. -/
def LocaleFault.reason : LocaleFault → String
  | .empty => "tag is empty"
  | .language => "language must be 2-8 letters"
  | .emptySubtag => "empty subtag"

/-- The refusal in words. It quotes the text as given, blanks and
all. -/
def LocaleError.message (e : LocaleError) : String :=
  "invalid locale tag '" ++ e.input ++ "': " ++ e.fault.reason

namespace Locale

-- ============================================================= subtags

/-- The two characters that separate the parts of a tag. -/
def isSeparator (c : Char) : Bool :=
  c = '-' || c = '_'

/-- The parts of a tag: the text between separators, at least one part
and possibly empty ones. -/
def subtags (cs : List Char) : List (List Char) :=
  Text.split isSeparator cs

/-- Parts written one after the other with `-` between them. -/
def joinSubtags : List (List Char) → List Char
  | [] => []
  | [part] => part
  | part :: parts => part ++ '-' :: joinSubtags parts

/-- A part that can stand for a language: two to eight ASCII letters. -/
def isLanguage (part : List Char) : Bool :=
  2 ≤ part.length && part.length ≤ 8 && part.all Char.isAlpha

/-- A part that can stand for a region: two ASCII letters or three ASCII
digits. -/
def isRegion (part : List Char) : Bool :=
  (part.length = 2 && part.all Char.isAlpha)
    || (part.length = 3 && part.all Char.isDigit)

/-- The language a part names, in lower case. -/
def languageText (part : List Char) : String :=
  String.ofList (part.map Char.toLower)

/-- The region a part names, in upper case. -/
def regionText (part : List Char) : String :=
  String.ofList (part.map Char.toUpper)

/-- The variant that parts make up: absent when there are none, and
otherwise the parts joined by `-`. -/
def variantText : List (List Char) → Option String
  | [] => none
  | parts => some (String.ofList (joinSubtags parts))

-- ======================================================== reading a tag

/-- The parts that follow the language, taken as a region, if the first
of them can be one, and the parts of the variant. -/
def splitRegion : List (List Char) → Option String × List (List Char)
  | [] => (none, [])
  | part :: parts =>
    if isRegion part then (some (regionText part), parts)
    else (none, part :: parts)

/-- The locale with the given parts. -/
def ofSubtags : List (List Char) → Except LocaleFault Locale
  | [] => .error .language
  | first :: rest =>
    if isLanguage first then
      let (region, variants) := splitRegion rest
      if variants.any List.isEmpty then .error .emptySubtag
      else .ok ⟨languageText first, region, variantText variants⟩
    else .error .language

/-- The locale a text without blanks around it stands for. -/
def ofTrimmed (cs : List Char) : Except LocaleFault Locale :=
  if cs.isEmpty then .error .empty else ofSubtags (subtags cs)

/-- The locale a text stands for. A refusal carries the text as given,
before any trimming. -/
def parse (input : String) : Except LocaleError Locale :=
  (ofTrimmed (Text.trim input.toList)).mapError fun fault => ⟨input, fault⟩

/-- The locale of a bare language. The text is taken as it is: neither
blanks nor further parts are allowed. -/
def ofLanguage (input : String) : Except LocaleError Locale :=
  if isLanguage input.toList then
    .ok ⟨languageText input.toList, none, none⟩
  else .error ⟨input, .language⟩

-- ======================================================= writing a tag

/-- A part that may be absent, with the separator in front of it. -/
def renderPart : Option String → String
  | none => ""
  | some part => "-" ++ part

/-- The canonical text of a locale. -/
def render (l : Locale) : String :=
  l.language ++ renderPart l.region ++ renderPart l.variant

-- ===================================================== derived locales

/-- Whether the language is English. -/
def isEnglish (l : Locale) : Bool :=
  l.language = "en"

/-- The bare language of a locale. -/
def bareLanguage (l : Locale) : Locale :=
  ⟨l.language, none, none⟩

/-- The language and region of a locale that has a region. -/
def withoutVariant? (l : Locale) : Option Locale :=
  l.region.map fun region => ⟨l.language, some region, none⟩

-- =============================================================== order

/-- Locales are ordered by language, then region, then variant; a part
that is absent comes before every text, and texts are compared
character by character, which is the order of their UTF-8 bytes. -/
instance : Ord Locale where
  compare a b :=
    (compare a.language b.language).then <|
      (compare a.region b.region).then (compare a.variant b.variant)

/-- Locales in ascending order; equal ones stay in the order given. -/
def sort (ls : List Locale) : List Locale :=
  ls.mergeSort fun a b => (compare a b).isLE

end Locale

end SpellSessions
