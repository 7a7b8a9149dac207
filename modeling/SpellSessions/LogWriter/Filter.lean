/-
Log filters: which log records are written.

A filter is a list of directives separated by commas. A directive names
a level, or a target and a level, or a target alone, which stands for
every level. For a record, the directive with the longest target that
the record's target begins with decides, the later one of two with the
same target; a directive without a target is shorter than any other.
Without a directive that applies nothing is written.

# Blanks

Blanks around a directive are passed over when it is looked at how the
directive begins, and are part of it all the same. So a level with a
blank beside it is the name of a target, a target is looked for with its
blanks, and a directive that consists of blanks begins like nothing. A
blank in front of a target leaves the level behind it unreadable.
-/
import SpellSessions.Notice
import SpellSessions.Text.Alphanumeric
import SpellSessions.Text.Blank
import SpellSessions.Text.Split

namespace SpellSessions

/-- The levels up to which records are written: none, or all that are at
least as grave as a given one. -/
inductive Threshold where
  | off
  | upTo (level : Level)
deriving DecidableEq, Repr

/-- The levels from the gravest to the least grave. -/
def Level.rank : Level → Nat
  | .error => 1
  | .warn => 2
  | .info => 3
  | .debug => 4
  | .trace => 5

namespace Threshold

/-- Whether records of a level are written. -/
def passes : Threshold → Level → Bool
  | off, _ => false
  | upTo least, level => level.rank ≤ least.rank

/-- The threshold of a given number, from 0 for none to 5 for all. -/
def ofRank? : Nat → Option Threshold
  | 0 => some off
  | 1 => some (upTo .error)
  | 2 => some (upTo .warn)
  | 3 => some (upTo .info)
  | 4 => some (upTo .debug)
  | 5 => some (upTo .trace)
  | _ => none

/-- The threshold of a given name in lower case. -/
def ofName? (name : String) : Option Threshold :=
  if name = "off" then some off
  else if name = "error" then some (upTo .error)
  else if name = "warn" then some (upTo .warn)
  else if name = "info" then some (upTo .info)
  else if name = "debug" then some (upTo .debug)
  else if name = "trace" then some (upTo .trace)
  else none

/-- The value of decimal digits, which may follow a plus sign. -/
def ofDigits? (text : List Char) : Option Nat :=
  let digits := match text with
    | '+' :: rest => rest
    | all => all
  if digits.isEmpty || !digits.all Char.isDigit then none
  else some (digits.foldl (fun n c => 10 * n + (c.toNat - '0'.toNat)) 0)

/-- The threshold that a text names, by number or, in any letter case,
by name. -/
def parse? (text : List Char) : Option Threshold :=
  ((ofDigits? text).bind ofRank?).or
    (ofName? (String.ofList (text.map Char.toLower)))

end Threshold

/-- One rule of a filter. -/
structure Directive where
  /-- What the target of a record begins with; any target if absent. -/
  target : Option String
  threshold : Threshold
deriving DecidableEq, Repr

/-- Why a text is no filter. -/
inductive FilterFault where
  /-- What follows the target is no level. -/
  | level
  /-- A directive does not begin like a target or a level. -/
  | directive
deriving DecidableEq, Repr

/-- The fault in words. -/
def FilterFault.message : FilterFault → String
  | .level =>
    "error parsing level filter: expected one of \"off\", \"error\", "
      ++ "\"warn\", \"info\", \"debug\", \"trace\", or a number 0-5"
  | .directive => "invalid filter directive"

namespace Directive

/-- The characters with which a target or a level begins. -/
def canStart (c : Char) : Bool :=
  Text.isAlphanumeric c || c = '-' || c = ':' || c = '_'

/-- The threshold written behind a target. Nothing at all means every
level. -/
def thresholdAfter (text : List Char) : Except FilterFault Threshold :=
  if text.isEmpty then .ok (.upTo .trace)
  else
    match Threshold.parse? text with
    | some threshold => .ok threshold
    | none => .error .level

/-- The directive that a text stands for. -/
def parse (text : List Char) : Except FilterFault Directive :=
  if !(Text.trimStart text).head?.any canStart then .error .directive
  else
    let name := text.takeWhile (· ≠ '=')
    match text.dropWhile (· ≠ '=') with
    | _ :: level =>
      if text.head?.any Text.isBlank then .error .level
      else (thresholdAfter level).map (⟨some (String.ofList name), ·⟩)
    | [] =>
      match Threshold.parse? name with
      | some threshold => .ok ⟨none, threshold⟩
      | none => .ok ⟨some (String.ofList name), .upTo .trace⟩

/-- Whether a directive speaks of a target. -/
def covers (d : Directive) (target : String) : Bool :=
  match d.target with
  | none => true
  | some start => start.toList.isPrefixOf target.toList

/-- How specific a directive is. -/
def specificity (d : Directive) : Nat :=
  match d.target with
  | none => 0
  | some start => start.utf8ByteSize + 1

end Directive

/-- A filter: its directives, in the order of the text. -/
structure Filter where
  directives : List Directive
deriving DecidableEq, Repr

namespace Filter

/-- The pieces of a text between commas, empty ones left out. -/
def pieces (text : String) : List (List Char) :=
  (Text.split (· = ',') text.toList).filter (!·.isEmpty)

/-- The filter that a text stands for. Without any directive, errors are
written. -/
def parse (text : String) : Except FilterFault Filter := do
  let directives ← (pieces text).mapM Directive.parse
  return ⟨if directives.isEmpty then [⟨none, .upTo .error⟩]
    else directives⟩

/-- The directive that decides on a target: of those that speak of it
the most specific one, and the last of equally specific ones. -/
def deciding? (f : Filter) (target : String) : Option Directive :=
  (f.directives.filter (·.covers target)).foldl
    (fun best d =>
      match best with
      | none => some d
      | some b => if b.specificity ≤ d.specificity then some d else some b)
    none

/-- Whether a record is written. -/
def passes (f : Filter) (r : LogRecord) : Bool :=
  (f.deciding? r.target).any (·.threshold.passes r.level)

end Filter

end SpellSessions
