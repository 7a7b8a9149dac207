/-
Reading JSON: the value that a text stands for.

Tokens are taken one by one. What has been opened and not yet closed is
kept on a stack, the innermost container first, each with the items read
so far; a finished value goes into the innermost container, and the
outermost value is the answer once no token is left.
-/
import SpellSessions.Json.Token

namespace SpellSessions.Json

/-- A container that has been opened: what it holds so far, newest
first. -/
inductive Container where
  | array (items : List Json)
  /-- An object, with the name of the member being read. -/
  | object (members : List (Option String × Json)) (label : Option String)

/-- What the reader is waiting for, inside the open containers. -/
inductive Reader where
  /-- A value. -/
  | value (up : List Container)
  /-- The first item of an array, or its end. -/
  | firstItem (up : List Container)
  /-- The first name of an object, or its end. -/
  | firstName (up : List Container)
  /-- The name of a further member, after the members read. -/
  | memberName (members : List (Option String × Json))
      (up : List Container)
  /-- The colon after a name. -/
  | colon (members : List (Option String × Json)) (label : Option String)
      (up : List Container)
  /-- A comma or the end of the innermost container. -/
  | next (inner : Container) (up : List Container)
  /-- Nothing: the value is complete. -/
  | done (v : Json)

namespace Reader

/-- A finished value goes into the innermost open container. -/
def finish (v : Json) : List Container → Reader
  | [] => .done v
  | .array items :: up => .next (.array (v :: items)) up
  | .object members label :: up =>
    .next (.object ((label, v) :: members) label) up

/-- A token where a value begins. -/
def beginValue (up : List Container) : Token → Option Reader
  | .null => some (finish .null up)
  | .bool b => some (finish (.bool b) up)
  | .number literal => some (finish (.number literal) up)
  | .string text => some (finish (.string text) up)
  | .bracketOpen => some (.firstItem up)
  | .braceOpen => some (.firstName up)
  | _ => none

/-- One token, unless it may not stand here. -/
def step : Reader → Token → Option Reader
  | .value up, token => beginValue up token
  | .firstItem up, .bracketClose => some (finish (.array []) up)
  | .firstItem up, token => beginValue (.array [] :: up) token
  | .firstName up, .braceClose => some (finish (.object []) up)
  | .firstName up, .string text => some (.colon [] text up)
  | .firstName _, _ => none
  | .memberName members up, .string text => some (.colon members text up)
  | .memberName _ _, _ => none
  | .colon members label up, .colon =>
    some (.value (.object members label :: up))
  | .colon _ _ _, _ => none
  | .next (.array items) up, .comma => some (.value (.array items :: up))
  | .next (.array items) up, .bracketClose =>
    some (finish (.array items.reverse) up)
  | .next (.array _) _, _ => none
  | .next (.object members _) up, .comma => some (.memberName members up)
  | .next (.object members _) up, .braceClose =>
    some (finish (.object members.reverse) up)
  | .next (.object _ _) _, _ => none
  | .done _, _ => none

/-- All tokens in turn. -/
def run (r : Reader) (tokens : List Token) : Option Reader :=
  tokens.foldlM step r

/-- The value, once the reader waits for nothing more. -/
def result? : Reader → Option Json
  | .done v => some v
  | _ => none

end Reader

/-- The value that tokens spell. -/
def ofTokens? (tokens : List Token) : Option Json :=
  ((Reader.value []).run tokens).bind Reader.result?

/-- The value that a text stands for, unless the text is not JSON. -/
def parse? (text : String) : Option Json :=
  (Token.scan text.toList).bind ofTokens?

end SpellSessions.Json
