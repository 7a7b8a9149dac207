/-
The process-wide writer of log lines.

A process has one place for a writer. The first configuration that makes
a working filter takes it, if nobody else has; later configurations get
the handle of the first, whatever they ask for. An attempt that fails
takes nothing and may be repeated.
-/
import SpellSessions.Config
import SpellSessions.LogWriter.Filter
import SpellSessions.Text.Lines

namespace SpellSessions

/-- What the writer in place runs with. -/
structure WriterHandle where
  format : LogFormat
  /-- The text of its filter. -/
  filter : String
deriving DecidableEq, Repr

/-- Why no writer could be put in place. -/
inductive WriterFault where
  | filter (fault : FilterFault)
  /-- The place is taken by a writer of someone else. -/
  | occupied
deriving DecidableEq, Repr

/-- The fault in words. -/
def WriterFault.message : WriterFault → String
  | .filter fault => "invalid log filter: " ++ fault.message
  | .occupied =>
    "failed to install telemetry subscriber: a global default trace "
      ++ "dispatcher has already been set"

/-- The place for the writer of a process. -/
inductive WriterSlot where
  | vacant
  /-- A writer of someone else, which writes none of our lines. -/
  | foreign
  | installed (handle : WriterHandle) (filter : Filter)
deriving DecidableEq, Repr

/-- A written line, without the time of writing. -/
inductive LogLine where
  | json (value : Json)
  | plain (text : String)

namespace LogRecord

/-- The value that stands for a record, its fields beside level, target
and message. -/
def toJson (r : LogRecord) : Json :=
  .record <|
    [("level", .ofText r.level.text), ("target", .ofText r.target),
      ("message", .ofText r.message)]
      ++ r.fields.map fun (name, value) => (name, value.toJson)

/-- The text that stands for a record: level, target, message, and then
the fields in their order. -/
def plain (r : LogRecord) : String :=
  r.level.text ++ " " ++ r.target ++ ": " ++ r.message
    ++ String.join (r.fields.map fun (name, value) =>
      " " ++ name ++ "=" ++ value.plain)

/-- The lines of a record in a given format. A value takes one line; a
plain text takes as many as line feeds in its fields make of it. -/
def lines (r : LogRecord) : LogFormat → List LogLine
  | .json => [.json r.toJson]
  | .compact =>
    (Text.lines r.plain.toList).map (.plain <| String.ofList ·)

end LogRecord

namespace WriterSlot

/-- A configuration asks for its writer: the handle it gets, and the
place afterwards. -/
def install (slot : WriterSlot) (c : Config) :
    Except WriterFault WriterHandle × WriterSlot :=
  match slot with
  | .installed handle _ => (.ok handle, slot)
  | _ =>
    match Filter.parse c.logFilter with
    | .error fault => (.error (.filter fault), slot)
    | .ok filter =>
      if slot = .foreign then (.error .occupied, slot)
      else
        let handle : WriterHandle := ⟨c.logFormat, c.logFilter⟩
        (.ok handle, .installed handle filter)

/-- The lines that are written for a record; none, unless the filter in
place lets it pass. -/
def write (slot : WriterSlot) (r : LogRecord) : List LogLine :=
  match slot with
  | .installed handle filter =>
    if filter.passes r then r.lines handle.format else []
  | _ => []

/-- The lines that are written for notices. -/
def lines (slot : WriterSlot) (notices : List Notice) : List LogLine :=
  notices.flatMap fun n => slot.write n.record

end WriterSlot

end SpellSessions
