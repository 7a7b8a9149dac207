/-
Configuration of a host.

A document names any of four settings; what it leaves out has its
default. A name that is none of the four makes the document unreadable,
and so does a repetition.
-/
import SpellSessions.Json.Fields
import SpellSessions.Json.Reader
import SpellSessions.Json.Writer

namespace SpellSessions

/-- How log lines are written. -/
inductive LogFormat where
  /-- One JSON object per line. -/
  | json
  /-- One line of plain text. -/
  | compact
deriving DecidableEq, Repr

namespace LogFormat

/-- The name of a format. -/
def text : LogFormat → String
  | .json => "json"
  | .compact => "compact"

/-- The format with a given name, exactly spelled. -/
def ofName? (name : String) : Option LogFormat :=
  [json, compact].find? (·.text = name)

/-- The format with a given name, whatever the case of its ASCII
letters. -/
def ofText? (name : String) : Option LogFormat :=
  ofName? (name.map Char.toLower)

/-- The format that a JSON value holds: its name, or an object with the
name as its only member, which is null. -/
def ofJson? : Json → Option LogFormat
  | .string (some name) => ofName? name
  | .object [(some name, .null)] => ofName? name
  | _ => none

/-- A format as JSON. -/
def toJson (f : LogFormat) : Json :=
  .ofText f.text

end LogFormat

/-- The settings of a host. -/
structure Config where
  /-- Which log events are written. -/
  logFilter : String := "info"
  logFormat : LogFormat := .json
  /-- Locale tags that the ladder of a system locale that is not English
  ends with. -/
  fallbackLocales : List String := []
  /-- Whether spell checking is on for a user who never chose. -/
  enabledDefault : Bool := true
deriving DecidableEq, Repr

namespace Config

/-- The settings of a document that names none. -/
def default : Config := {}

/-- The names of the settings, in the order in which they are
written. -/
def fieldNames : List String :=
  ["log_filter", "log_format", "fallback_locales",
    "spell_checker_enabled_default"]

/-- The configuration that a JSON value holds. -/
def ofJson? (j : Json) : Option Config := do
  let [filter, format, locales, enabled] ← j.slots? .refused fieldNames
    | none
  return {
    logFilter := ← Json.orDefault? default.logFilter Json.text? filter
    logFormat := ← Json.orDefault? default.logFormat LogFormat.ofJson? format
    fallbackLocales :=
      ← Json.orDefault? default.fallbackLocales (Json.list? Json.text?) locales
    enabledDefault :=
      ← Json.orDefault? default.enabledDefault Json.bool? enabled }

/-- The configuration that a document holds. -/
def parse? (document : String) : Option Config :=
  (Json.parse? document).bind ofJson?

/-- A configuration as JSON, every setting written. -/
def toJson (c : Config) : Json :=
  .record [
    ("log_filter", .ofText c.logFilter),
    ("log_format", c.logFormat.toJson),
    ("fallback_locales", .ofTexts c.fallbackLocales),
    ("spell_checker_enabled_default", .bool c.enabledDefault)]

end Config

end SpellSessions
