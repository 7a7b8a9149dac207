/-
Locales as JSON: a locale is the string of its canonical text, and is
read from any string that stands for one.
-/
import SpellSessions.Json.Reader
import SpellSessions.Json.Writer
import SpellSessions.Locale

namespace SpellSessions.Locale

/-- The locale that a JSON value holds. -/
def ofJson? (j : Json) : Option Locale :=
  j.text?.bind fun tag => (parse tag).toOption

/-- A locale as JSON. -/
def toJson (l : Locale) : Json :=
  .ofText l.render

end SpellSessions.Locale
