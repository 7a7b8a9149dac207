/-
The lines of a text.

A line ends at a line feed, and a carriage return just before the line
feed belongs to the line end. Other characters that break lines in other
places do not break them here.
-/
import SpellSessions.Text.Split

namespace SpellSessions.Text

/-- A line without the carriage return it ends with, if it does. -/
def withoutReturn (line : List Char) : List Char :=
  if line.getLast? = some '\r' then line.dropLast else line

/-- The lines of a text that is followed by a line feed: at least one,
and possibly empty ones. -/
def lines (cs : List Char) : List (List Char) :=
  (split (· = '\n') cs).map withoutReturn

end SpellSessions.Text
