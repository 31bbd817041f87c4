import HangulLint.Text.Blank
import HangulLint.Text.Glyph
import HangulLint.Text.Pieces

/-!
# Lines and comma lists

* `lines` — the lines of a source file: line feeds alone end a line, so a carriage return stays
  on its line until the line is trimmed;
* `trimLine` — a line without the carriage returns at its end and the blanks at both ends;
* `commaList`, `Text.commaList` — the entries of a comma separated setting.
-/

namespace HangulLint

/-- The lines of a source file. -/
def lines (s : List Char) : List (List Char) := pieces '\n' s

/-- A line without the carriage returns at its end, then without the blanks at both ends. -/
def trimLine (s : List Char) : List Char := strip (dropEndWhile (· = '\r') s)

/-- The entries of a setting that lists several: blanks around an entry do not count, and entries
of nothing but blanks are skipped. -/
def entries {α : Type} [DecidableEq α] (sep : α) (blank : α → Bool) (s : List α) : List (List α) :=
  ((pieces sep s).map (stripWhile blank)).filter (!·.isEmpty)

/-- The entries of a comma separated setting. -/
def commaList (s : List Char) : List (List Char) := entries ',' isBlank s

/-- Whether a glyph is a blank character. -/
def Glyph.isBlank : Glyph → Bool
  | .scalar c => HangulLint.isBlank c
  | .stray _ => false

/-- The entries of a comma separated setting that is given as text. -/
def Text.commaList (t : Text) : List Text := entries (.scalar ',') Glyph.isBlank t

end HangulLint
