import HangulLint.Text.Glyph
import HangulLint.Text.Printable

/-!
# Quoted text

Messages show a text that a user supplied between quotes, so that blanks and controls in it can
be told apart. Single quotes are used unless the text holds some and no double quote. The quote
in use and the backslash are escaped by a backslash, line feed, carriage return and tab have
their short escapes, and every other unprintable code point is written in hexadecimal.
-/

namespace HangulLint

namespace Text

/-- The last `width` hexadecimal digits of a number, padded with zeros. -/
def hexDigits : (width : Nat) → Nat → List Char
  | 0, _ => []
  | width + 1, n => hexDigits width (n / 16) ++ [Nat.digitChar (n % 16)]

/-- The shortest of the hexadecimal escapes with two, four and eight digits that fits. -/
def hexEscape (code : Nat) : List Char :=
  if code < 0x100 then '\\' :: 'x' :: hexDigits 2 code
  else if code < 0x10000 then '\\' :: 'u' :: hexDigits 4 code
  else '\\' :: 'U' :: hexDigits 8 code

/-- The quote that encloses a text. -/
def quoteMark (t : Text) : Char :=
  if List.contains t (.scalar '\'') && !List.contains t (.scalar '"') then '"' else '\''

/-- One glyph as it is written between the given quotes. -/
def quotedGlyph (mark : Char) : Glyph → List Char
  | .stray b => hexEscape (Glyph.stray b).code
  | .scalar c =>
    if c = mark || c = '\\' then ['\\', c]
    else if c = '\n' then ['\\', 'n']
    else if c = '\r' then ['\\', 'r']
    else if c = '\t' then ['\\', 't']
    else if isPrintable c.toNat then [c]
    else hexEscape c.toNat

/-- The text between quotes, with escapes. -/
def quoted (t : Text) : Text :=
  let mark := quoteMark t
  ofChars (mark :: (t.flatMap (quotedGlyph mark) ++ [mark]))

end Text

end HangulLint
