import HangulLint.Text.Ranges

/-!
# Blank characters

The characters that trimming removes: white space in the sense of Unicode's bidirectional and
separator classes. Zero width spaces and fillers are not blank.

* `isBlank` — the class;
* `dropEndWhile`, `stripWhile` — a list without the ends that satisfy a test;
* `strip` — a text without the blanks at either end.
-/

namespace HangulLint

/-- The code points of the blank characters. -/
def blankRanges : CodeRanges :=
  [(0x09, 0x0D), (0x1C, 0x20), (0x85, 0x85), (0xA0, 0xA0), (0x1680, 0x1680), (0x2000, 0x200A),
   (0x2028, 0x2029), (0x202F, 0x202F), (0x205F, 0x205F), (0x3000, 0x3000)]

/-- Whether a character is blank. -/
def isBlank (c : Char) : Bool := blankRanges.covers c.toNat

/-- What is left of a list after the longest end whose elements all satisfy the test is cut. -/
def dropEndWhile {α : Type} (p : α → Bool) (s : List α) : List α :=
  (s.reverse.dropWhile p).reverse

/-- What is left of a list after what satisfies the test is cut from both ends. -/
def stripWhile {α : Type} (p : α → Bool) (s : List α) : List α := dropEndWhile p (s.dropWhile p)

/-- The text without the blanks at its two ends. -/
def strip (s : List Char) : List Char := stripWhile isBlank s

end HangulLint
