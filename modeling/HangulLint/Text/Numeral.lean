import HangulLint.Text.Blank
import HangulLint.Text.Decimal
import HangulLint.Text.Glyph

/-!
# Whole numbers as users write them

A numeral is an optional sign and decimal digits of any script, with single underscores allowed
between digits and blanks around the whole. In a numeral of ASCII characters only the ASCII
blanks count.

* `readDigits` — digits and underscores;
* `readInt?` — the whole numeral.
-/

namespace HangulLint

/-- The most digits a numeral may have. -/
def maxNumeralDigits : Nat := 4300

/-- The value of digits with single underscores between them. `last` tells whether the character
before was a digit, `count` how many digits came before. -/
def readDigits (value count : Nat) (last : Bool) : List Char → Option Nat
  | [] => if last && count ≤ maxNumeralDigits then some value else none
  | '_' :: rest => if last then readDigits value count false rest else none
  | c :: rest =>
    match digitValue? c.toNat with
    | some d => readDigits (value * 10 + d) (count + 1) true rest
    | none => none

/-- The value of a numeral without blanks around it. -/
def readSigned : List Char → Option Int
  | '-' :: rest => (readDigits 0 0 false rest).map fun n => -(n : Int)
  | '+' :: rest => (readDigits 0 0 false rest).map Int.ofNat
  | rest => (readDigits 0 0 false rest).map Int.ofNat

/-- The blanks that may surround a numeral of ASCII characters. -/
def isAsciiBlank (c : Char) : Bool := (0x09 ≤ c.toNat && c.toNat ≤ 0x0D) || c = ' '

/-- The value of a numeral, if it is one. -/
def readInt? (s : List Char) : Option Int :=
  let blank := if s.all fun c => c.toNat < 0x80 then isAsciiBlank else isBlank
  readSigned (stripWhile blank s)

/-- The value of a numeral given as text; a stray byte is part of no numeral. -/
def Text.int? (t : Text) : Option Int := (Text.chars? t).bind readInt?

end HangulLint
