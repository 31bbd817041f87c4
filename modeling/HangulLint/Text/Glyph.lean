/-!
# Text with undecodable bytes

File names are bytes. Where they are not valid UTF-8 the offending bytes stay visible in the
text as units of their own, so that every name has a text and no two names share one. Such a
byte counts as one position and sorts by the code point `0xDC00 + byte`, which no character has.

* `Glyph` — a character, or a stray byte of a file name;
* `Text` — a sequence of them;
* `Text.le` — the order by code points, used wherever names are sorted.
-/

namespace HangulLint

/-- One unit of text: a character, or a byte of a file name that belongs to no character. -/
inductive Glyph where
  | scalar (c : Char)
  | stray (b : UInt8)
deriving DecidableEq, Inhabited

/-- The code point of a glyph; a stray byte takes one from the range that characters leave free. -/
def Glyph.code : Glyph → Nat
  | .scalar c => c.toNat
  | .stray b => 0xDC00 + b.toNat

/-- A sequence of glyphs. -/
abbrev Text := List Glyph

namespace Text

/-- The text that holds exactly these characters. -/
def ofChars (cs : List Char) : Text := cs.map Glyph.scalar

/-- The text of a string. -/
def ofString (s : String) : Text := ofChars s.toList

instance : Coe String Text := ⟨ofString⟩

/-- The decimal text of a whole number. -/
def ofInt (n : Int) : Text := ofString (toString n)

/-- The decimal text of a natural number. -/
def ofNat (n : Nat) : Text := ofString (toString n)

/-- The characters of a text, unless it holds a stray byte. -/
def chars? : Text → Option (List Char)
  | [] => some []
  | .scalar c :: rest => (chars? rest).map (c :: ·)
  | .stray _ :: _ => none

/-- The characters of a text, with U+FFFD in the place of each stray byte. -/
def visibleChars (t : Text) : List Char :=
  t.map fun
    | .scalar c => c
    | .stray _ => '\uFFFD'

theorem chars?_ofChars (cs : List Char) : chars? (ofChars cs) = some cs := by
  induction cs with
  | nil => rfl
  | cons c cs ih => simpa [ofChars, chars?] using ih

theorem ofChars_append (a b : List Char) : ofChars (a ++ b) = ofChars a ++ ofChars b := by
  simp [ofChars]

/-- The order by code points, a proper beginning of a text before the text itself. -/
def le : Text → Text → Bool
  | [], _ => true
  | _ :: _, [] => false
  | a :: as, b :: bs => a.code < b.code || (a.code == b.code && le as bs)

end Text

end HangulLint
