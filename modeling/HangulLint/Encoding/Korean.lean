import HangulLint.Encoding.KsX1001

/-!
# Korean encodings

Both encodings keep ASCII as single bytes and write every other character as two.

* EUC-KR uses bytes from A1 to FE alone: row and cell of the KS X 1001 table. The syllables that the
  table lacks are made up of four of its cells: the filler, then an initial, a medial and a final
  letter, with the filler once more where there is no final.
* CP949 adds the syllables that the table lacks. They take, in the order of Unicode, the pairs
  outside the table's block: first the lead bytes 81 to A0 with 178 trail bytes each, then the
  lead bytes A1 to C6 with the 84 trail bytes below A1.
-/

namespace HangulLint.Korean

/-- The character of a pair of bytes from A1 to FE. -/
def standardChar? (lead trail : UInt8) : Option Char :=
  if 0xA1 ≤ lead && lead ≤ 0xFE && 0xA1 ≤ trail && trail ≤ 0xFE then
    KsX1001.cell? (lead.toNat - 0xA1) (trail.toNat - 0xA1)
  else none

/-- The rank of a trail byte among those that an added syllable may have. -/
def trailRank? (trail : UInt8) : Option Nat :=
  if 0x41 ≤ trail && trail ≤ 0x5A then some (trail.toNat - 0x41)
  else if 0x61 ≤ trail && trail ≤ 0x7A then some (trail.toNat - 0x61 + 26)
  else if 0x81 ≤ trail && trail ≤ 0xFE then some (trail.toNat - 0x81 + 52)
  else none

/-- The rank of a pair of bytes among those of the added syllables. -/
def addedRank? (lead trail : UInt8) : Option Nat := do
  let rank ← trailRank? trail
  if 0x81 ≤ lead && lead ≤ 0xA0 then some ((lead.toNat - 0x81) * 178 + rank)
  else if 0xA1 ≤ lead && lead ≤ 0xC6 && rank < 84 then
    some (32 * 178 + (lead.toNat - 0xA1) * 84 + rank)
  else none

/-- How many syllables CP949 adds. -/
def addedCount : Nat := 8822

/-- The added syllable of a pair of bytes. -/
def addedChar? (lead trail : UInt8) : Option Char := do
  let rank ← addedRank? lead trail
  if rank < addedCount then
    some (Char.ofNat (KsX1001.nthAbsent 0xAC00 rank (KsX1001.syllables.map Char.toNat)))
  else none

/-- The character that a pair of bytes stands for in CP949. -/
def unifiedChar? (lead trail : UInt8) : Option Char :=
  (standardChar? lead trail).or (addedChar? lead trail)

/-! ### Syllables made up of letters -/

/-- The row of the letters. -/
def letterRow : UInt8 := 0xA4

/-- The cell of the filler in the row of the letters. -/
def filler : UInt8 := 0xD4

/-- The cells of the letters that can begin a syllable, in the order of Unicode. -/
def initials : List UInt8 :=
  [0xA1, 0xA2, 0xA4, 0xA7, 0xA8, 0xA9, 0xB1, 0xB2, 0xB3, 0xB5, 0xB6, 0xB7, 0xB8, 0xB9, 0xBA, 0xBB,
   0xBC, 0xBD, 0xBE]

/-- The cells of the vowels, in the order of Unicode. -/
def medials : List UInt8 :=
  [0xBF, 0xC0, 0xC1, 0xC2, 0xC3, 0xC4, 0xC5, 0xC6, 0xC7, 0xC8, 0xC9, 0xCA, 0xCB, 0xCC, 0xCD, 0xCE,
   0xCF, 0xD0, 0xD1, 0xD2, 0xD3]

/-- The cells of the letters that can end a syllable, in the order of Unicode; none comes first. -/
def finals : List UInt8 :=
  [filler, 0xA1, 0xA2, 0xA3, 0xA4, 0xA5, 0xA6, 0xA7, 0xA9, 0xAA, 0xAB, 0xAC, 0xAD, 0xAE, 0xAF, 0xB0,
   0xB1, 0xB2, 0xB4, 0xB5, 0xB6, 0xB7, 0xB8, 0xBA, 0xBB, 0xBC, 0xBD, 0xBE]

/-- The syllable of three cells in the row of the letters. -/
def syllable? (initial medial final : UInt8) : Option Char := do
  let i ← initials.idxOf? initial
  let m ← medials.idxOf? medial
  let f ← finals.idxOf? final
  return Char.ofNat (0xAC00 + (i * medials.length + m) * finals.length + f)

/-! ### Reading -/

/-- Reads single bytes below 80 and pairs to the end, the characters read so far in `before`,
last first. Where syllables are `composed`, the filler begins one. -/
def decodeFrom (composed : Bool) (pair? : UInt8 → UInt8 → Option Char) (before : List Char) :
    List UInt8 → Option (List Char)
  | [] => some before.reverse
  | [b] => if b < 0x80 then some (Char.ofNat b.toNat :: before).reverse else none
  | b :: trail :: rest =>
    if b < 0x80 then decodeFrom composed pair? (Char.ofNat b.toNat :: before) (trail :: rest)
    else if composed && b = letterRow && trail = filler then
      match rest with
      | first :: initial :: second :: medial :: third :: final :: rest =>
        if first = letterRow && second = letterRow && third = letterRow then
          match syllable? initial medial final with
          | some c => decodeFrom composed pair? (c :: before) rest
          | none => none
        else none
      | _ => none
    else match pair? b trail with
      | some c => decodeFrom composed pair? (c :: before) rest
      | none => none

/-- The characters of EUC-KR bytes. -/
def decodeEucKr? (bs : List UInt8) : Option (List Char) := decodeFrom true standardChar? [] bs

/-- The characters of CP949 bytes. -/
def decodeCp949? (bs : List UInt8) : Option (List Char) := decodeFrom false unifiedChar? [] bs

end HangulLint.Korean
