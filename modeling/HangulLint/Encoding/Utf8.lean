import HangulLint.Text.Glyph

/-!
# UTF-8

Reading is strict: a lead byte is followed by exactly the continuation bytes that it announces,
the shortest form is the only one, and neither surrogates nor values above U+10FFFF are
characters.

* `Utf8.encode`, `Utf8.decode?` — between characters and bytes;
* `Utf8.encodeText` — the bytes of a text, refused where it holds stray bytes;
* `Utf8.nameOfBytes`, `Utf8.bytesOfName` — between the bytes of a file name and its text.
-/

namespace HangulLint.Utf8

/-- The bytes of a character list. -/
def encode (cs : List Char) : List UInt8 := cs.flatMap String.utf8EncodeChar

/-- What a lead byte announces. -/
structure Lead where
  /-- How many continuation bytes follow. -/
  following : Nat
  /-- The bits of the character that the lead byte itself holds. -/
  bits : Nat
  /-- The least value for which this length is the shortest. -/
  least : Nat

/-- The announcement of a byte, if it can begin a character. -/
def lead? (b : UInt8) : Option Lead :=
  if b < 0x80 then some ⟨0, b.toNat, 0⟩
  else if b < 0xC0 then none
  else if b < 0xE0 then some ⟨1, b.toNat - 0xC0, 0x80⟩
  else if b < 0xF0 then some ⟨2, b.toNat - 0xE0, 0x800⟩
  else if b < 0xF8 then some ⟨3, b.toNat - 0xF0, 0x10000⟩
  else none

/-- Appends the bits of `n` continuation bytes to `value`. -/
def readFollowing : (n value : Nat) → List UInt8 → Option (Nat × List UInt8)
  | 0, value, bs => some (value, bs)
  | _ + 1, _, [] => none
  | n + 1, value, b :: bs =>
    if 0x80 ≤ b && b < 0xC0 then readFollowing n (value * 64 + (b.toNat - 0x80)) bs else none

/-- The first character and the bytes after it. -/
def readChar? : List UInt8 → Option (Char × List UInt8)
  | [] => none
  | b :: bs => do
    let lead ← lead? b
    let (value, rest) ← readFollowing lead.following lead.bits bs
    if lead.least ≤ value ∧ value.isValidChar then some (Char.ofNat value, rest) else none

theorem length_readFollowing {n value v : Nat} {bs rest : List UInt8}
    (h : readFollowing n value bs = some (v, rest)) : rest.length + n = bs.length := by
  induction n generalizing value bs with
  | zero => simp_all [readFollowing]
  | succ n ih =>
    cases bs with
    | nil => simp [readFollowing] at h
    | cons b bs =>
      simp only [readFollowing] at h
      split at h
      · have := ih h
        simp only [List.length_cons]
        omega
      · simp at h

theorem length_readChar? {c : Char} {bs rest : List UInt8} (h : readChar? bs = some (c, rest)) :
    rest.length < bs.length := by
  cases bs with
  | nil => simp [readChar?] at h
  | cons b bs =>
    simp only [readChar?, Option.bind_eq_bind, Option.bind_eq_some_iff] at h
    obtain ⟨lead, -, ⟨value, rest'⟩, hr, h⟩ := h
    have := length_readFollowing hr
    split at h
    · simp only [Option.some.injEq, Prod.mk.injEq] at h
      obtain ⟨-, rfl⟩ := h
      simp only [List.length_cons]
      omega
    · simp at h

/-- Reads characters to the end, the ones read so far in `before`, last first. -/
def decodeFrom (before : List Char) (bs : List UInt8) : Option (List Char) :=
  if bs.isEmpty then some before.reverse
  else match _h : readChar? bs with
    | none => none
    | some (c, rest) => decodeFrom (c :: before) rest
termination_by bs.length
decreasing_by exact length_readChar? (by assumption)

/-- The characters of a byte list, if it is valid. -/
def decode? (bs : List UInt8) : Option (List Char) := decodeFrom [] bs

/-- The signature that may open a file: U+FEFF. -/
def signature : List UInt8 := [0xEF, 0xBB, 0xBF]

/-- The bytes after one signature at the front. -/
def dropSignature (bs : List UInt8) : List UInt8 :=
  if signature.isPrefixOf bs then bs.drop signature.length else bs

/-! ### File names -/

/-- Reads a file name: bytes that belong to no character become stray glyphs, one by one. -/
def nameFrom (before : Text) (bs : List UInt8) : Text :=
  match bs with
  | [] => before.reverse
  | b :: more =>
    match _h : readChar? (b :: more) with
    | none => nameFrom (.stray b :: before) more
    | some (c, rest) => nameFrom (.scalar c :: before) rest
termination_by bs.length
decreasing_by
  · simp
  · exact length_readChar? (by assumption)

/-- The text of the bytes of a file name. -/
def nameOfBytes (bs : List UInt8) : Text := nameFrom [] bs

/-- The bytes of the file name with a given text. -/
def bytesOfName (t : Text) : List UInt8 :=
  t.flatMap fun
    | .scalar c => String.utf8EncodeChar c
    | .stray b => [b]

/-! ### Writing -/

/-- Why a text has no UTF-8 form: the first run of stray bytes. -/
structure EncodeFault where
  /-- The position of the first stray byte. -/
  start : Nat
  /-- The position of the last stray byte of the run. -/
  stop : Nat
  /-- The first stray byte. -/
  byte : UInt8
deriving DecidableEq

/-- The bytes of a text, whose first unit has the given position. -/
def encodeTextFrom (position : Nat) (before : List (List UInt8)) :
    Text → Except EncodeFault (List UInt8)
  | [] => .ok before.reverse.flatten
  | .scalar c :: rest =>
    encodeTextFrom (position + 1) (String.utf8EncodeChar c :: before) rest
  | .stray b :: rest =>
    let run := rest.takeWhile fun | .stray _ => true | .scalar _ => false
    .error ⟨position, position + run.length, b⟩

/-- The bytes of a text that holds no stray byte. -/
def encodeText (t : Text) : Except EncodeFault (List UInt8) := encodeTextFrom 0 [] t

end HangulLint.Utf8
