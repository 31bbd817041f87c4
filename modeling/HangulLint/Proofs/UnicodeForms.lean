import HangulLint.Inspection
import Mathlib

/-!
# One text in several files

A text can be saved as UTF-8, with or without a signature, and as UTF-16 in either byte order
behind a mark. What is found in a file does not depend on this choice. The bytes of each character
read as that character, whatever follows them, so both encodings lose nothing; what is left to show
is that the file is taken for what it is. UTF-8 has no byte above 0xF7, and both marks begin above
that, so a file in UTF-8 is never taken for one in UTF-16; a zero byte counts against a file only
where there is no mark, and there it can only come from a zero character. Of a signature and U+FEFF
at the beginning of a text the bytes are the same, so a text that begins with it is left out.

* `Utf8.readChar?_utf8EncodeChar`, `Utf8.decode?_encode` — UTF-8 loses nothing;
* `Utf16.decodeFrom_units`, `Utf16.decode_encode` — nor does UTF-16;
* `Source.Form` — the forms a text can be saved in;
* `Source.looksBinary_bytes`, `Source.decode_bytes` — every form is taken for what it is;
* `Source.forms_agree` — what this says about the files.
-/

namespace HangulLint

/-- Code points are below 0x110000. -/
theorem codePoint_lt (c : Char) : c.val.toNat < 0x110000 := by
  rcases c.valid with h | ⟨-, h⟩
  · exact Nat.lt_trans h (by decide)
  · exact h

/-! ### UTF-8 -/

namespace Utf8

variable {c : Char} {cs : List Char} {b : UInt8} {bs rest : List UInt8}

/-- A continuation byte adds its six bits to the value. -/
theorem readFollowing_succ {k : Nat} (h : k < 64) (n value : Nat) (rest : List UInt8) :
    readFollowing (n + 1) value (UInt8.ofNat (k + 128) :: rest) =
      readFollowing n (value * 64 + k) rest := by
  have hlt : k + 128 < 256 := by omega
  have hbyte : (UInt8.ofNat (k + 128)).toNat = k + 128 := UInt8.toNat_ofNat_of_lt' hlt
  have hrange : (0x80 ≤ UInt8.ofNat (k + 128) && UInt8.ofNat (k + 128) < 0xC0) = true := by
    simp only [Bool.and_eq_true, decide_eq_true_eq, UInt8.le_iff_toNat_le, UInt8.lt_iff_toNat_lt,
      hbyte, UInt8.reduceToNat]
    omega
  rw [readFollowing, if_pos hrange, hbyte, Nat.add_sub_cancel]

/-- What a byte announces, told by its number. -/
theorem lead?_ofNat {n : Nat} (h : n < 256) : lead? (UInt8.ofNat n) =
    if n < 0x80 then some ⟨0, n, 0⟩
    else if n < 0xC0 then none
    else if n < 0xE0 then some ⟨1, n - 0xC0, 0x80⟩
    else if n < 0xF0 then some ⟨2, n - 0xE0, 0x800⟩
    else if n < 0xF8 then some ⟨3, n - 0xF0, 0x10000⟩
    else none := by
  have hbyte : (UInt8.ofNat n).toNat = n := UInt8.toNat_ofNat_of_lt' h
  unfold lead?
  simp only [UInt8.lt_iff_toNat_lt, hbyte, UInt8.reduceToNat]

/-- A character is read from a lead byte and the bytes that complete its value. -/
theorem readChar?_of_lead {lead : Lead} (hlead : lead? b = some lead)
    (hfollowing : readFollowing lead.following lead.bits bs = some (c.val.toNat, rest))
    (hleast : lead.least ≤ c.val.toNat) : readChar? (b :: bs) = some (c, rest) := by
  have hread : Char.ofNat c.val.toNat = c := Char.ofNat_toNat c
  rw [readChar?, hlead]
  simp only [Option.bind_eq_bind, Option.bind_some, hfollowing]
  rw [if_pos ⟨hleast, c.valid⟩, hread]

/-- The bytes of a character read as that character, whatever follows them. -/
theorem readChar?_utf8EncodeChar (c : Char) (rest : List UInt8) :
    readChar? (String.utf8EncodeChar c ++ rest) = some (c, rest) := by
  have hsix : ∀ n, n % 64 < 64 := fun n => Nat.mod_lt n (by decide)
  have hbound := codePoint_lt c
  unfold String.utf8EncodeChar
  -- one case for each number of bytes
  by_cases h₁ : c.val.toNat ≤ 127
  · have hlead : lead? (UInt8.ofNat c.val.toNat) = some ⟨0, c.val.toNat, 0⟩ := by
      rw [lead?_ofNat (by omega), if_pos (by omega)]
    simp only [if_pos h₁, List.cons_append, List.nil_append]
    exact readChar?_of_lead hlead rfl (Nat.zero_le _)
  by_cases h₂ : c.val.toNat ≤ 2047
  · have hlead : lead? (UInt8.ofNat (c.val.toNat / 64 % 32 + 192)) =
        some ⟨1, c.val.toNat / 64 % 32, 0x80⟩ := by
      rw [lead?_ofNat (by omega), if_neg (by omega), if_neg (by omega), if_pos (by omega),
        Nat.add_sub_cancel]
    have hvalue : c.val.toNat / 64 % 32 * 64 + c.val.toNat % 64 = c.val.toNat := by omega
    simp only [if_neg h₁, if_pos h₂, List.cons_append, List.nil_append]
    refine readChar?_of_lead hlead ?_ (Nat.lt_of_not_le h₁)
    rw [readFollowing_succ (hsix _), hvalue, readFollowing]
  by_cases h₃ : c.val.toNat ≤ 65535
  · have hlead : lead? (UInt8.ofNat (c.val.toNat / 4096 % 16 + 224)) =
        some ⟨2, c.val.toNat / 4096 % 16, 0x800⟩ := by
      rw [lead?_ofNat (by omega), if_neg (by omega), if_neg (by omega), if_neg (by omega),
        if_pos (by omega), Nat.add_sub_cancel]
    have hvalue : (c.val.toNat / 4096 % 16 * 64 + c.val.toNat / 64 % 64) * 64 +
        c.val.toNat % 64 = c.val.toNat := by omega
    simp only [if_neg h₁, if_neg h₂, if_pos h₃, List.cons_append, List.nil_append]
    refine readChar?_of_lead hlead ?_ (Nat.lt_of_not_le h₂)
    rw [readFollowing_succ (hsix _), readFollowing_succ (hsix _), hvalue, readFollowing]
  · have hlead : lead? (UInt8.ofNat (c.val.toNat / 262144 % 8 + 240)) =
        some ⟨3, c.val.toNat / 262144 % 8, 0x10000⟩ := by
      rw [lead?_ofNat (by omega), if_neg (by omega), if_neg (by omega), if_neg (by omega),
        if_neg (by omega), if_pos (by omega), Nat.add_sub_cancel]
    have hvalue : ((c.val.toNat / 262144 % 8 * 64 + c.val.toNat / 4096 % 64) * 64 +
        c.val.toNat / 64 % 64) * 64 + c.val.toNat % 64 = c.val.toNat := by omega
    simp only [if_neg h₁, if_neg h₂, if_neg h₃, List.cons_append, List.nil_append]
    refine readChar?_of_lead hlead ?_ (Nat.lt_of_not_le h₃)
    rw [readFollowing_succ (hsix _), readFollowing_succ (hsix _), readFollowing_succ (hsix _),
      hvalue, readFollowing]

theorem decodeFrom_encode (before cs : List Char) :
    decodeFrom before (encode cs) = some (before.reverse ++ cs) := by
  induction cs generalizing before with
  | nil =>
    rw [decodeFrom]
    simp [encode]
  | cons c cs ih =>
    have hread : readChar? (encode (c :: cs)) = some (c, encode cs) :=
      readChar?_utf8EncodeChar c (encode cs)
    have hbytes : (encode (c :: cs)).isEmpty = false := by
      cases hbytes : encode (c :: cs) with
      | nil => simp [hbytes, readChar?] at hread
      | cons b bs => rfl
    -- the first character is read off, and what follows it is read in its turn
    rw [decodeFrom, hbytes, if_neg (by simp)]
    split
    · next hnone => exact absurd (hread.symm.trans hnone) (by simp)
    · next first rest hfirst =>
      obtain ⟨rfl, rfl⟩ := Prod.mk.inj (Option.some.inj (hread.symm.trans hfirst))
      rw [ih, List.reverse_cons, List.append_assoc]
      rfl

/-- **UTF-8 loses nothing.** -/
theorem decode?_encode (cs : List Char) : decode? (encode cs) = some cs :=
  decodeFrom_encode [] cs

/-- No byte of a character is above 0xF7, and only the zero character has a zero byte. -/
theorem exists_of_mem_utf8EncodeChar (h : b ∈ String.utf8EncodeChar c) :
    ∃ n < 0xF8, b = UInt8.ofNat n ∧ (n = 0 → c = '\x00') := by
  have hzero : c.val.toNat = 0 → c = '\x00' := by
    intro hval
    rw [← Char.ofNat_toNat c]
    exact congrArg Char.ofNat hval
  have hbound := codePoint_lt c
  unfold String.utf8EncodeChar at h
  by_cases h₁ : c.val.toNat ≤ 127
  · simp only [if_pos h₁, List.mem_singleton] at h
    exact ⟨_, by omega, h, hzero⟩
  -- a character of several bytes has none below 0x80
  by_cases h₂ : c.val.toNat ≤ 2047
  · simp only [if_neg h₁, if_pos h₂, List.mem_cons, List.not_mem_nil, or_false] at h
    rcases h with h | h <;> exact ⟨_, by omega, h, by omega⟩
  by_cases h₃ : c.val.toNat ≤ 65535
  · simp only [if_neg h₁, if_neg h₂, if_pos h₃, List.mem_cons, List.not_mem_nil, or_false] at h
    rcases h with h | h | h <;> exact ⟨_, by omega, h, by omega⟩
  · simp only [if_neg h₁, if_neg h₂, if_neg h₃, List.mem_cons, List.not_mem_nil, or_false] at h
    rcases h with h | h | h | h <;> exact ⟨_, by omega, h, by omega⟩

theorem lt_of_mem_encode (h : b ∈ encode cs) : b < 0xF8 := by
  obtain ⟨c, -, hc⟩ := List.mem_flatMap.1 h
  obtain ⟨n, hn, rfl, -⟩ := exists_of_mem_utf8EncodeChar hc
  rw [UInt8.lt_iff_toNat_lt, UInt8.toNat_ofNat_of_lt' (Nat.lt_trans hn (by decide))]
  exact hn

/-- A text without a zero character has no zero byte. -/
theorem zero_notMem_encode (h : '\x00' ∉ cs) : (0 : UInt8) ∉ encode cs := by
  intro hmem
  obtain ⟨c, hc, hzero⟩ := List.mem_flatMap.1 hmem
  obtain ⟨n, hn, hbyte, himp⟩ := exists_of_mem_utf8EncodeChar hzero
  -- the number of the byte is zero, so that its character is
  have hnat := congrArg UInt8.toNat hbyte
  rw [UInt8.toNat_ofNat_of_lt' (Nat.lt_trans hn (by decide))] at hnat
  exact h (himp hnat.symm ▸ hc)

/-- A signature is taken off once. -/
theorem dropSignature_signature (bs : List UInt8) : dropSignature (signature ++ bs) = bs := by
  rw [dropSignature, if_pos (by simp [List.isPrefixOf_iff_prefix]), List.drop_left]

/-- Only a text that begins with U+FEFF looks as if it had a signature. -/
theorem dropSignature_encode (h : cs.head? ≠ some '\uFEFF') :
    dropSignature (encode cs) = encode cs := by
  rw [dropSignature, if_neg]
  intro hsigned
  obtain ⟨rest, hrest⟩ := List.isPrefixOf_iff_prefix.1 hsigned
  -- the signature is what U+FEFF is encoded as, so that the text begins with it
  have hmark : readChar? (encode cs) = some ('\uFEFF', rest) := by
    rw [← hrest]
    exact readChar?_utf8EncodeChar '\uFEFF' rest
  cases cs with
  | nil => simp [encode, readChar?] at hmark
  | cons c cs =>
    have hread : readChar? (encode (c :: cs)) = some (c, encode cs) :=
      readChar?_utf8EncodeChar c (encode cs)
    refine h ?_
    rw [List.head?_cons, (Prod.mk.inj (Option.some.inj (hread.symm.trans hmark))).1]

end Utf8

/-! ### UTF-16 -/

namespace Utf16

variable {order : ByteOrder} {b₀ b₁ b₂ b₃ : UInt8}

/-- A unit is made of its two bytes. -/
theorem exists_bytes (order : ByteOrder) {unit : Nat} (h : unit < 0x10000) :
    ∃ b₀ b₁, order.bytes unit = [b₀, b₁] ∧ order.unit b₀ b₁ = unit := by
  have hlow : (UInt8.ofNat (unit % 256)).toNat = unit % 256 :=
    UInt8.toNat_ofNat_of_lt' (Nat.mod_lt _ (by decide))
  have hdiv : unit / 256 < 256 := by omega
  have hhigh : (UInt8.ofNat (unit / 256)).toNat = unit / 256 := UInt8.toNat_ofNat_of_lt' hdiv
  cases order with
  | little => exact ⟨_, _, rfl, by rw [ByteOrder.unit, hlow, hhigh]; omega⟩
  | big => exact ⟨_, _, rfl, by rw [ByteOrder.unit, hlow, hhigh]; omega⟩

/-- A unit outside the surrogates is read as a character. -/
theorem decodeFrom_single (hlow : isLow (order.unit b₀ b₁) = false)
    (hhigh : isHigh (order.unit b₀ b₁) = false) (position : Nat) (before : List Char)
    (rest : List UInt8) : decodeFrom order position before (b₀ :: b₁ :: rest) =
      decodeFrom order (position + 2) (Char.ofNat (order.unit b₀ b₁) :: before) rest := by
  rw [decodeFrom.eq_def]
  simp only [hlow, hhigh, Bool.false_eq_true, if_false]

/-- A high surrogate and a low one are read as one character. -/
theorem decodeFrom_pair (hlow : isLow (order.unit b₀ b₁) = false)
    (hhigh : isHigh (order.unit b₀ b₁) = true) (hnext : isLow (order.unit b₂ b₃) = true)
    (position : Nat) (before : List Char) (rest : List UInt8) :
    decodeFrom order position before (b₀ :: b₁ :: b₂ :: b₃ :: rest) =
      decodeFrom order (position + 4)
        (Char.ofNat (0x10000 + (order.unit b₀ b₁ - 0xD800) * 0x400 + (order.unit b₂ b₃ - 0xDC00))
          :: before) rest := by
  rw [decodeFrom.eq_def]
  simp only [hlow, hhigh, hnext, Bool.false_eq_true, if_false, if_true]

/-- The bytes of a character read as that character, whatever follows them. -/
theorem decodeFrom_units (order : ByteOrder) (position : Nat) (before : List Char) (c : Char)
    (rest : List UInt8) : ∃ next, decodeFrom order position before
      ((units c).flatMap order.bytes ++ rest) = decodeFrom order next (c :: before) rest := by
  have hread : Char.ofNat c.toNat = c := Char.ofNat_toNat c
  have hvalid : c.toNat.isValidChar := c.valid
  have hbound : c.toNat < 0x110000 := codePoint_lt c
  unfold units
  generalize c.toNat = v at *
  by_cases hsingle : v < 0x10000
  · -- one unit, which is no surrogate
    obtain ⟨b₀, b₁, hbytes, hunit⟩ := exists_bytes order hsingle
    have hlow : isLow (order.unit b₀ b₁) = false := by
      simp only [hunit, isLow, Bool.and_eq_false_iff, decide_eq_false_iff_not]
      rcases hvalid with h | h <;> omega
    have hhigh : isHigh (order.unit b₀ b₁) = false := by
      simp only [hunit, isHigh, Bool.and_eq_false_iff, decide_eq_false_iff_not]
      rcases hvalid with h | h <;> omega
    refine ⟨position + 2, ?_⟩
    rw [if_pos hsingle, List.flatMap_singleton, hbytes, List.cons_append, List.cons_append,
      List.nil_append, decodeFrom_single hlow hhigh, hunit, hread]
  · -- two units, a high surrogate and a low one
    have hfirst : 0xD800 + (v - 0x10000) / 0x400 < 0x10000 := by omega
    have hsecond : 0xDC00 + (v - 0x10000) % 0x400 < 0x10000 := by omega
    obtain ⟨b₀, b₁, hbytes, hunit⟩ := exists_bytes order hfirst
    obtain ⟨b₂, b₃, hbytes', hunit'⟩ := exists_bytes order hsecond
    have hlow : isLow (order.unit b₀ b₁) = false := by
      simp only [hunit, isLow, Bool.and_eq_false_iff, decide_eq_false_iff_not]
      omega
    have hhigh : isHigh (order.unit b₀ b₁) = true := by
      simp only [hunit, isHigh, Bool.and_eq_true, decide_eq_true_eq]
      omega
    have hnext : isLow (order.unit b₂ b₃) = true := by
      simp only [hunit', isLow, Bool.and_eq_true, decide_eq_true_eq]
      omega
    have hvalue : 0x10000 + (0xD800 + (v - 0x10000) / 0x400 - 0xD800) * 0x400 +
        (0xDC00 + (v - 0x10000) % 0x400 - 0xDC00) = v := by omega
    refine ⟨position + 4, ?_⟩
    rw [if_neg hsingle, List.flatMap_cons, List.flatMap_singleton, hbytes, hbytes']
    simp only [List.cons_append, List.nil_append]
    rw [decodeFrom_pair hlow hhigh hnext, hunit, hunit', hvalue, hread]

theorem decodeFrom_encode (order : ByteOrder) (position : Nat) (before cs : List Char) :
    decodeFrom order position before (encode order cs) = .ok (before.reverse ++ cs) := by
  induction cs generalizing position before with
  | nil => simp [encode, decodeFrom]
  | cons c cs ih =>
    have hbytes : encode order (c :: cs) = (units c).flatMap order.bytes ++ encode order cs := by
      simp [encode]
    obtain ⟨next, hnext⟩ := decodeFrom_units order position before c (encode order cs)
    rw [hbytes, hnext, ih, List.reverse_cons, List.append_assoc]
    rfl

/-- **UTF-16 loses nothing,** in either byte order. -/
theorem decode_encode (order : ByteOrder) (offset : Nat) (cs : List Char) :
    decode order offset (encode order cs) = .ok cs :=
  decodeFrom_encode order offset [] cs

/-- A mark declares its byte order. -/
theorem markedOrder?_mark (order : ByteOrder) (bs : List UInt8) :
    markedOrder? (order.mark ++ bs) = some order := by
  cases order <;> rfl

/-- Both marks begin above all bytes that UTF-8 has. -/
theorem markedOrder?_of_lt {bs : List UInt8} (h : ∀ b ∈ bs, b < 0xF8) :
    markedOrder? bs = none := by
  rw [markedOrder?, List.find?_eq_none]
  intro order _
  rw [List.isPrefixOf_iff_prefix]
  rintro ⟨rest, rfl⟩
  cases order with
  | little => exact absurd (h 0xFF (by simp [ByteOrder.mark])) (by decide)
  | big => exact absurd (h 0xFE (by simp [ByteOrder.mark])) (by decide)

end Utf16

/-! ### The forms of a text -/

namespace Source

/-- The Unicode forms that a source can be saved in. -/
inductive Form where
  /-- UTF-8, with or without a signature. -/
  | utf8 (signed : Bool)
  /-- UTF-16 in some byte order, behind the mark that declares it. -/
  | utf16 (order : Utf16.ByteOrder)
deriving DecidableEq

/-- The bytes of a text that is saved in a form. -/
def Form.bytes (form : Form) (content : List Char) : List UInt8 :=
  match form with
  | .utf8 signed => (if signed then Utf8.signature else []) ++ Utf8.encode content
  | .utf16 order => order.mark ++ Utf16.encode order content

variable {content : List Char} {form form' : Form}

/-- No file in one of the forms looks binary. -/
theorem looksBinary_bytes (hzero : '\x00' ∉ content) (form : Form) :
    looksBinary (form.bytes content) = false := by
  cases form with
  | utf8 signed =>
    have hnotMem : (0 : UInt8) ∉ (Form.utf8 signed).bytes content := by
      cases signed <;> simp [Form.bytes, Utf8.signature, Utf8.zero_notMem_encode hzero]
    rw [looksBinary, List.contains_eq_mem, decide_eq_false hnotMem, Bool.and_false]
  | utf16 order =>
    -- zero bytes do not count behind a mark
    rw [looksBinary, Form.bytes, Utf16.markedOrder?_mark]
    rfl

/-- Every form is read back, and neither a guesser nor a codec is asked. -/
theorem decode_bytes (hmark : content.head? ≠ some '\uFEFF') (form : Form) (library : Library)
    (guesser : Guesser) :
    decode library guesser (form.bytes content) = .ok content := by
  cases form with
  | utf8 signed =>
    -- there is no mark, so the bytes behind a signature are read as UTF-8
    have hlt : ∀ b ∈ (Form.utf8 signed).bytes content, b < 0xF8 := by
      intro b hb
      rcases List.mem_append.1 hb with hb | hb
      · cases signed with
        | false => exact absurd hb (by simp)
        | true =>
          have hbytes : ∀ b ∈ Utf8.signature, b < 0xF8 := by simp [Utf8.signature]
          exact hbytes b hb
      · exact Utf8.lt_of_mem_encode hb
    have hdrop : Utf8.dropSignature ((Form.utf8 signed).bytes content) = Utf8.encode content := by
      cases signed with
      | false => exact Utf8.dropSignature_encode hmark
      | true => exact Utf8.dropSignature_signature _
    rw [decode, Utf16.markedOrder?_of_lt hlt]
    simp only [hdrop, Utf8.decode?_encode]
  | utf16 order =>
    rw [decode, Form.bytes, Utf16.markedOrder?_mark]
    simp only [List.drop_left, Utf16.decode_encode]
    rfl

example : decode (fun _ _ => .refused) (fun _ => .interrupted)
    [0xFE, 0xFF, 0xAC, 0x00, 0xD8, 0x3D, 0xDE, 0x00] = .ok ['가', '😀'] := by cbv

section Files

variable {site site' : Site} {path path' : Path}

theorem readSource_bytes (hzero : '\x00' ∉ content) (hmark : content.head? ≠ some '\uFEFF')
    (hfile : site.read path = .ok (form.bytes content)) (library : Library)
    (guesser : Guesser) :
    readSource site library guesser path = .ok content := by
  rw [readSource, hfile]
  simp only [looksBinary_bytes hzero, decode_bytes hmark]
  rfl

/-- Files with the same text leave the same behind. -/
theorem scanFile_congr {library : Library} {guesser guesser' : Guesser}
    (hread : readSource site library guesser path = .ok content)
    (hread' : readSource site' library guesser' path' = .ok content) (rule : Rule) (key : Text)
    (register : Register) :
    (scanFile site library guesser rule key path register).outcome =
        (scanFile site' library guesser' rule key path' register).outcome ∧
      (scanFile site library guesser rule key path register).register =
        (scanFile site' library guesser' rule key path' register).register := by
  have hinspect : inspect site library guesser rule path = .ok (findingsIn rule content) := by
    rw [inspect, hread]
    rfl
  have hinspect' : inspect site' library guesser' rule path' = .ok (findingsIn rule content) := by
    rw [inspect, hread']
    rfl
  rw [scanFile, scanFile, hinspect, hinspect']
  dsimp only
  cases recordAll register key (findingsIn rule content) <;> exact ⟨rfl, rfl⟩

/-- **The form of a file does not show.** A text without a zero character that does not begin with
U+FEFF can be saved in every form: the file is not taken for a binary one, and its text is read from
it, whatever codecs there are and whatever a guesser would answer. So files that hold the same text
in different forms make for the same count and leave the same findings behind, under every rule, key
and register. -/
theorem forms_agree (hzero : '\x00' ∉ content) (hmark : content.head? ≠ some '\uFEFF') :
    (∀ form : Form, looksBinary (form.bytes content) = false) ∧
    (∀ (form : Form) library guesser,
      decode library guesser (form.bytes content) = .ok content) ∧
    (∀ (form : Form) (site : Site) path, site.read path = .ok (form.bytes content) →
      ∀ library guesser, readSource site library guesser path = .ok content) ∧
    ∀ (form form' : Form) (site site' : Site) path path',
      site.read path = .ok (form.bytes content) → site'.read path' = .ok (form'.bytes content) →
      ∀ library guesser guesser' rule key register,
        (scanFile site library guesser rule key path register).outcome =
            (scanFile site' library guesser' rule key path' register).outcome ∧
          (scanFile site library guesser rule key path register).register =
            (scanFile site' library guesser' rule key path' register).register :=
  ⟨looksBinary_bytes hzero, decode_bytes hmark,
    fun _ _ _ hfile => readSource_bytes hzero hmark hfile,
    fun _ _ _ _ _ _ hfile hfile' library guesser guesser' =>
      scanFile_congr (readSource_bytes hzero hmark hfile library guesser)
        (readSource_bytes hzero hmark hfile' library guesser')⟩

end Files

/-! ### A text in all forms -/

/-- Four files with one text, of which each has a form of its own. -/
def fourFiles (content : List Char) : Site where
  tree := {
    entries := [(["a.cs"], .file ((Form.utf8 false).bytes content)),
      (["b.cs"], .file ((Form.utf8 true).bytes content)),
      (["c.cs"], .file ((Form.utf16 .little).bytes content)),
      (["d.cs"], .file ((Form.utf16 .big).bytes content))]
    nodup := by
      change [[("a.cs" : Text)], ["b.cs"], ["c.cs"], ["d.cs"]].Nodup
      decide
    housed := by simp
    named := by
      have hnames : ∀ place ∈ [[("a.cs" : Text)], ["b.cs"], ["c.cs"], ["d.cs"]],
          ∀ name ∈ place, isFileName name = true := by decide
      simpa using hnames }
  cwd := []
  levels := standardLevels

/-- A text with characters of one, two, three and four bytes. -/
def mixedText : List Char := "x \"é가😀\"\r\n// 나\n".toList

/-- Whichever of two files with one text is looked into, and whatever guessers have to say, the one
finding is there. -/
theorem forms_agree_mixedText :
    '\x00' ∉ mixedText ∧ mixedText.head? ≠ some '\uFEFF' ∧
      (fourFiles mixedText).read ⟨.root, ["b.cs"]⟩ = .ok ((Form.utf8 true).bytes mixedText) ∧
      (fourFiles mixedText).read ⟨.root, ["d.cs"]⟩ = .ok ((Form.utf16 .big).bytes mixedText) ∧
      ∀ library guesser guesser',
        (scanFile (fourFiles mixedText) library guesser .standard "k" ⟨.root, ["b.cs"]⟩
              .empty).register =
            (scanFile (fourFiles mixedText) library guesser' .standard "k" ⟨.root, ["d.cs"]⟩
              .empty).register ∧
          (scanFile (fourFiles mixedText) library guesser .standard "k" ⟨.root, ["b.cs"]⟩
              .empty).register =
            ⟨[("k", [⟨1, "x \"é가😀\""⟩])], false⟩ := by
  have hzero : '\x00' ∉ mixedText := by decide
  have hmark : mixedText.head? ≠ some '\uFEFF' := by decide
  have hfile : (fourFiles mixedText).read ⟨.root, ["b.cs"]⟩ =
      .ok ((Form.utf8 true).bytes mixedText) := by cbv
  have hfile' : (fourFiles mixedText).read ⟨.root, ["d.cs"]⟩ =
      .ok ((Form.utf16 .big).bytes mixedText) := by cbv
  obtain ⟨-, -, hread, hscan⟩ := forms_agree hzero hmark
  refine ⟨hzero, hmark, hfile, hfile', fun library guesser guesser' =>
    ⟨(hscan _ _ _ _ _ _ hfile hfile' library guesser guesser' .standard "k" .empty).2, ?_⟩⟩
  -- the guesser is not asked, so that the text is all that is needed
  have hinspect : inspect (fourFiles mixedText) library guesser .standard ⟨.root, ["b.cs"]⟩ =
      .ok [⟨1, "x \"é가😀\""⟩] := by
    rw [inspect, hread _ _ _ hfile library guesser]
    cbv
  rw [scanFile, hinspect]
  rfl

end Source

end HangulLint
