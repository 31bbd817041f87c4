import HangulLint.Proofs.UnicodeForms

/-!
# Which bytes a text was read from

Reading a file as UTF-8 or UTF-16 is the inverse of saving a text in that form: what is read has
exactly the bytes of the file as its form, the mark or signature at the front included, so that no
byte is passed over or replaced and no other file with the same opening holds the same text. The
bytes that UTF-8 can be read from are told by their bits. The first byte of a character says how
many follow; the value that they spell must be a character's, and no fewer bytes may spell it. With
that, what is left to a guesser is told as well: just the files that open with no mark of UTF-16 and
are not UTF-8 behind their signature.

* `Utf8.Spells`, `Utf8.IsChar`, `Utf8.WellFormed` — well-formed UTF-8, told by the bits;
* `Utf8.isChar_iff`, `Utf8.decode?_eq_some_iff`, `Utf16.decode_eq_ok_iff` — to be read is to have
  been written;
* `Source.Consults`, `Source.consults_iff` — whether a guesser has a say;
* `Source.decode_eq_ok_iff` — where it has none, the text of a file is the one whose form the file
  is;
* `Source.decode_exact` — decoding without a guess is exact.
-/

namespace HangulLint

/-- The value of a character that is given by its value. -/
theorem toNat_charOfNat {n : Nat} (h : n.isValidChar) : (Char.ofNat n).toNat = n := by
  rw [Char.toNat_ofNat, if_pos h]

/-! ### UTF-8 -/

namespace Utf8

/-- Whether a byte goes on with a character: its two top bits are `10`. -/
def Continues (b : UInt8) : Prop := 0x80 ≤ b.toNat ∧ b.toNat < 0xC0

/-- **The value that bytes spell.** The first byte tells by its top bits how many follow; what it
has left of its bits and the six lower bits of each byte that follows make up the value. -/
inductive Spells : List UInt8 → Nat → Prop where
  | one {a : UInt8} (lead : a.toNat < 0x80) : Spells [a] a.toNat
  | two {a b : UInt8} (lead : 0xC0 ≤ a.toNat ∧ a.toNat < 0xE0) (hb : Continues b) :
      Spells [a, b] (a.toNat % 32 * 64 + b.toNat % 64)
  | three {a b c : UInt8} (lead : 0xE0 ≤ a.toNat ∧ a.toNat < 0xF0) (hb : Continues b)
      (hc : Continues c) :
      Spells [a, b, c] ((a.toNat % 16 * 64 + b.toNat % 64) * 64 + c.toNat % 64)
  | four {a b c d : UInt8} (lead : 0xF0 ≤ a.toNat ∧ a.toNat < 0xF8) (hb : Continues b)
      (hc : Continues c) (hd : Continues d) :
      Spells [a, b, c, d]
        (((a.toNat % 8 * 64 + b.toNat % 64) * 64 + c.toNat % 64) * 64 + d.toNat % 64)

/-- **The bytes of a character.** -/
structure IsChar (bytes : List UInt8) (value : Nat) : Prop where
  spells : Spells bytes value
  /-- No fewer bytes spell the value. -/
  shortest : ∀ other, Spells other value → bytes.length ≤ other.length
  /-- The value is no surrogate. -/
  scalar : ¬ (0xD800 ≤ value ∧ value ≤ 0xDFFF)
  /-- The value is a code point. -/
  bounded : value ≤ 0x10FFFF

/-- **Well-formed UTF-8:** the bytes of characters, one after the other. -/
inductive WellFormed : List UInt8 → Prop where
  | nil : WellFormed []
  | cons {bytes rest : List UInt8} {value : Nat} (first : IsChar bytes value)
      (more : WellFormed rest) : WellFormed (bytes ++ rest)

/-- The least value for which so many bytes are needed. -/
def leastFor : Nat → Nat
  | 0 => 0
  | 1 => 0
  | 2 => 0x80
  | 3 => 0x800
  | _ => 0x10000

variable {b b' : UInt8} {bs bytes bytes' rest : List UInt8} {c : Char} {cs : List Char}
  {value value' n : Nat}

theorem leastFor_mono : ∀ m ≤ 4, ∀ n ≤ m, leastFor n ≤ leastFor m := by decide

theorem Spells.length_mem (h : Spells bytes value) : 1 ≤ bytes.length ∧ bytes.length ≤ 4 := by
  cases h <;> simp

/-- Fewer than four bytes spell no value that needs more. -/
theorem Spells.lt (h : Spells bytes value) (hlength : bytes.length < 4) :
    value < leastFor (bytes.length + 1) := by
  cases h with
  | one lead => exact lead
  | two _ _ =>
    show _ < 0x800
    omega
  | three _ _ _ =>
    show _ < 0x10000
    omega
  | four _ _ _ _ => exact absurd hlength (by simp)

/-- A number that fits is the one of its byte. -/
theorem toNat_byte (h : n < 256) : (UInt8.ofNat n).toNat = n := UInt8.toNat_ofNat_of_lt' h

/-- A value that needs no more than so many bytes is spelled by so many. -/
theorem exists_spells (hpos : 1 ≤ n) (hn : n < 4) (h : value < leastFor (n + 1)) :
    ∃ bytes, bytes.length = n ∧ Spells bytes value := by
  -- the bits of the value are cut into sixes, and what the bytes spell puts them together again
  obtain rfl | rfl | rfl : n = 1 ∨ n = 2 ∨ n = 3 := by omega
  · have hvalue : value < 0x80 := h
    have ha := toNat_byte (n := value) (by omega)
    have hspells : Spells [UInt8.ofNat value] (UInt8.ofNat value).toNat := .one (by omega)
    rw [ha] at hspells
    exact ⟨_, rfl, hspells⟩
  · have hvalue : value < 0x800 := h
    have ha := toNat_byte (n := 0xC0 + value / 64) (by omega)
    have hb := toNat_byte (n := 0x80 + value % 64) (by omega)
    refine ⟨[UInt8.ofNat (0xC0 + value / 64), UInt8.ofNat (0x80 + value % 64)], rfl, ?_⟩
    have hspells := Spells.two (a := UInt8.ofNat (0xC0 + value / 64))
      (b := UInt8.ofNat (0x80 + value % 64)) (by omega) ⟨by omega, by omega⟩
    rw [ha, hb] at hspells
    convert hspells using 1
    omega
  · have hvalue : value < 0x10000 := h
    have ha := toNat_byte (n := 0xE0 + value / 4096) (by omega)
    have hb := toNat_byte (n := 0x80 + value / 64 % 64) (by omega)
    have hc := toNat_byte (n := 0x80 + value % 64) (by omega)
    refine ⟨[UInt8.ofNat (0xE0 + value / 4096), UInt8.ofNat (0x80 + value / 64 % 64),
      UInt8.ofNat (0x80 + value % 64)], rfl, ?_⟩
    have hspells := Spells.three (a := UInt8.ofNat (0xE0 + value / 4096))
      (b := UInt8.ofNat (0x80 + value / 64 % 64)) (c := UInt8.ofNat (0x80 + value % 64))
      (by omega) ⟨by omega, by omega⟩ ⟨by omega, by omega⟩
    rw [ha, hb, hc] at hspells
    convert hspells using 1
    omega

/-- The shortest form is the one whose length the value needs. -/
theorem Spells.shortest_iff (h : Spells bytes value) :
    (∀ other, Spells other value → bytes.length ≤ other.length) ↔
      leastFor bytes.length ≤ value := by
  obtain ⟨hpos, hfour⟩ := h.length_mem
  constructor
  · intro hshortest
    by_contra hlt
    -- a form with one byte less spells the value, unless there is one byte only
    obtain ⟨n, hn⟩ : ∃ n, bytes.length = n + 1 := ⟨bytes.length - 1, by omega⟩
    rw [hn] at hlt
    cases n with
    | zero => exact hlt (Nat.zero_le _)
    | succ n =>
      obtain ⟨other, hlength, hother⟩ :=
        exists_spells (n := n + 1) (by omega) (by omega) (Nat.lt_of_not_le hlt)
      have hle := hshortest other hother
      omega
  · intro hleast other hother
    by_contra hlt
    have hmono := leastFor_mono bytes.length hfour (other.length + 1) (by omega)
    have hvalue := hother.lt (by omega)
    omega

/-- Six bits more are told apart from those before them. -/
theorem sixBits_inj {v v' k k' : Nat} (h : v * 64 + k % 64 = v' * 64 + k' % 64) :
    v = v' ∧ k % 64 = k' % 64 := by
  omega

/-- Bytes that go on with a character are told by their six lower bits. -/
theorem Continues.eq (hb : Continues b) (hb' : Continues b') (h : b.toNat % 64 = b'.toNat % 64) :
    b = b' := by
  obtain ⟨hlower, hupper⟩ := hb
  obtain ⟨hlower', hupper'⟩ := hb'
  exact UInt8.toNat_inj.1 (by omega)

/-- Forms of one length and one value have the same bytes. -/
theorem Spells.unique (h : Spells bytes value) (h' : Spells bytes' value') (hvalue : value = value')
    (hlength : bytes.length = bytes'.length) : bytes = bytes' := by
  -- the bits of the value are those of the bytes, taken off from the last byte on
  cases h with
  | @one a lead =>
    cases h' with
    | @one a' lead' =>
      have ha : a = a' := UInt8.toNat_inj.1 hvalue
      rw [ha]
    | _ => simp at hlength
  | @two a b lead hb =>
    cases h' with
    | @two a' b' lead' hb' =>
      obtain ⟨hvalue, hbits⟩ := sixBits_inj hvalue
      have ha : a = a' := UInt8.toNat_inj.1 (by omega)
      rw [ha, hb.eq hb' hbits]
    | _ => simp at hlength
  | @three a b c lead hb hc =>
    cases h' with
    | @three a' b' c' lead' hb' hc' =>
      obtain ⟨hvalue, hbits⟩ := sixBits_inj hvalue
      obtain ⟨hvalue, hbits'⟩ := sixBits_inj hvalue
      have ha : a = a' := UInt8.toNat_inj.1 (by omega)
      rw [ha, hb.eq hb' hbits', hc.eq hc' hbits]
    | _ => simp at hlength
  | @four a b c d lead hb hc hd =>
    cases h' with
    | @four a' b' c' d' lead' hb' hc' hd' =>
      obtain ⟨hvalue, hbits⟩ := sixBits_inj hvalue
      obtain ⟨hvalue, hbits'⟩ := sixBits_inj hvalue
      obtain ⟨hvalue, hbits''⟩ := sixBits_inj hvalue
      have ha : a = a' := UInt8.toNat_inj.1 (by omega)
      rw [ha, hb.eq hb' hbits'', hc.eq hc' hbits', hd.eq hd' hbits]
    | _ => simp at hlength

theorem IsChar.unique (h : IsChar bytes value) (h' : IsChar bytes' value) : bytes = bytes' :=
  h.spells.unique h'.spells rfl
    (Nat.le_antisymm (h.shortest _ h'.spells) (h'.shortest _ h.spells))

/-! ### Reading a character -/

/-- What a byte announces. -/
theorem lead?_eq (b : UInt8) : lead? b =
    if b.toNat < 0x80 then some ⟨0, b.toNat, leastFor 1⟩
    else if b.toNat < 0xC0 then none
    else if b.toNat < 0xE0 then some ⟨1, b.toNat % 32, leastFor 2⟩
    else if b.toNat < 0xF0 then some ⟨2, b.toNat % 16, leastFor 3⟩
    else if b.toNat < 0xF8 then some ⟨3, b.toNat % 8, leastFor 4⟩
    else none := by
  have hb := lead?_ofNat b.toNat_lt
  rw [UInt8.ofNat_toNat] at hb
  rw [hb]
  split
  · rfl
  split
  · rfl
  split
  · have hbits : b.toNat - 0xC0 = b.toNat % 32 := by omega
    rw [hbits]
    rfl
  split
  · have hbits : b.toNat - 0xE0 = b.toNat % 16 := by omega
    rw [hbits]
    rfl
  split
  · have hbits : b.toNat - 0xF0 = b.toNat % 8 := by omega
    rw [hbits]
    rfl
  · rfl

/-- A byte that goes on with a character adds its six lower bits. -/
theorem readFollowing_cons (n value : Nat) (b : UInt8) (rest : List UInt8) :
    readFollowing (n + 1) value (b :: rest) =
      if 0x80 ≤ b.toNat ∧ b.toNat < 0xC0 then readFollowing n (value * 64 + b.toNat % 64) rest
      else none := by
  rw [readFollowing]
  simp only [Bool.and_eq_true, decide_eq_true_eq, UInt8.le_iff_toNat_le, UInt8.lt_iff_toNat_lt,
    UInt8.reduceToNat]
  split
  · next hb =>
    have hbits : b.toNat - 0x80 = b.toNat % 64 := by omega
    rw [hbits]
  · rfl

/-- What is read has been there. -/
theorem exists_continues {v : Nat} (h : readFollowing (n + 1) value bs = some (v, rest)) :
    ∃ b more, bs = b :: more ∧ Continues b ∧
      readFollowing n (value * 64 + b.toNat % 64) more = some (v, rest) := by
  cases bs with
  | nil => simp [readFollowing] at h
  | cons b more =>
    rw [readFollowing_cons] at h
    split at h
    · next hb => exact ⟨b, more, rfl, hb, h⟩
    · simp at h

/-- There is a character with the value. -/
theorem IsChar.toNat_ofNat (h : IsChar bytes value) : (Char.ofNat value).toNat = value := by
  have hscalar := h.scalar
  have hbounded := h.bounded
  refine toNat_charOfNat ?_
  unfold Nat.isValidChar
  omega

/-- What a lead byte and the bytes it announces are read as is what they spell. -/
theorem exists_spells_of_lead {lead : Lead} (hlead : lead? b = some lead)
    (h : readFollowing lead.following lead.bits bs = some (value, rest)) :
    ∃ bytes, b :: bs = bytes ++ rest ∧ Spells bytes value ∧ leastFor bytes.length = lead.least := by
  -- one case for each number of bytes that a lead can announce, in the order of the leads
  rw [lead?_eq] at hlead
  split at hlead
  · next hb =>
    obtain rfl := Option.some.inj hlead
    obtain ⟨rfl, rfl⟩ := Prod.mk.inj (Option.some.inj h)
    exact ⟨[b], rfl, .one hb, rfl⟩
  split at hlead
  · simp at hlead
  split at hlead
  · obtain rfl := Option.some.inj hlead
    obtain ⟨b₁, bs, rfl, h₁, h⟩ := exists_continues h
    obtain ⟨rfl, rfl⟩ := Prod.mk.inj (Option.some.inj h)
    exact ⟨[b, b₁], rfl, .two (by omega) h₁, rfl⟩
  split at hlead
  · obtain rfl := Option.some.inj hlead
    obtain ⟨b₁, bs, rfl, h₁, h⟩ := exists_continues h
    obtain ⟨b₂, bs, rfl, h₂, h⟩ := exists_continues h
    obtain ⟨rfl, rfl⟩ := Prod.mk.inj (Option.some.inj h)
    exact ⟨[b, b₁, b₂], rfl, .three (by omega) h₁ h₂, rfl⟩
  split at hlead
  · obtain rfl := Option.some.inj hlead
    obtain ⟨b₁, bs, rfl, h₁, h⟩ := exists_continues h
    obtain ⟨b₂, bs, rfl, h₂, h⟩ := exists_continues h
    obtain ⟨b₃, bs, rfl, h₃, h⟩ := exists_continues h
    obtain ⟨rfl, rfl⟩ := Prod.mk.inj (Option.some.inj h)
    exact ⟨[b, b₁, b₂, b₃], rfl, .four (by omega) h₁ h₂ h₃, rfl⟩
  · simp at hlead

/-- A character is read from its bytes. -/
theorem exists_isChar_of_readChar? (h : readChar? bs = some (c, rest)) :
    ∃ bytes, bs = bytes ++ rest ∧ IsChar bytes c.toNat := by
  cases bs with
  | nil => simp [Utf8.readChar?] at h
  | cons b bs =>
    simp only [Utf8.readChar?, Option.bind_eq_bind, Option.bind_eq_some_iff] at h
    obtain ⟨lead, hlead, ⟨value, rest'⟩, hfollowing, h⟩ := h
    split at h
    · next hvalue =>
      obtain ⟨hleast, hvalid⟩ := hvalue
      obtain ⟨rfl, rfl⟩ := Prod.mk.inj (Option.some.inj h)
      obtain ⟨bytes, hbytes, hspells, hlength⟩ := exists_spells_of_lead hlead hfollowing
      have hvalue : (Char.ofNat value).toNat = value := toNat_charOfNat hvalid
      unfold Nat.isValidChar at hvalid
      refine ⟨bytes, hbytes, ?_⟩
      rw [hvalue]
      exact ⟨hspells, hspells.shortest_iff.2 (hlength ▸ hleast), by omega, by omega⟩
    · simp at h

/-- The bytes of a character are those that it is encoded as. -/
theorem isChar_iff : IsChar bytes c.toNat ↔ bytes = String.utf8EncodeChar c := by
  obtain ⟨encoded, hencoded, hchar⟩ :=
    exists_isChar_of_readChar? (readChar?_utf8EncodeChar c [])
  rw [List.append_nil, List.append_nil] at hencoded
  subst hencoded
  constructor
  · exact fun h => h.unique hchar
  · rintro rfl
    exact hchar

/-! ### Reading a text -/

theorem wellFormed_iff : WellFormed bs ↔ ∃ cs, bs = encode cs := by
  constructor
  · intro h
    induction h with
    | nil => exact ⟨[], rfl⟩
    | @cons bytes rest value first _ ih =>
      obtain ⟨cs, rfl⟩ := ih
      rw [← first.toNat_ofNat] at first
      refine ⟨Char.ofNat value :: cs, ?_⟩
      rw [isChar_iff.1 first]
      rfl
  · rintro ⟨cs, rfl⟩
    induction cs with
    | nil => exact .nil
    | cons c cs ih => exact .cons (isChar_iff.2 rfl) ih

/-- What is read has been encoded. -/
theorem eq_encode_of_decodeFrom {before : List Char} (h : decodeFrom before bs = some cs) :
    ∃ more, cs = before.reverse ++ more ∧ bs = encode more := by
  fun_induction decodeFrom before bs with
  | case1 before bs hempty =>
    obtain rfl := Option.some.inj h
    exact ⟨[], (List.append_nil _).symm, List.isEmpty_iff.1 hempty⟩
  | case2 before bs _ hnone => simp at h
  | case3 before bs _ c rest hread ih =>
    obtain ⟨more, rfl, rfl⟩ := ih h
    obtain ⟨bytes, rfl, hchar⟩ := exists_isChar_of_readChar? hread
    refine ⟨c :: more, by simp, ?_⟩
    rw [isChar_iff.1 hchar]
    rfl

/-- **To be read is to have been written.** -/
theorem decode?_eq_some_iff : decode? bs = some cs ↔ bs = encode cs := by
  constructor
  · intro h
    obtain ⟨more, rfl, rfl⟩ := eq_encode_of_decodeFrom h
    rfl
  · rintro rfl
    exact decode?_encode cs

/-- Just what is well-formed can be read. -/
theorem exists_decode?_iff : (∃ cs, decode? bs = some cs) ↔ WellFormed bs := by
  rw [wellFormed_iff]
  exact exists_congr fun _ => decode?_eq_some_iff

theorem decode?_eq_none_iff : decode? bs = none ↔ ¬ WellFormed bs := by
  rw [← exists_decode?_iff, Option.eq_none_iff_forall_ne_some, not_exists]

end Utf8

/-! ### UTF-16 -/

namespace Utf16

variable {order : ByteOrder} {u v : Nat}

theorem unit_lt (order : ByteOrder) (b₀ b₁ : UInt8) : order.unit b₀ b₁ < 0x10000 := by
  have h₀ := b₀.toNat_lt
  have h₁ := b₁.toNat_lt
  cases order with
  | little =>
    show b₁.toNat * 256 + b₀.toNat < 0x10000
    omega
  | big =>
    show b₀.toNat * 256 + b₁.toNat < 0x10000
    omega

/-- Two bytes are those of the unit that they make. -/
theorem bytes_unit (order : ByteOrder) (b₀ b₁ : UInt8) :
    order.bytes (order.unit b₀ b₁) = [b₀, b₁] := by
  have hlow : ∀ a b : UInt8, UInt8.ofNat ((a.toNat * 256 + b.toNat) % 256) = b := by
    intro a b
    have hb := b.toNat_lt
    have hmod : (a.toNat * 256 + b.toNat) % 256 = b.toNat := by omega
    rw [hmod, UInt8.ofNat_toNat]
  have hhigh : ∀ a b : UInt8, UInt8.ofNat ((a.toNat * 256 + b.toNat) / 256) = a := by
    intro a b
    have hb := b.toNat_lt
    have hdiv : (a.toNat * 256 + b.toNat) / 256 = a.toNat := by omega
    rw [hdiv, UInt8.ofNat_toNat]
  cases order with
  | little => rw [ByteOrder.unit, ByteOrder.bytes, hlow, hhigh]
  | big => rw [ByteOrder.unit, ByteOrder.bytes, hlow, hhigh]

/-- A unit that is no surrogate is the unit of a character. -/
theorem units_single (hbound : u < 0x10000) (hlow : isLow u = false) (hhigh : isHigh u = false) :
    units (Char.ofNat u) = [u] := by
  have hvalid : u.isValidChar := by
    simp only [isLow, isHigh, Bool.and_eq_false_iff, decide_eq_false_iff_not] at hlow hhigh
    unfold Nat.isValidChar
    omega
  rw [units, toNat_charOfNat hvalid, if_pos hbound]

/-- A high surrogate and a low one are the units of a character. -/
theorem units_pair (hhigh : isHigh u = true) (hlow : isLow v = true) :
    units (Char.ofNat (0x10000 + (u - 0xD800) * 0x400 + (v - 0xDC00))) = [u, v] := by
  simp only [isHigh, isLow, Bool.and_eq_true, decide_eq_true_eq] at hhigh hlow
  have hvalid : (0x10000 + (u - 0xD800) * 0x400 + (v - 0xDC00)).isValidChar := by
    unfold Nat.isValidChar
    omega
  have hfirst : 0xD800 + (0x10000 + (u - 0xD800) * 0x400 + (v - 0xDC00) - 0x10000) / 0x400 = u := by
    omega
  have hsecond :
      0xDC00 + (0x10000 + (u - 0xD800) * 0x400 + (v - 0xDC00) - 0x10000) % 0x400 = v := by omega
  rw [units, toNat_charOfNat hvalid, if_neg (by omega), hfirst, hsecond]

theorem encode_cons (order : ByteOrder) (c : Char) (cs : List Char) :
    encode order (c :: cs) = (units c).flatMap order.bytes ++ encode order cs := by
  rw [encode, List.flatMap_cons, List.flatMap_append]
  rfl

/-- What is read has been encoded. -/
theorem eq_encode_of_decodeFrom {position : Nat} {before cs : List Char} {bs : List UInt8}
    (h : decodeFrom order position before bs = .ok cs) :
    ∃ more, cs = before.reverse ++ more ∧ bs = encode order more := by
  fun_induction decodeFrom order position before bs with
  | case1 position before =>
    obtain rfl := Except.ok.inj h
    exact ⟨[], (List.append_nil _).symm, rfl⟩
  | case2 => simp at h
  | case3 => simp at h
  | case4 position before b₀ b₁ unit hlow hhigh b₂ b₃ rest next hnext value ih =>
    -- a surrogate pair
    obtain ⟨more, rfl, rfl⟩ := ih h
    refine ⟨Char.ofNat value :: more, by simp, ?_⟩
    have hunits : units (Char.ofNat value) = [unit, next] := units_pair hhigh hnext
    have hbytes : (units (Char.ofNat value)).flatMap order.bytes = [b₀, b₁, b₂, b₃] := by
      rw [hunits, List.flatMap_cons, List.flatMap_singleton, bytes_unit, bytes_unit]
      rfl
    rw [encode_cons, hbytes]
    rfl
  | case5 => simp at h
  | case6 => simp at h
  | case7 position before b₀ b₁ rest unit hlow hhigh ih =>
    obtain ⟨more, rfl, rfl⟩ := ih h
    refine ⟨Char.ofNat unit :: more, by simp, ?_⟩
    have hunits : units (Char.ofNat unit) = [unit] :=
      units_single (unit_lt order b₀ b₁) (Bool.eq_false_of_not_eq_true hlow)
        (Bool.eq_false_of_not_eq_true hhigh)
    have hbytes : (units (Char.ofNat unit)).flatMap order.bytes = [b₀, b₁] := by
      rw [hunits, List.flatMap_singleton, bytes_unit]
    rw [encode_cons, hbytes]
    rfl

/-- **To be read is to have been written,** in either byte order. -/
theorem decode_eq_ok_iff {offset : Nat} {bs : List UInt8} {cs : List Char} :
    decode order offset bs = .ok cs ↔ bs = encode order cs := by
  constructor
  · intro h
    obtain ⟨more, rfl, rfl⟩ := eq_encode_of_decodeFrom h
    rfl
  · rintro rfl
    exact decode_encode order offset cs

/-- A byte order is declared by its mark. -/
theorem markedOrder?_eq_some_iff {bs : List UInt8} :
    markedOrder? bs = some order ↔ order.mark <+: bs := by
  constructor
  · intro h
    unfold markedOrder? at h
    have hmark := List.find?_some h
    exact List.isPrefixOf_iff_prefix.1 hmark
  · rintro ⟨rest, rfl⟩
    exact markedOrder?_mark order rest

theorem markedOrder?_eq_none_iff {bs : List UInt8} :
    markedOrder? bs = none ↔ ∀ order : ByteOrder, ¬ order.mark <+: bs := by
  constructor
  · intro h order hmark
    rw [markedOrder?_eq_some_iff.2 hmark] at h
    simp at h
  · intro h
    cases hmarked : markedOrder? bs with
    | none => rfl
    | some order => exact absurd (markedOrder?_eq_some_iff.1 hmarked) (h order)

end Utf16

/-! ### The text of a file -/

namespace Source

/-- Whether a guesser has a say: what is made of the bytes is not the same for all guessers. -/
def Consults (library : Library) (bs : List UInt8) : Prop :=
  ∃ guesser guesser' : Guesser, decode library guesser bs ≠ decode library guesser' bs

/-- The form that a file declares by what it opens with. -/
def declared (bs : List UInt8) : Form :=
  match Utf16.markedOrder? bs with
  | some order => .utf16 order
  | none => .utf8 (Utf8.signature.isPrefixOf bs)

variable {library : Library} {guesser : Guesser} {bs bs' : List UInt8} {order : Utf16.ByteOrder}
  {content : List Char}

/-! #### Behind a mark -/

theorem decode_of_marked (h : order.mark <+: bs) (library : Library) (guesser : Guesser) :
    decode library guesser bs =
      (Utf16.decode order order.mark.length (bs.drop order.mark.length)).mapError .malformed := by
  rw [decode, Utf16.markedOrder?_eq_some_iff.2 h]

theorem declared_of_marked (h : order.mark <+: bs) : declared bs = .utf16 order := by
  rw [declared, Utf16.markedOrder?_eq_some_iff.2 h]

theorem not_consults_of_marked (h : order.mark <+: bs) : ¬ Consults library bs := by
  rintro ⟨guesser, guesser', hne⟩
  rw [decode_of_marked h, decode_of_marked h] at hne
  exact hne rfl

theorem decode_marked_eq_ok_iff (h : order.mark <+: bs) :
    decode library guesser bs = .ok content ↔ bs = (Form.utf16 order).bytes content := by
  obtain ⟨rest, rfl⟩ := h
  have hdecode : decode library guesser (order.mark ++ rest) =
      (Utf16.decode order order.mark.length rest).mapError .malformed := by
    rw [decode_of_marked (List.prefix_append _ _), List.drop_left]
  have hbytes : order.mark ++ rest = (Form.utf16 order).bytes content ↔
      rest = Utf16.encode order content := List.append_right_inj order.mark
  have hread : Utf16.decode order order.mark.length rest = .ok content ↔
      rest = Utf16.encode order content := Utf16.decode_eq_ok_iff
  rw [hbytes, hdecode, ← hread]
  cases Utf16.decode order order.mark.length rest <;> simp [Except.mapError]

/-- What goes wrong behind a mark has gone wrong in UTF-16. -/
theorem exists_malformed (h : order.mark <+: bs) {fault : Fault}
    (hfault : decode library guesser bs = .error fault) : ∃ defect, fault = .malformed defect := by
  rw [decode_of_marked h] at hfault
  cases hdecode : Utf16.decode order order.mark.length (bs.drop order.mark.length) with
  | ok content => simp [hdecode, Except.mapError] at hfault
  | error defect =>
    rw [hdecode] at hfault
    exact ⟨defect, (Except.error.inj hfault).symm⟩

/-! #### Without a mark -/

theorem signature_append_dropSignature (bs : List UInt8) :
    (if Utf8.signature.isPrefixOf bs then Utf8.signature else []) ++ Utf8.dropSignature bs =
      bs := by
  rw [Utf8.dropSignature]
  split
  · next h =>
    obtain ⟨rest, rfl⟩ := List.isPrefixOf_iff_prefix.1 h
    rw [List.drop_left]
  · rfl

/-- What is UTF-8 behind a signature is read as UTF-8. -/
theorem decode_of_utf8 (h : ∀ order : Utf16.ByteOrder, ¬ order.mark <+: bs)
    (hread : Utf8.decode? (Utf8.dropSignature bs) = some content) (guesser : Guesser) :
    decode library guesser bs = .ok content := by
  rw [decode, Utf16.markedOrder?_eq_none_iff.2 h, hread]

/-- For all else there is the guess about the bytes as they are. -/
theorem decode_of_guess (h : ∀ order : Utf16.ByteOrder, ¬ order.mark <+: bs)
    (hnone : Utf8.decode? (Utf8.dropSignature bs) = none) (guesser : Guesser) :
    decode library guesser bs = decodeGuessed library (guesser bs) bs := by
  rw [decode, Utf16.markedOrder?_eq_none_iff.2 h, hnone]

theorem declared_of_unmarked (h : ∀ order : Utf16.ByteOrder, ¬ order.mark <+: bs) :
    declared bs = .utf8 (Utf8.signature.isPrefixOf bs) := by
  rw [declared, Utf16.markedOrder?_eq_none_iff.2 h]

/-- **When a guesser has a say:** there is no mark, and what is behind a signature is not UTF-8. -/
theorem consults_iff : Consults library bs ↔
    (∀ order : Utf16.ByteOrder, ¬ order.mark <+: bs) ∧
      ¬ Utf8.WellFormed (Utf8.dropSignature bs) := by
  constructor
  · intro h
    have hunmarked : ∀ order : Utf16.ByteOrder, ¬ order.mark <+: bs :=
      fun order hmark => not_consults_of_marked hmark h
    refine ⟨hunmarked, fun hwell => ?_⟩
    obtain ⟨guesser, guesser', hne⟩ := h
    obtain ⟨content, hcontent⟩ := Utf8.exists_decode?_iff.2 hwell
    rw [decode_of_utf8 hunmarked hcontent, decode_of_utf8 hunmarked hcontent] at hne
    exact hne rfl
  · rintro ⟨hunmarked, hwell⟩
    have hnone := Utf8.decode?_eq_none_iff.2 hwell
    -- a guesser that is interrupted makes itself felt
    refine ⟨fun _ => .interrupted, fun _ => .label none, ?_⟩
    rw [decode_of_guess hunmarked hnone, decode_of_guess hunmarked hnone]
    simp [decodeGuessed]

theorem decode_unmarked_eq_ok_iff (h : ∀ order : Utf16.ByteOrder, ¬ order.mark <+: bs)
    (hwell : Utf8.WellFormed (Utf8.dropSignature bs)) : decode library guesser bs = .ok content ↔
      bs = (Form.utf8 (Utf8.signature.isPrefixOf bs)).bytes content := by
  have hbytes : bs = (Form.utf8 (Utf8.signature.isPrefixOf bs)).bytes content ↔
      Utf8.dropSignature bs = Utf8.encode content := by
    have hsplit := signature_append_dropSignature bs
    generalize Utf8.signature.isPrefixOf bs = signed at hsplit ⊢
    rw [Form.bytes]
    nth_rewrite 1 [← hsplit]
    exact List.append_right_inj _
  obtain ⟨read, hread⟩ := Utf8.exists_decode?_iff.2 hwell
  rw [hbytes, ← Utf8.decode?_eq_some_iff, decode_of_utf8 h hread, hread]
  simp

/-! #### All files -/

/-- **Without a guess,** the text of a file is the one whose declared form the file is. -/
theorem decode_eq_ok_iff (h : ¬ Consults library bs) :
    decode library guesser bs = .ok content ↔ bs = (declared bs).bytes content := by
  by_cases hmarked : ∃ order : Utf16.ByteOrder, order.mark <+: bs
  · obtain ⟨order, hmark⟩ := hmarked
    rw [declared_of_marked hmark]
    exact decode_marked_eq_ok_iff hmark
  · have hunmarked : ∀ order : Utf16.ByteOrder, ¬ order.mark <+: bs := not_exists.1 hmarked
    have hwell : Utf8.WellFormed (Utf8.dropSignature bs) := by
      by_contra hwell
      exact h (consults_iff.2 ⟨hunmarked, hwell⟩)
    rw [declared_of_unmarked hunmarked]
    exact decode_unmarked_eq_ok_iff hunmarked hwell

/-- **Decoding without a guess is exact.** A guesser has a say just where no mark of UTF-16 opens
the file and what is behind a signature is not well-formed UTF-8. Behind a mark, the file is the
UTF-16 form of what is read from it, or nothing is read because UTF-16 is violated. What is left is
UTF-8 and is always read, and again the file is the form of what is read, with the signature just if
it had one. So a text is read from no more than one of the files with the same opening. -/
theorem decode_exact (library : Library) :
    (∀ bs, Consults library bs ↔
      (∀ order : Utf16.ByteOrder, ¬ order.mark <+: bs) ∧
        ¬ Utf8.WellFormed (Utf8.dropSignature bs)) ∧
    (∀ (order : Utf16.ByteOrder) bs guesser, order.mark <+: bs →
      (∀ content, decode library guesser bs = .ok content ↔ bs = (Form.utf16 order).bytes content) ∧
        ∀ fault, decode library guesser bs = .error fault → ∃ defect, fault = .malformed defect) ∧
    (∀ bs, ¬ Consults library bs → (∀ order : Utf16.ByteOrder, ¬ order.mark <+: bs) →
      ∃ content, (∀ guesser, decode library guesser bs = .ok content) ∧
        bs = (Form.utf8 (Utf8.signature.isPrefixOf bs)).bytes content) ∧
    ∀ bs bs', ¬ Consults library bs → ¬ Consults library bs' → declared bs = declared bs' →
      ∀ content guesser guesser', decode library guesser bs = .ok content →
        decode library guesser' bs' = .ok content → bs = bs' := by
  refine ⟨fun bs => consults_iff, fun order bs guesser hmark =>
    ⟨fun content => decode_marked_eq_ok_iff hmark, fun fault => exists_malformed hmark⟩,
    fun bs hsettled hunmarked => ?_, fun bs bs' hsettled hsettled' hdeclared content guesser
      guesser' hread hread' => ?_⟩
  · -- without a mark and without a guess, what is read is UTF-8
    have hwell : Utf8.WellFormed (Utf8.dropSignature bs) := by
      by_contra hwell
      exact hsettled (consults_iff.2 ⟨hunmarked, hwell⟩)
    obtain ⟨content, hcontent⟩ := Utf8.exists_decode?_iff.2 hwell
    have hread : ∀ guesser, decode library guesser bs = .ok content :=
      decode_of_utf8 hunmarked hcontent
    exact ⟨content, hread,
      (decode_unmarked_eq_ok_iff hunmarked hwell).1 (hread fun _ => .interrupted)⟩
  · -- both are the text written in the form that they declare
    calc bs = (declared bs).bytes content := (decode_eq_ok_iff hsettled).1 hread
      _ = (declared bs').bytes content := by rw [hdeclared]
      _ = bs' := ((decode_eq_ok_iff hsettled').1 hread').symm

/-- Of three files, one opens with a mark and one with a signature, and both hold one character; the
third has a character in more bytes than it takes, and is left to the guesser. -/
theorem decode_exact_openings :
    let marked : List UInt8 := [0xFF, 0xFE, 0x00, 0xAC]
    let signed : List UInt8 := [0xEF, 0xBB, 0xBF, 0xEA, 0xB0, 0x80]
    let library : Library := fun _ _ => .refused
    (¬ Consults library marked ∧ ∀ guesser, decode library guesser marked = .ok ['가']) ∧
      (¬ Consults library signed ∧ ∀ guesser, decode library guesser signed = .ok ['가']) ∧
      Consults library [0xC0, 0x80] := by
  intro marked signed library
  obtain ⟨hconsults, hmarked, hunmarked, -⟩ := decode_exact library
  have hmark : Utf16.ByteOrder.little.mark <+: marked := by decide
  have hnoMark : ∀ order : Utf16.ByteOrder, ¬ order.mark <+: signed := by
    intro order
    cases order <;> decide
  have hwell : Utf8.WellFormed (Utf8.dropSignature signed) := Utf8.wellFormed_iff.2 ⟨['가'], by cbv⟩
  have hsettled : ¬ Consults library signed := fun h => ((hconsults _).1 h).2 hwell
  refine ⟨⟨fun h => ((hconsults _).1 h).1 .little hmark, fun guesser =>
    ((hmarked .little marked guesser hmark).1 ['가']).2 (by cbv)⟩, ⟨hsettled, ?_⟩, ?_⟩
  · -- what one guesser cannot change no guesser can
    obtain ⟨content, hread, -⟩ := hunmarked signed hsettled hnoMark
    have hone : decode library (fun _ => .interrupted) signed = .ok ['가'] := by cbv
    obtain rfl := Except.ok.inj ((hread _).symm.trans hone)
    exact hread
  · have hnone : Utf8.decode? (Utf8.dropSignature [0xC0, 0x80]) = none := by cbv
    exact (hconsults _).2
      ⟨fun order => by cases order <;> decide, Utf8.decode?_eq_none_iff.1 hnone⟩

end Source

end HangulLint
