import HangulLint.Report
import Mathlib

/-!
# The names of reports

The name of a report consists of letters, digits and three other signs, whatever the time. So it is
one that a file can have, and it takes as many bytes as it has characters. How many these are
depends on the digits of the year alone: the year is written as it is, and everything else in two
digits.

* `Report.mem_nameChars` — the signs that occur in the name;
* `Report.isFileName_nameAt` — the name is one that a file can have;
* `Report.length_bytes_nameAt` — how many bytes it takes.
-/

namespace HangulLint

theorem Utf8.bytesOfName_append (s t : Text) :
    bytesOfName (s ++ t) = bytesOfName s ++ bytesOfName t := List.flatMap_append

/-- Characters below 128 take one byte each. -/
theorem Utf8.length_bytesOfName_ofChars {cs : List Char} (h : ∀ c ∈ cs, c.toNat < 128) :
    (bytesOfName (Text.ofChars cs)).length = cs.length := by
  induction cs with
  | nil => rfl
  | cons c cs ih =>
    obtain ⟨hc, hcs⟩ := List.forall_mem_cons.1 h
    have hone : (String.utf8EncodeChar c).length = 1 := by
      rw [String.length_utf8EncodeChar, Char.utf8Size_eq_one_iff]
      exact UInt32.le_iff_toNat_le.2 (Nat.le_of_lt_succ hc)
    have hcons : bytesOfName (Text.ofChars (c :: cs)) =
        String.utf8EncodeChar c ++ bytesOfName (Text.ofChars cs) := rfl
    rw [hcons, List.length_append, hone, ih hcs, List.length_cons, Nat.add_comm]

namespace Timestamp

theorem isDigit_of_mem_twoDigits {n : Nat} (h : n < 100) {c : Char} (hc : c ∈ twoDigits n) :
    c.isDigit = true := by
  have hdigit : ∀ d < 10, (Nat.digitChar d).isDigit = true := by decide
  obtain rfl | rfl := List.mem_pair.1 hc
  · exact hdigit _ (by omega)
  · exact hdigit _ (by omega)

/-- A time is written with digits and two signs between them. -/
theorem mem_chars {t : Timestamp} {c : Char} (h : c ∈ t.chars) :
    c.isDigit = true ∨ c = '-' ∨ c = '_' := by
  have hyear : c ∈ (toString t.year).toList → c.isDigit = true := fun hc =>
    Nat.isDigit_of_mem_toDigits (by decide) (by decide) (Nat.toList_repr ▸ hc)
  have hmonth := @isDigit_of_mem_twoDigits t.month (by have := t.month_bounds; omega) c
  have hday := @isDigit_of_mem_twoDigits t.day (by have := t.day_bounds; omega) c
  have hhour := @isDigit_of_mem_twoDigits t.hour (by have := t.hour_lt; omega) c
  have hminute := @isDigit_of_mem_twoDigits t.minute (by have := t.minute_lt; omega) c
  have hsecond := @isDigit_of_mem_twoDigits t.second (by have := t.second_lt; omega) c
  simp only [chars, List.mem_append, List.mem_cons] at h
  grind

theorem length_digits (n : Nat) : (toString n).toList.length = (Nat.toDigits 10 n).length := by
  rw [Nat.toString_eq_ofList_toDigits, String.toList_ofList]

theorem length_chars (t : Timestamp) :
    t.chars.length = (Nat.toDigits 10 t.year).length + 13 := by
  simp only [chars, twoDigits, List.length_append, List.length_cons, List.length_nil,
    length_digits]

/-- A year has at most four digits. -/
theorem length_year_le (t : Timestamp) : (Nat.toDigits 10 t.year).length ≤ 4 := by
  rw [Nat.length_toDigits_le_iff (by decide) (by decide)]
  exact Nat.lt_succ_of_le t.year_bounds.2

end Timestamp

namespace Report

/-- The characters of the name of a report. -/
def nameChars (now : Timestamp) : List Char :=
  nameStart.toList ++ '_' :: now.chars ++ ".txt".toList

theorem nameAt_eq (now : Timestamp) : nameAt now = Text.ofChars (nameChars now) := by
  have hsign : Text.ofChars ['_'] = ("_" : Text) := by simp [Text.ofString]
  rw [nameAt, nameChars, Text.ofChars_append, Text.ofChars_append, ← List.singleton_append,
    Text.ofChars_append, hsign, ← List.append_assoc]
  rfl

/-- The signs that occur in the name of a report. -/
theorem mem_nameChars {now : Timestamp} {c : Char} (h : c ∈ nameChars now) :
    c.isDigit = true ∨ c ∈ "HangulDetector_-.txt".toList := by
  have hstart : ∀ c ∈ nameStart.toList ++ ".txt".toList, c ∈ "HangulDetector_-.txt".toList := by
    simp [nameStart]
  simp only [nameChars, List.mem_append, List.mem_cons] at h
  obtain (hc | rfl | htime) | hc := h
  · exact .inr (hstart c (List.mem_append_left _ hc))
  · exact .inr (by decide)
  · obtain hdigit | rfl | rfl := Timestamp.mem_chars htime
    · exact .inl hdigit
    · exact .inr (by decide)
    · exact .inr (by decide)
  · exact .inr (hstart c (List.mem_append_right _ hc))

theorem lt_of_mem_nameChars {now : Timestamp} {c : Char} (h : c ∈ nameChars now) :
    c.toNat < 128 := by
  obtain hdigit | hc := mem_nameChars h
  · exact Nat.lt_of_le_of_lt (Char.isDigit_iff_toNat.1 hdigit).2 (by decide)
  · have hall : ∀ c ∈ "HangulDetector_-.txt".toList, c.toNat < 128 := by simp
    exact hall c hc

/-- A sign that is no digit and no other sign of the name does not occur in it. -/
theorem notMem_nameAt (now : Timestamp) {c : Char} (hdigit : c.isDigit = false)
    (hother : c ∉ "HangulDetector_-.txt".toList) : Glyph.scalar c ∉ nameAt now := by
  rw [nameAt_eq]
  intro h
  obtain ⟨c', hc', heq⟩ := List.mem_map.1 h
  obtain rfl := Glyph.scalar.inj heq
  obtain hmem | hmem := mem_nameChars hc'
  · exact absurd (hdigit.symm.trans hmem) (by simp)
  · exact hother hmem

theorem length_bytes_nameAt (now : Timestamp) :
    (Utf8.bytesOfName (nameAt now)).length = (Nat.toDigits 10 now.year).length + 32 := by
  rw [nameAt_eq, Utf8.length_bytesOfName_ofChars fun c hc => lt_of_mem_nameChars hc]
  have hstart : nameStart.toList.length = 14 := by decide
  have hend : ".txt".toList.length = 4 := by decide
  simp only [nameChars, List.length_append, List.length_cons, hstart, hend, now.length_chars]
  omega

/-- A name leads nowhere but into the directory that it is asked for in. -/
theorem slash_notMem_nameAt (now : Timestamp) : Path.slash ∉ nameAt now :=
  notMem_nameAt now (by decide) (by decide)

/-- **The name of a report is one that a file can have.** -/
theorem isFileName_nameAt (now : Timestamp) : isFileName (nameAt now) = true := by
  have hslash := slash_notMem_nameAt now
  have hnul : Glyph.scalar '\x00' ∉ nameAt now := notMem_nameAt now (by decide) (by decide)
  have hlength := length_bytes_nameAt now
  have hyear := now.length_year_le
  -- the short names take fewer bytes
  have hne : ∀ name : Text, (Utf8.bytesOfName name).length < 32 → nameAt now ≠ name := by
    rintro name hshort rfl
    omega
  have hempty : nameAt now ≠ [] := hne [] (by decide)
  have hself : nameAt now ≠ Path.selfName := hne _ (by decide)
  have hparent : nameAt now ≠ Path.parentName := hne _ (by decide)
  have hmost : maxNameBytes = 255 := rfl
  have hbytes : (Utf8.bytesOfName (nameAt now)).length ≤ maxNameBytes := by omega
  simp [isFileName, hempty, hself, hparent, hslash, hnul, hbytes]

end Report

end HangulLint
