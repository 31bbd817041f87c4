import HangulLint.Proofs.NewFile
import HangulLint.Proofs.ReportName

/-!
# Reports one after another

The name of a report tells the second in which it is written, and nothing else. All numbers but the
year take two digits, and the year ends where the first minus sign stands, so that no two seconds
have one name. From the year 1000 on the year takes four digits. Then every number stands in its own
place, and since digits follow one another as their code points do, the names come in the order of
time; before, the name of a shorter year comes behind.

A name holds no slash, so that it stands in the directory for the report itself, and a report that
is written there changes nothing under any other name. So the reports of different seconds in one
directory leave each other alone, whether they are written, refused or torn, and a report that has
been written can still be read after the next.

* `Timestamp.numbers`, `Timestamp.Before` — the numbers of a second, and the order of time;
* `Report.nameAt_eq_iff`, `Report.le_nameAt_iff` — names are the same, and in order, as seconds are;
* `ReportPlan.GoesTo` — the directory and the name that a report goes to;
* `ReportPlan.GoesTo.site_write` — what the writing of a report changes;
* `ReportWriting.Spares`, `ReportPlan.GoesTo.spares` — two reports that leave each other alone;
* `Report.nameAt_tellsSecond` — names, writes and the order of time.
-/

namespace HangulLint

/-! ### The order of texts with one beginning -/

namespace Text

theorem le_ofChars_cons_iff {c d : Char} {s t : List Char} :
    le (ofChars (c :: s)) (ofChars (d :: t)) = true ↔
      c.toNat < d.toNat ∨ c = d ∧ le (ofChars s) (ofChars t) = true := by
  have hcons : ∀ (c : Char) (cs : List Char), ofChars (c :: cs) = .scalar c :: ofChars cs :=
    fun _ _ => rfl
  rw [hcons, hcons, le_cons_iff, Glyph.scalar.injEq]
  rfl

/-- What two texts begin with alike does not decide their order. -/
theorem le_ofChars_append_iff (start : List Char) {s t : List Char} :
    le (ofChars (start ++ s)) (ofChars (start ++ t)) = true ↔
      le (ofChars s) (ofChars t) = true := by
  induction start with
  | nil => rfl
  | cons c start ih =>
    rw [List.cons_append, List.cons_append, le_ofChars_cons_iff, ih]
    simp

end Text

namespace Timestamp

variable {a b : Timestamp} {m n : Nat} {s t : List Char}

/-- The numbers that tell a second, the year first. -/
def numbers (t : Timestamp) : List Nat := [t.year, t.month, t.day, t.hour, t.minute, t.second]

/-- **The order of time.** The first of the numbers that differs decides. -/
def Before (a b : Timestamp) : Prop := List.Lex (· < ·) a.numbers b.numbers

/-! ### Digits -/

theorem digitChar_inj (hm : m < 10) (hn : n < 10) :
    Nat.digitChar m = Nat.digitChar n ↔ m = n := by
  refine ⟨fun h => ?_, congrArg _⟩
  have hcode := congrArg Char.toNat h
  rw [Nat.toNat_digitChar_of_lt_ten hm, Nat.toNat_digitChar_of_lt_ten hn] at hcode
  exact Nat.add_left_cancel hcode

/-- Two digits tell the number. -/
theorem twoDigits_append_inj (hm : m < 100) (hn : n < 100) :
    twoDigits m ++ s = twoDigits n ++ t ↔ m = n ∧ s = t := by
  simp only [twoDigits, List.cons_append, List.nil_append, List.cons.injEq]
  rw [digitChar_inj (by omega) (by omega), digitChar_inj (by omega) (by omega), ← and_assoc]
  exact and_congr_left fun _ => by omega

/-- In front of a minus sign, digits tell the number, however many they are. -/
theorem digits_append_inj :
    (toString m).toList ++ '-' :: s = (toString n).toList ++ '-' :: t ↔ m = n ∧ s = t := by
  -- the digits end where the first sign stands that is none
  have hcut : ∀ (k : Nat) (rest : List Char),
      ((toString k).toList ++ '-' :: rest).takeWhile Char.isDigit = (toString k).toList := by
    intro k rest
    have hdigits : ∀ c ∈ (toString k).toList, c.isDigit = true := fun c hc =>
      Nat.isDigit_of_mem_toDigits (by decide) (by decide) (Nat.toList_repr ▸ hc)
    rw [List.takeWhile_append_of_pos hdigits, List.takeWhile_cons_of_neg (by decide),
      List.append_nil]
  constructor
  · intro h
    have hdigits : (toString m).toList = (toString n).toList := by
      rw [← hcut m s, h, hcut n t]
    have hnumber : m = n := Nat.repr_inj.1 (String.toList_inj.1 hdigits)
    rw [hdigits, List.append_cancel_left_eq, List.cons.injEq] at h
    exact ⟨hnumber, h.2⟩
  · rintro ⟨rfl, rfl⟩
    rfl

/-- All numbers but the year have two digits at most. -/
theorem lt_hundred (t : Timestamp) :
    t.month < 100 ∧ t.day < 100 ∧ t.hour < 100 ∧ t.minute < 100 ∧ t.second < 100 := by
  obtain ⟨year, month, day, hour, minute, second, -, hmonth, hday, hhour, hminute, hsecond⟩ := t
  dsimp only
  omega

/-- **The characters of a time tell its numbers.** -/
theorem chars_inj : a.chars = b.chars ↔ a.numbers = b.numbers := by
  obtain ⟨hmonth, hday, hhour, hminute, hsecond⟩ := a.lt_hundred
  obtain ⟨hmonth', hday', hhour', hminute', hsecond'⟩ := b.lt_hundred
  have hlast : twoDigits a.second = twoDigits b.second ↔ a.second = b.second := by
    simpa using twoDigits_append_inj (s := []) (t := []) hsecond hsecond'
  simp only [chars, numbers, List.append_assoc, List.cons_append, digits_append_inj,
    twoDigits_append_inj hmonth hmonth', twoDigits_append_inj hday hday',
    twoDigits_append_inj hhour hhour', twoDigits_append_inj hminute hminute', hlast,
    List.cons.injEq, true_and, and_true]

/-! ### The order of digits -/

/-- Digits come in the order of their numbers. -/
theorem le_digit_iff (hm : m < 10) (hn : n < 10) :
    Text.le (Text.ofChars (Nat.digitChar m :: s)) (Text.ofChars (Nat.digitChar n :: t)) = true ↔
      m < n ∨ m = n ∧ Text.le (Text.ofChars s) (Text.ofChars t) = true := by
  rw [Text.le_ofChars_cons_iff, Nat.toNat_digitChar_of_lt_ten hm, Nat.toNat_digitChar_of_lt_ten hn,
    Nat.add_lt_add_iff_left, digitChar_inj hm hn]

/-- So do two digits. -/
theorem le_twoDigits_iff (hm : m < 100) (hn : n < 100) :
    Text.le (Text.ofChars (twoDigits m ++ s)) (Text.ofChars (twoDigits n ++ t)) = true ↔
      m < n ∨ m = n ∧ Text.le (Text.ofChars s) (Text.ofChars t) = true := by
  -- the first digit decides, and where it is the same, the second does
  have hlt : m < n ↔ m / 10 < n / 10 ∨ m / 10 = n / 10 ∧ m % 10 < n % 10 := by omega
  have heq : m = n ↔ m / 10 = n / 10 ∧ m % 10 = n % 10 := by omega
  simp only [twoDigits, List.cons_append, List.nil_append]
  rw [le_digit_iff (by omega) (by omega), le_digit_iff (by omega) (by omega), hlt, heq,
    and_or_left, or_assoc, and_assoc]

/-- And so do the digits of years, from the year 1000 on, which are four. -/
theorem le_year_iff (hm : 1000 ≤ m ∧ m ≤ 9999) (hn : 1000 ≤ n ∧ n ≤ 9999) :
    Text.le (Text.ofChars ((toString m).toList ++ s))
        (Text.ofChars ((toString n).toList ++ t)) = true ↔
      m < n ∨ m = n ∧ Text.le (Text.ofChars s) (Text.ofChars t) = true := by
  -- four digits are two numbers of two digits each
  have hdigits : ∀ k, 1000 ≤ k ∧ k ≤ 9999 →
      (toString k).toList = twoDigits (k / 100) ++ twoDigits (k % 100) := by
    intro k hk
    have hrepr : (toString k).toList = Nat.toDigits 10 k := Nat.toList_repr
    have hthousands : k / 10 / 10 / 10 = k / 100 / 10 := by omega
    have hhundreds : k / 10 / 10 % 10 = k / 100 % 10 := by omega
    have htens : k / 10 % 10 = k % 100 / 10 := by omega
    have hones : k % 10 = k % 100 % 10 := by omega
    rw [hrepr, Nat.toDigits_of_base_le (by decide) (by omega),
      Nat.toDigits_of_base_le (by decide) (by omega),
      Nat.toDigits_of_base_le (by decide) (by omega), Nat.toDigits_of_lt_base (by omega),
      hthousands, hhundreds, htens, hones]
    rfl
  have hlt : m < n ↔ m / 100 < n / 100 ∨ m / 100 = n / 100 ∧ m % 100 < n % 100 := by omega
  have heq : m = n ↔ m / 100 = n / 100 ∧ m % 100 = n % 100 := by omega
  rw [hdigits m hm, hdigits n hn, List.append_assoc, List.append_assoc,
    le_twoDigits_iff (by omega) (by omega), le_twoDigits_iff (by omega) (by omega), hlt, heq,
    and_or_left, or_assoc, and_assoc]

/-! ### The order of time -/

/-- The first numbers decide the order of time, and where they are the same, the others do. -/
theorem lex_or_eq_cons {l l' : List Nat} :
    List.Lex (· < ·) (m :: l) (n :: l') ∨ m :: l = n :: l' ↔
      m < n ∨ m = n ∧ (List.Lex (· < ·) l l' ∨ l = l') := by
  rw [List.cons_lex_cons_iff, List.cons.injEq, and_or_left, or_assoc]

/-- **The characters of times are in the order of time,** from the year 1000 on. -/
theorem le_chars_iff (ha : 1000 ≤ a.year) (hb : 1000 ≤ b.year) (s : List Char) :
    Text.le (Text.ofChars (a.chars ++ s)) (Text.ofChars (b.chars ++ s)) = true ↔
      a.Before b ∨ a.numbers = b.numbers := by
  obtain ⟨hmonth, hday, hhour, hminute, hsecond⟩ := a.lt_hundred
  obtain ⟨hmonth', hday', hhour', hminute', hsecond'⟩ := b.lt_hundred
  have hend : Text.le (Text.ofChars s) (Text.ofChars s) = true := by
    simpa using Text.le_total (Text.ofChars s) (Text.ofChars s)
  -- one number after the other is compared on both sides
  have hsign : ∀ (c : Char) {s t : List Char}, Text.le (Text.ofChars (c :: s))
      (Text.ofChars (c :: t)) = true ↔ Text.le (Text.ofChars s) (Text.ofChars t) = true :=
    fun c => Text.le_ofChars_append_iff [c]
  simp only [chars, List.append_assoc, List.cons_append]
  rw [le_year_iff ⟨ha, a.year_bounds.2⟩ ⟨hb, b.year_bounds.2⟩, hsign,
    le_twoDigits_iff hmonth hmonth', hsign, le_twoDigits_iff hday hday', hsign,
    le_twoDigits_iff hhour hhour', le_twoDigits_iff hminute hminute',
    le_twoDigits_iff hsecond hsecond']
  simp only [Before, numbers, lex_or_eq_cons, hend, or_true]

end Timestamp

/-! ### Names -/

namespace Report

variable {a b : Timestamp}

/-- **The name of a report tells the second.** -/
theorem nameAt_eq_iff : nameAt a = nameAt b ↔ a.numbers = b.numbers := by
  have hscalar : Function.Injective (List.map Glyph.scalar) :=
    List.map_injective_iff.2 fun _ _ => Glyph.scalar.inj
  rw [nameAt_eq, nameAt_eq, Text.ofChars, Text.ofChars, hscalar.eq_iff, nameChars, nameChars,
    List.append_cancel_right_eq, List.append_cancel_left_eq, List.cons.injEq, Timestamp.chars_inj]
  exact and_iff_right rfl

/-- **Names are in the order of time,** from the year 1000 on. -/
theorem le_nameAt_iff (ha : 1000 ≤ a.year) (hb : 1000 ≤ b.year) :
    Text.le (nameAt a) (nameAt b) = true ↔ a.Before b ∨ a.numbers = b.numbers := by
  have hchars : ∀ now, nameChars now =
      (nameStart.toList ++ ['_']) ++ (now.chars ++ ".txt".toList) := by simp [nameChars]
  rw [nameAt_eq, nameAt_eq, hchars, hchars, Text.le_ofChars_append_iff,
    Timestamp.le_chars_iff ha hb]

end Report

/-! ### Writes -/

namespace Site

variable {site : Site} {directory : Path} {place location : Location} {name : Text}

/-- What is made in a directory that is there has its name there, if that is no link. -/
theorem LeadsTo.eq_child (h : site.LeadsTo (directory.child name) location)
    (hland : site.land directory = .ok (.directory place))
    (hlink : ∀ target, site.tree.node? (place ++ [name]) ≠ some (.link target)) :
    location = place ++ [name] := by
  obtain ⟨place', hplace', links, hleads⟩ := h.walk_child
  obtain rfl := Landing.directory.inj (Except.ok.inj (hland.symm.trans hplace'))
  exact FileTree.walk_single
    (fun target hentry => hlink target ((FileTree.node?_eq_some (by simp)).2 hentry)) hleads

end Site

namespace ReportPlan

variable {plan : ReportPlan} {site site' : Site} {now : Timestamp} {place location : Location}
  {bytes : List UInt8}

/-- **Where a report goes.** The directory for it is there, at a place, and what has its name in it
is the report's own file: no link leads elsewhere. -/
structure GoesTo (plan : ReportPlan) (site : Site) (now : Timestamp) (place : Location) : Prop where
  directed : ∃ directory journal, plan.directory site = .ok (directory, journal) ∧
    site.land directory = .ok (.directory place)
  unlinked : ∀ target, site.tree.node? (place ++ [Report.nameAt now]) ≠ some (.link target)

namespace GoesTo

/-- **What the writing of a report changes:** its own file, or nothing. -/
theorem site_write (h : plan.GoesTo site now place) (findings : Findings) :
    (plan.write site now findings).site = site ∨ ∃ bytes,
      site.Puts (plan.write site now findings).site (place ++ [Report.nameAt now]) bytes := by
  obtain ⟨directory, journal, hdirectory, hland⟩ := h.directed
  cases hemptied : site.write (directory.child (Report.nameAt now)) [] with
  | error fault =>
    rw [write_unopened hdirectory hemptied]
    exact .inl rfl
  | ok emptied =>
    right
    cases hencode : Utf8.encodeText (Report.render plan.arranged findings) with
    | error fault =>
      -- the file has been emptied
      obtain ⟨-, hcwd, hlevels, location, hleads, hfile, hsame⟩ := Site.write_ok hemptied
      obtain rfl := hleads.eq_child hland h.unlinked
      rw [write_error hdirectory hemptied hencode]
      exact ⟨[], hcwd, hlevels, hleads.walk.2.free, hfile, hsame⟩
    | ok bytes =>
      -- the file has been emptied and filled
      obtain ⟨houtcome, -⟩ := write_ok hdirectory hemptied hencode
      obtain ⟨directory', journal', emptied', bytes', hdirectory', hemptied', -, hfilled⟩ :=
        of_write_ok houtcome
      obtain ⟨rfl, -⟩ := Prod.mk.inj (Except.ok.inj (hdirectory.symm.trans hdirectory'))
      obtain ⟨hcwd, hlevels, location, hleads, hfile, hsame⟩ :=
        Site.write_twice hemptied' hfilled
      obtain rfl := hleads.eq_child hland h.unlinked
      exact ⟨bytes', hcwd, hlevels, hleads.walk.2.free, hfile, hsame⟩

/-- What has another name, or lies elsewhere, is as it was. -/
theorem node?_write (h : plan.GoesTo site now place) (findings : Findings) {other : Location}
    (hother : other ≠ place ++ [Report.nameAt now]) :
    (plan.write site now findings).site.tree.node? other = site.tree.node? other := by
  obtain heq | ⟨bytes, hputs⟩ := h.site_write findings
  · rw [heq]
  · exact hputs.same other hother

/-- A file that is put somewhere is not in the way of a report. -/
theorem puts (h : plan.GoesTo site now place) (hputs : site.Puts site' location bytes) :
    plan.GoesTo site' now place := by
  obtain ⟨directory, journal, hdirectory, hland⟩ := h.directed
  refine ⟨⟨directory, journal, ?_, hputs.land_directory hland⟩, fun target hlink => ?_⟩
  · rw [hputs.directory_eq, hdirectory]
  · by_cases hplace : place ++ [Report.nameAt now] = location
    · rw [hplace, hputs.file] at hlink
      exact absurd hlink (by simp)
    · exact h.unlinked target ((hputs.same _ hplace).symm.trans hlink)

/-- A report goes where it went before another one. -/
theorem after {other : ReportPlan} {time : Timestamp} (h : plan.GoesTo site now place)
    (hother : other.GoesTo site time place) (findings : Findings) :
    plan.GoesTo (other.write site time findings).site now place := by
  obtain heq | ⟨bytes, hputs⟩ := hother.site_write findings
  · rwa [heq]
  · exact h.puts hputs

/-- A file that lies elsewhere reads as before. -/
theorem read_write (h : plan.GoesTo site now place) (findings : Findings) {path : Path}
    (hland : site.land path = .ok (.file location bytes))
    (hother : location ≠ place ++ [Report.nameAt now]) :
    (plan.write site now findings).site.read path = site.read path := by
  obtain heq | ⟨written, hputs⟩ := h.site_write findings
  · rw [heq]
  obtain heq | ⟨hleads, -⟩ | ⟨hnowhere, -⟩ := hputs.land_or path
  · rw [Site.read, Site.read, heq]
  · exact absurd (Site.LeadsTo.unique (.inr ⟨bytes, hland⟩) hleads) hother
  · exact absurd (hland.symm.trans hnowhere) (by simp)

/-- **Where a report is that has been written,** and what can be read there. -/
theorem land_write (h : plan.GoesTo site now place) {findings : Findings} {path : Path}
    (houtcome : (plan.write site now findings).outcome = .ok path) :
    ∃ directory : Path, path = directory.child (Report.nameAt now) ∧
      ∃ bytes, Utf8.encodeText (Report.render plan.arranged findings) = .ok bytes ∧
        (plan.write site now findings).site.land path =
          .ok (.file (place ++ [Report.nameAt now]) bytes) ∧
        (plan.write site now findings).site.read path = .ok bytes := by
  obtain ⟨directory, journal, hdirectory, hland⟩ := h.directed
  obtain ⟨directory', journal', emptied, bytes, hdirectory', hemptied, hbytes, hfilled⟩ :=
    of_write_ok houtcome
  obtain ⟨rfl, -⟩ := Prod.mk.inj (Except.ok.inj (hdirectory.symm.trans hdirectory'))
  obtain rfl := Except.ok.inj (houtcome.symm.trans (write_ok hdirectory hemptied hbytes).1)
  -- the path leads to the report's own file when it is emptied, and still when it is filled
  obtain ⟨there, hleads, hempty⟩ := Site.land_of_write hemptied
  obtain ⟨there', hleads', hfile⟩ := Site.land_of_write hfilled
  obtain rfl : there' = there := hleads'.unique (.inr ⟨[], hempty⟩)
  obtain rfl := hleads.eq_child hland h.unlinked
  exact ⟨directory, rfl, bytes, hbytes, hfile, Site.read_of_write hfilled⟩

end GoesTo

end ReportPlan

/-! ### Two reports -/

/-- **Two reports that leave each other alone,** of some seconds and in one place, the second
written on what the first has left behind. -/
structure ReportWriting.Spares (site : Site) (place : Location) (a b : Timestamp) (text : Text)
    (written written' : ReportWriting) : Prop where
  /-- The first leaves what has the name of the second as it was. -/
  ahead : written.site.tree.node? (place ++ [Report.nameAt b]) =
    site.tree.node? (place ++ [Report.nameAt b])
  /-- The second leaves what has the name of the first as it was. -/
  behind : written'.site.tree.node? (place ++ [Report.nameAt a]) =
    written.site.tree.node? (place ++ [Report.nameAt a])
  apart : ∀ path path', written.outcome = .ok path → written'.outcome = .ok path' → path ≠ path'
  /-- If the first has been written, its text can be read where it was written. -/
  kept : ∀ path, written.outcome = .ok path →
    ∃ bytes, Utf8.encodeText text = .ok bytes ∧ written'.site.read path = .ok bytes

namespace ReportPlan

variable {first second : ReportPlan} {site : Site} {a b : Timestamp} {place : Location}

/-- **Reports of different seconds leave each other alone.** -/
theorem GoesTo.spares (h : first.GoesTo site a place) (h' : second.GoesTo site b place)
    (hother : a.numbers ≠ b.numbers) (findings findings' : Findings) :
    let written := first.write site a findings
    ReportWriting.Spares site place a b (Report.render first.arranged findings) written
      (second.write written.site b findings') := by
  intro written
  have hnames : Report.nameAt a ≠ Report.nameAt b := mt Report.nameAt_eq_iff.1 hother
  have hplaces : place ++ [Report.nameAt a] ≠ place ++ [Report.nameAt b] := by
    simpa using hnames
  have hsecond : second.GoesTo written.site b place := h'.after h findings
  refine ⟨h.node?_write findings hplaces.symm, hsecond.node?_write findings' hplaces,
    fun path path' hpath hpath' => ?_, fun path hpath => ?_⟩
  · -- the two paths end in the two names
    obtain ⟨directory, rfl, -⟩ := h.land_write hpath
    obtain ⟨directory', rfl, -⟩ := hsecond.land_write hpath'
    intro heq
    have hlast := congrArg (fun path : Path => path.names.getLast?) heq
    simp only [Path.child, Path.below, List.getLast?_concat, Option.some.injEq] at hlast
    exact hnames hlast
  · -- the second report goes to another place than the first
    obtain ⟨-, -, bytes, hbytes, hland, hread⟩ := h.land_write hpath
    exact ⟨bytes, hbytes, (hsecond.read_write findings' hland hplaces).trans hread⟩

end ReportPlan

/-- **Names, writes and the order of time.** Two reports have one name exactly if all numbers of
their seconds are the same, and no name holds a slash; so reports of different seconds that go to
one directory leave each other alone, whatever else is in the tree and whatever comes of them. From
the year 1000 on, names are in the order of time. -/
theorem Report.nameAt_tellsSecond :
    (∀ a b, nameAt a = nameAt b ↔ a.numbers = b.numbers) ∧
    (∀ now, Path.slash ∉ nameAt now) ∧
    (∀ (first second : ReportPlan) (site : Site) (a b : Timestamp) (place : Location),
      a.numbers ≠ b.numbers → first.GoesTo site a place → second.GoesTo site b place →
      ∀ findings findings' : Findings,
        let written := first.write site a findings
        ReportWriting.Spares site place a b (Report.render first.arranged findings) written
          (second.write written.site b findings')) ∧
    ∀ a b : Timestamp, 1000 ≤ a.year → 1000 ≤ b.year →
      (Text.le (nameAt a) (nameAt b) = true ↔ a.Before b ∨ a.numbers = b.numbers) :=
  ⟨fun _ _ => nameAt_eq_iff, slash_notMem_nameAt,
    fun _ _ _ _ _ _ hother h h' findings findings' => h.spares h' hother findings findings',
    fun _ _ => le_nameAt_iff⟩

/-- Two seconds after the report on the shelf. -/
def shelfNext : Timestamp := { shelfTime with second := 9, second_lt := by decide }

theorem goesTo_shelf (now : Timestamp) : shelfPlan.GoesTo shelf now [] where
  directed := ⟨⟨.root, []⟩, [], by cbv, by cbv⟩
  unlinked := by
    intro target hnode
    have hentry := (FileTree.node?_eq_some (by simp)).1 hnode
    simp [shelf, shelfTree] at hentry

/-- A report two seconds later is another file and comes behind, and the report on the shelf, which
has been replaced before, can still be read. -/
theorem Report.nameAt_tellsSecond_shelf :
    let written := shelfPlan.write shelf shelfTime [("d/a.cs", [⟨1, "x \"가\""⟩])]
    let written' := shelfPlan.write written.site shelfNext []
    written.outcome = .ok ⟨.root, ["HangulDetector_2024-11-30_090807.txt"]⟩ ∧
    written'.outcome = .ok ⟨.root, ["HangulDetector_2024-11-30_090809.txt"]⟩ ∧
    nameAt shelfTime ≠ nameAt shelfNext ∧ Path.slash ∉ nameAt shelfNext ∧
    written'.site.read ⟨.root, ["HangulDetector_2024-11-30_090807.txt"]⟩ =
      .ok "d/a.cs (1): x \"가\"\n".toUTF8.data.toList ∧
    Text.le (nameAt shelfTime) (nameAt shelfNext) = true := by
  dsimp only
  obtain ⟨hname, hslash, hwrites, horder⟩ := nameAt_tellsSecond
  have hother : shelfTime.numbers ≠ shelfNext.numbers := by decide
  have hspares := hwrites shelfPlan shelfPlan shelf shelfTime shelfNext [] hother
    (goesTo_shelf shelfTime) (goesTo_shelf shelfNext) [("d/a.cs", [⟨1, "x \"가\""⟩])] []
  have hwritten : (shelfPlan.write shelf shelfTime [("d/a.cs", [⟨1, "x \"가\""⟩])]).outcome =
      .ok ⟨.root, ["HangulDetector_2024-11-30_090807.txt"]⟩ := by cbv
  refine ⟨hwritten, by cbv, mt (hname _ _).1 hother, hslash _, ?_, ?_⟩
  · obtain ⟨bytes, hbytes, hread⟩ := hspares.kept _ hwritten
    have hencoded : Utf8.encodeText (render shelfPlan.arranged
        [("d/a.cs", [⟨1, "x \"가\""⟩])]) = .ok "d/a.cs (1): x \"가\"\n".toUTF8.data.toList := by
      cbv
    obtain rfl := Except.ok.inj (hencoded.symm.trans hbytes)
    exact hread
  · refine (horder _ _ (by decide) (by decide)).2 (.inl ?_)
    -- the last number decides
    simp [Timestamp.Before, Timestamp.numbers, shelfTime, shelfNext, List.cons_lex_cons_iff]

end HangulLint
