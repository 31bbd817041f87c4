import HangulLint.Proofs.Arrangement
import HangulLint.Proofs.Content
import HangulLint.Proofs.Grouping
import Mathlib

/-!
# Reading a report back

A report says of each finding, on a line of its own, under which key and on which line it is, and
how it reads. All of this can be read back, whatever the findings say of themselves: a line is cut
where ` (` first occurs in it, and what follows is cut where `): ` first occurs. The first cut is
behind the key if ` (` does not occur in the key, since a key that ends with a blank does not make
for an earlier one; the second is behind the number, since a number has no bracket. What the text
holds comes after both cuts, so that it may look like a line of a report itself.

Grouped by key, what is read is what the report tells: the files with findings in the order of their
keys, and the findings of each by line, those on one line as they came (`Report.Tells`). There is
only one way to tell findings so (`Report.Tells.unique`). Therefore two reports are the same exactly
if they tell the same.

* `cut?`, `Report.readLine?`, `Report.read?` — the reader;
* `Report.readLine?_stated`, `Report.read?_render` — it reads what was written;
* `Report.tells_told`, `Report.Tells.unique` — what a report tells;
* `Report.render_legible` — reports are told apart by what they tell.
-/

namespace HangulLint

/-! ### Cutting at a mark -/

section Cut

variable {α : Type} [DecidableEq α]

/-- What stands before the first occurrence of a mark, and what stands behind it. -/
def cut? (mark : List α) : List α → Option (List α × List α)
  | [] => none
  | a :: rest =>
    if mark.isPrefixOf (a :: rest) then some ([], (a :: rest).drop mark.length)
    else (cut? mark rest).map fun (before, behind) => (a :: before, behind)

variable {mark before behind : List α} {a b : α}

/-- The cut is at a mark that does not begin earlier, not even by its own first units. -/
theorem cut?_append (hmark : mark ≠ [])
    (hfirst : ∀ tail, tail ≠ [] → tail <:+ before → ¬ mark <+: tail ++ (mark ++ behind)) :
    cut? mark (before ++ (mark ++ behind)) = some (before, behind) := by
  induction before with
  | nil =>
    obtain ⟨a, more, rfl⟩ := List.exists_cons_of_ne_nil hmark
    have hprefix : (a :: more).isPrefixOf (a :: (more ++ behind)) = true :=
      List.isPrefixOf_iff_prefix.2 (List.prefix_append _ _)
    show cut? (a :: more) (a :: (more ++ behind)) = some ([], behind)
    rw [cut?, if_pos hprefix, ← List.cons_append, List.drop_left]
  | cons c before ih =>
    have hlater : mark.isPrefixOf (c :: (before ++ (mark ++ behind))) = false := by
      rw [Bool.eq_false_iff, ne_eq, List.isPrefixOf_iff_prefix]
      exact hfirst (c :: before) (by simp) (List.suffix_refl _)
    have hrest := ih fun tail hne htail => hfirst tail hne (htail.trans (List.suffix_cons _ _))
    rw [List.cons_append, cut?, hlater, if_neg (by simp), hrest]
    rfl

/-- Before a mark of two different units, the first unit alone may come. -/
theorem cut?_of_pair (hne : a ≠ b) (h : ¬ [a, b] <:+: before) (behind : List α) :
    cut? [a, b] (before ++ ([a, b] ++ behind)) = some (before, behind) := by
  refine cut?_append (by simp) fun tail hproper htail hprefix => ?_
  cases tail with
  | nil => exact hproper rfl
  | cons c tail =>
    obtain ⟨rfl, hnext⟩ := List.cons_prefix_cons.1 hprefix
    cases tail with
    | nil =>
      -- the last unit is followed by the mark, which does not begin with `b`
      obtain ⟨rfl, -⟩ := List.cons_prefix_cons.1 hnext
      exact hne rfl
    | cons d tail =>
      obtain ⟨rfl, -⟩ := List.cons_prefix_cons.1 hnext
      have hwithin : [a, b] <:+: a :: b :: tail := ⟨[], tail, rfl⟩
      exact h (hwithin.trans htail.isInfix)

/-- Nothing before the mark can be taken for it where its first unit does not occur. -/
theorem cut?_of_notMem (h : a ∉ before) (more behind : List α) :
    cut? (a :: more) (before ++ (a :: more ++ behind)) = some (before, behind) := by
  refine cut?_append (by simp) fun tail hproper htail hprefix => ?_
  cases tail with
  | nil => exact hproper rfl
  | cons c tail =>
    obtain ⟨rfl, -⟩ := List.cons_prefix_cons.1 hprefix
    exact h (htail.subset List.mem_cons_self)

end Cut

/-! ### Lines of a text -/

section Lines

variable {α : Type} [DecidableEq α] {sep : α}

/-- Where every line ends with the separator, nothing follows the last one. -/
theorem pieces_flatMap {lines : List (List α)} (h : ∀ line ∈ lines, sep ∉ line) :
    pieces sep (lines.flatMap (· ++ [sep])) = lines ++ [[]] := by
  induction lines with
  | nil => rfl
  | cons line lines ih =>
    obtain ⟨hline, hlines⟩ := List.forall_mem_cons.1 h
    rw [List.flatMap_cons, List.append_assoc, List.singleton_append, pieces_append,
      pieces_of_notMem hline, ih hlines]
    rfl

end Lines

/-! ### Numbers -/

/-- The whole number that a decimal text tells. -/
def Text.decimal? (t : Text) : Option Int :=
  (Text.chars? t).bind fun digits => (String.ofList digits).toInt?

theorem Text.decimal?_ofInt (n : Int) : Text.decimal? (Text.ofInt n) = some n := by
  rw [Text.decimal?, Text.ofInt, Text.ofString, Text.chars?_ofChars, Option.bind_some,
    String.ofList_toList]
  exact Int.toInt?_repr n

/-- A number is written with digits and at most a sign. -/
theorem Text.mem_ofInt {n : Int} {g : Glyph} (h : g ∈ Text.ofInt n) :
    ∃ c : Char, g = .scalar c ∧ (c = '-' ∨ c.isDigit = true) := by
  obtain ⟨c, hc, rfl⟩ := List.mem_map.1 h
  refine ⟨c, rfl, ?_⟩
  have hdigits : ∀ k : Nat, c ∈ k.repr.toList → c.isDigit = true := fun k hk =>
    Nat.isDigit_of_mem_toDigits (by decide) (by decide) (Nat.toList_repr ▸ hk)
  have hrepr : toString n = n.repr := rfl
  rw [hrepr, Int.repr_eq_if] at hc
  split at hc
  · exact .inr (hdigits _ hc)
  · rw [String.toList_append, List.mem_append] at hc
    refine hc.imp (fun hsign => ?_) (hdigits _)
    simpa using hsign

namespace Report

/-! ### One line -/

/-- What a report says of a finding, without the end of the line. -/
def stated (entry : Text × Finding) : Text :=
  entry.1 ++ " (" ++ Text.ofInt entry.2.line ++ "): " ++ entry.2.text

/-- The key and the finding that a line tells. -/
def readLine? (line : Text) : Option (Text × Finding) :=
  (cut? " (" line).bind fun (key, rest) =>
    (cut? "): " rest).bind fun (number, text) =>
      (Text.decimal? number).map fun number => (key, ⟨number, text⟩)

theorem bracket_notMem_ofInt (n : Int) : Glyph.scalar ')' ∉ Text.ofInt n := by
  intro h
  obtain ⟨c, hc, hsign | hdigit⟩ := Text.mem_ofInt h
  all_goals
    obtain rfl : c = ')' := (Glyph.scalar.inj hc).symm
    simp at *

/-- **One line.** What is stated of a finding is read as that finding under its key. -/
theorem readLine?_stated {entry : Text × Finding} (h : ¬ (" (" : Text) <:+: entry.1) :
    readLine? (stated entry) = some entry := by
  obtain ⟨key, line, text⟩ := entry
  have hopening : (" (" : Text) = [.scalar ' ', .scalar '('] := by decide
  have hclosing : ("): " : Text) = .scalar ')' :: [.scalar ':', .scalar ' '] := by decide
  have hkey : cut? (" (" : Text) (stated (key, ⟨line, text⟩)) =
      some (key, Text.ofInt line ++ (("): " : Text) ++ text)) := by
    rw [hopening] at h ⊢
    rw [← cut?_of_pair (by decide) h (Text.ofInt line ++ (("): " : Text) ++ text)), ← hopening]
    simp [stated]
  have hnumber : cut? ("): " : Text) (Text.ofInt line ++ (("): " : Text) ++ text)) =
      some (Text.ofInt line, text) := by
    rw [hclosing]
    exact cut?_of_notMem (bracket_notMem_ofInt line) _ text
  simp only [readLine?, hkey, hnumber, Option.bind_some, Text.decimal?_ofInt, Option.map_some]

/-- No line of a report holds a line feed before its end. -/
theorem newline_notMem_stated {entry : Text × Finding} (hkey : Glyph.scalar '\n' ∉ entry.1)
    (htext : Glyph.scalar '\n' ∉ entry.2.text) : Glyph.scalar '\n' ∉ stated entry := by
  have hnumber : Glyph.scalar '\n' ∉ Text.ofInt entry.2.line := by
    intro h
    obtain ⟨c, hc, hsign | hdigit⟩ := Text.mem_ofInt h
    all_goals
      obtain rfl : c = '\n' := (Glyph.scalar.inj hc).symm
      simp at *
  have hopening : Glyph.scalar '\n' ∉ (" (" : Text) := by decide
  have hclosing : Glyph.scalar '\n' ∉ ("): " : Text) := by decide
  simp [stated, hkey, hopening, hnumber, hclosing, htext]

/-! ### All lines -/

/-- The findings that a report tells, by key. What stands behind the last line feed is no line. -/
def read? (report : Text) : Option Findings :=
  ((pieces (.scalar '\n') report).dropLast.mapM readLine?).map Findings.grouped

theorem mapM_readLine?_stated {log : List (Text × Finding)}
    (h : ∀ entry ∈ log, ¬ (" (" : Text) <:+: entry.1) :
    (log.map stated).mapM readLine? = some log := by
  induction log with
  | nil => rfl
  | cons entry log ih =>
    obtain ⟨hentry, hlog⟩ := List.forall_mem_cons.1 h
    rw [List.map_cons, List.mapM_cons, readLine?_stated hentry, ih hlog]
    rfl

/-- A report is the lines of its entries. -/
theorem text_eq_entries (findings : Findings) :
    text findings = (findings.entries.map stated).flatMap (· ++ [Glyph.scalar '\n']) := by
  rw [text, Findings.entries, List.flatMap_map, List.flatMap_assoc]
  refine congrArg (List.flatMap · findings) (funext fun file => ?_)
  rw [List.flatMap_map]
  rfl

end Report

/-- **Legible findings.** What the keys and texts of a report must not hold for it to be read
back. -/
structure Findings.Legible (findings : Findings) : Prop where
  /-- No key comes twice. -/
  nodup : (findings.map (·.1)).Nodup
  key : ∀ entry ∈ findings, Glyph.scalar '\n' ∉ entry.1 ∧ ¬ (" (" : Text) <:+: entry.1
  text : ∀ entry ∈ findings, ∀ finding ∈ entry.2, Glyph.scalar '\n' ∉ finding.text

namespace Report

variable {findings findings' digest digest' : Findings} {key : Text}

/-- **What a report tells** of findings: every file with findings, in the order of the keys, and
the findings of each by line, those on one line as they came. -/
structure Tells (findings digest : Findings) : Prop where
  /-- The keys go up by their code points. -/
  ascending : (digest.map (·.1)).Pairwise fun a b => Text.le a b = true ∧ a ≠ b
  /-- They are those with findings. -/
  keys : ∀ key, key ∈ digest.map (·.1) ↔ findings.under key ≠ []
  /-- Under each key the lines go up. -/
  byLine : ∀ key, (digest.under key).Pairwise (·.line ≤ ·.line)
  /-- On each line are the findings that were there, in their order. -/
  onLine : ∀ key number, (digest.under key).filter (·.line = number) =
    (findings.under key).filter (·.line = number)

theorem Tells.nodup (h : Tells findings digest) : (digest.map (·.1)).Nodup :=
  h.ascending.imp And.right

/-- There is only one order by line that leaves the findings on each line as they are. -/
theorem eq_of_filter_line {found found' : List Finding} (h : found.Pairwise (·.line ≤ ·.line))
    (h' : found'.Pairwise (·.line ≤ ·.line))
    (hfilter : ∀ number, found.filter (·.line = number) = found'.filter (·.line = number)) :
    found = found' := by
  induction found generalizing found' with
  | nil =>
    cases found' with
    | nil => rfl
    | cons b found' =>
      have hnone := hfilter b.line
      simp at hnone
  | cons a found ih =>
    cases found' with
    | nil =>
      have hnone := hfilter a.line
      simp at hnone
    | cons b found' =>
      rw [List.pairwise_cons] at h h'
      -- each of the two first findings is in the other list, so they are on one line
      have ha : a ∈ b :: found' := by
        have hmem : a ∈ (a :: found).filter (·.line = a.line) := by simp
        rw [hfilter a.line] at hmem
        exact (List.mem_filter.1 hmem).1
      have hb : b ∈ a :: found := by
        have hmem : b ∈ (b :: found').filter (·.line = b.line) := by simp
        rw [← hfilter b.line] at hmem
        exact (List.mem_filter.1 hmem).1
      have hab : a.line ≤ b.line := by
        rcases List.mem_cons.1 hb with rfl | hb
        · exact Int.le_refl _
        · exact h.1 b hb
      have hba : b.line ≤ a.line := by
        rcases List.mem_cons.1 ha with rfl | ha
        · exact Int.le_refl _
        · exact h'.1 a ha
      have hline : a.line = b.line := Int.le_antisymm hab hba
      have hfirst := hfilter a.line
      rw [List.filter_cons_of_pos (by simp), List.filter_cons_of_pos (by simp [hline])] at hfirst
      obtain ⟨rfl, -⟩ := List.cons.inj hfirst
      rw [ih h.2 h'.2 fun number => ?_]
      have hrest := hfilter number
      by_cases hnumber : a.line = number <;> simpa [hnumber] using hrest

/-- There is only one way to tell findings. -/
theorem Tells.unique (h : Tells findings digest) (h' : Tells findings digest') :
    digest = digest' := by
  -- the same keys in ascending order are the same list
  have hsame : digest.map (·.1) = digest'.map (·.1) := by
    have hperm : (digest.map (·.1)).Perm (digest'.map (·.1)) :=
      (List.perm_ext_iff_of_nodup h.nodup h'.nodup).2 fun key =>
        (h.keys key).trans (h'.keys key).symm
    exact List.Perm.eq_of_pairwise (fun a b _ _ hab hba => Text.le_antisymm hab.1 hba.1)
      h.ascending h'.ascending hperm
  refine Findings.eq_of_under h.nodup hsame fun key => ?_
  exact eq_of_filter_line (h.byLine key) (h'.byLine key) fun number =>
    (h.onLine key number).trans (h'.onLine key number).symm

theorem Tells.under_ne_nil_iff (h : Tells findings digest) (key : Text) :
    digest.under key ≠ [] ↔ findings.under key ≠ [] := by
  -- a finding is on its own line, and the same findings are there
  have hmem : ∀ finding, finding ∈ digest.under key ↔ finding ∈ findings.under key := by
    intro finding
    have hline := congrArg (finding ∈ ·) (h.onLine key finding.line)
    simpa using hline
  constructor
  · intro hne
    obtain ⟨finding, hfinding⟩ := List.exists_mem_of_ne_nil _ hne
    exact List.ne_nil_of_mem ((hmem finding).1 hfinding)
  · intro hne
    obtain ⟨finding, hfinding⟩ := List.exists_mem_of_ne_nil _ hne
    exact List.ne_nil_of_mem ((hmem finding).2 hfinding)

/-- What is told of findings is what would be told of it. -/
theorem Tells.self (h : Tells findings digest) : Tells digest digest where
  ascending := h.ascending
  keys := fun key => (h.keys key).trans (h.under_ne_nil_iff key).symm
  byLine := h.byLine
  onLine := fun _ _ => rfl

/-! ### What is read -/

/-- The findings of a report, arranged and without the files that have none. -/
def told (findings : Findings) : Findings := (arrange findings).filter (!·.2.isEmpty)

theorem text_told (findings : Findings) : text (told findings) = render true findings := by
  rw [render, if_pos rfl, told]
  induction arrange findings with
  | nil => rfl
  | cons file rest ih =>
    obtain ⟨key, found⟩ := file
    cases found with
    | nil => exact ih
    | cons finding found =>
      show text ((key, finding :: found) :: rest.filter (!·.2.isEmpty)) = _
      simp only [text, List.flatMap_cons] at ih ⊢
      rw [ih]

theorem mem_told (hnodup : (findings.map (·.1)).Nodup) {found : List Finding} :
    (key, found) ∈ told findings ↔ found ≠ [] ∧ found = byLine (findings.under key) := by
  have harrange : (key, found) ∈ arrange findings ↔
      ∃ before, (key, before) ∈ findings ∧ found = byLine before := by
    simp only [arrange, List.mem_map, List.mem_mergeSort, Prod.exists, Prod.mk.injEq]
    constructor
    · rintro ⟨k, before, hmem, rfl, rfl⟩
      exact ⟨before, hmem, rfl⟩
    · rintro ⟨before, hmem, rfl⟩
      exact ⟨key, before, hmem, rfl, rfl⟩
  -- what is told is what has been arranged, without the keys that have nothing
  have hfilled : (key, found) ∈ told findings ↔ (key, found) ∈ arrange findings ∧ found ≠ [] := by
    simp [told]
  rw [hfilled, harrange]
  constructor
  · rintro ⟨⟨before, hmem, rfl⟩, hne⟩
    rw [Findings.under_eq_of_mem hnodup hmem]
    exact ⟨hne, rfl⟩
  · rintro ⟨hne, rfl⟩
    have hunder : findings.under key ≠ [] := by
      intro hnil
      rw [hnil] at hne
      exact hne (by simp [byLine])
    exact ⟨⟨_, Findings.mem_of_under_ne_nil hnodup hunder, rfl⟩, hne⟩

theorem ascending_told (hnodup : (findings.map (·.1)).Nodup) :
    ((told findings).map (·.1)).Pairwise fun a b => Text.le a b = true ∧ a ≠ b := by
  have hsorted : (findings.mergeSort fun a b => Text.le a.1 b.1).Pairwise
      fun a b => Text.le a.1 b.1 = true :=
    List.pairwise_mergeSort (fun a b c => Text.le_trans a.1 b.1 c.1)
      (fun a b => Text.le_total a.1 b.1) findings
  have hdistinct : (findings.mergeSort fun a b => Text.le a.1 b.1).Pairwise
      fun a b => a.1 ≠ b.1 :=
    List.pairwise_map.1 (((List.mergeSort_perm _ _).map _).nodup_iff.2 hnodup)
  have harranged : (arrange findings).Pairwise fun a b => Text.le a.1 b.1 = true ∧ a.1 ≠ b.1 :=
    List.pairwise_map.2 (hsorted.and hdistinct)
  exact List.pairwise_map.2 (harranged.filter _)

theorem under_told (hnodup : (findings.map (·.1)).Nodup) (key : Text) :
    (told findings).under key = byLine (findings.under key) := by
  have hnodup' : ((told findings).map (·.1)).Nodup := (ascending_told hnodup).imp And.right
  by_cases hne : byLine (findings.under key) = []
  · rw [hne]
    refine Findings.under_eq_nil_of_notMem fun hkey => ?_
    obtain ⟨⟨k, found⟩, hmem, rfl⟩ := List.mem_map.1 hkey
    obtain ⟨hfound, heq⟩ := (mem_told hnodup).1 hmem
    exact hfound (heq.trans hne)
  · exact Findings.under_eq_of_mem hnodup' ((mem_told hnodup).2 ⟨hne, rfl⟩)

theorem tells_told (hnodup : (findings.map (·.1)).Nodup) : Tells findings (told findings) where
  ascending := ascending_told hnodup
  keys := by
    -- sorting by lines neither adds nor takes away, so it leaves out no key with a finding
    intro key
    have hperm := byLine_perm (findings.under key)
    constructor
    · intro hkey hnil
      obtain ⟨⟨k, found⟩, hmem, rfl⟩ := List.mem_map.1 hkey
      obtain ⟨hfound, heq⟩ := (mem_told hnodup).1 hmem
      rw [hnil] at hperm heq
      exact hfound (heq.trans (List.perm_nil.1 hperm))
    · intro hne
      have hfound : byLine (findings.under key) ≠ [] := fun hnil =>
        hne (List.nil_perm.1 (hnil ▸ hperm))
      exact List.mem_map.2 ⟨_, (mem_told hnodup).2 ⟨hfound, rfl⟩, rfl⟩
  byLine := by
    intro key
    rw [under_told hnodup]
    exact pairwise_byLine _
  onLine := by
    intro key number
    rw [under_told hnodup]
    exact filter_byLine _ number

theorem orderly_told (hnodup : (findings.map (·.1)).Nodup) : (told findings).Orderly where
  nodup := (ascending_told hnodup).imp And.right
  found := fun _ hentry => ((mem_told hnodup).1 hentry).1

/-- What is told of legible findings is written with their keys and texts. -/
theorem exists_of_mem_entries_told (hnodup : (findings.map (·.1)).Nodup) {entry : Text × Finding}
    (h : entry ∈ (told findings).entries) :
    ∃ found, (entry.1, found) ∈ findings ∧ entry.2 ∈ found := by
  obtain ⟨⟨key, found⟩, hmem, hentry⟩ := List.mem_flatMap.1 h
  obtain ⟨finding, hfinding, rfl⟩ := List.mem_map.1 hentry
  obtain ⟨-, rfl⟩ := (mem_told hnodup).1 hmem
  have hunder : finding ∈ findings.under key := (byLine_perm _).mem_iff.1 hfinding
  exact ⟨_, Findings.mem_of_under_ne_nil hnodup (List.ne_nil_of_mem hunder), hunder⟩

/-- **Reading back.** From the report on legible findings, what it tells is read. -/
theorem read?_render (h : findings.Legible) :
    read? (render true findings) = some (told findings) := by
  have hfeed : ∀ line ∈ (told findings).entries.map stated, Glyph.scalar '\n' ∉ line := by
    intro line hline
    obtain ⟨entry, hentry, rfl⟩ := List.mem_map.1 hline
    obtain ⟨found, hmem, hfinding⟩ := exists_of_mem_entries_told h.nodup hentry
    exact newline_notMem_stated (h.key _ hmem).1 (h.text _ hmem _ hfinding)
  have hkey : ∀ entry ∈ (told findings).entries, ¬ (" (" : Text) <:+: entry.1 := by
    intro entry hentry
    obtain ⟨found, hmem, -⟩ := exists_of_mem_entries_told h.nodup hentry
    exact (h.key _ hmem).2
  rw [← text_told, read?, text_eq_entries, pieces_flatMap hfeed, List.dropLast_concat,
    mapM_readLine?_stated hkey, Option.map_some, Findings.grouped_entries (orderly_told h.nodup)]

/-- The report on what a report tells is that report. -/
theorem Tells.render_eq (h : Tells findings digest) (hnodup : (findings.map (·.1)).Nodup) :
    render true digest = render true findings := by
  have hsame : told digest = told findings :=
    ((tells_told h.nodup).unique h.self).trans (h.unique (tells_told hnodup))
  rw [← text_told, hsame, text_told]

/-- **Reports are told apart by what they tell.** From the report on legible findings can be read
what it tells, and the report on that is the same report. So two such reports are the same exactly
if they tell the same. -/
theorem render_legible (h : findings.Legible) (h' : findings'.Legible) :
    (∃ digest, read? (render true findings) = some digest ∧ Tells findings digest ∧
      render true digest = render true findings) ∧
    (render true findings = render true findings' ↔
      ∃ digest, Tells findings digest ∧ Tells findings' digest) := by
  have htells := tells_told h.nodup
  have htells' := tells_told h'.nodup
  refine ⟨⟨told findings, read?_render h, htells, htells.render_eq h.nodup⟩, ?_⟩
  constructor
  · intro heq
    -- what is read from the one report is read from the other
    have hread : some (told findings) = some (told findings') := by
      rw [← read?_render h, ← read?_render h', heq]
    exact ⟨told findings, htells, Option.some.inj hread ▸ htells'⟩
  · rintro ⟨digest, hdigest, hdigest'⟩
    rw [← hdigest.render_eq h.nodup, hdigest'.render_eq h'.nodup]

/-- Findings whose texts look like parts of a report. -/
def mimicry : Findings :=
  [("b ", [⟨10, "x (1): \"나\""⟩, ⟨2, "): "⟩, ⟨10, "b (3): y"⟩]), ("c", []), ("a", [⟨-1, "\r"⟩])]

/-- The same, registered in another order. -/
def mimicry' : Findings :=
  [("a", [⟨-1, "\r"⟩]), ("b ", [⟨10, "x (1): \"나\""⟩, ⟨10, "b (3): y"⟩, ⟨2, "): "⟩])]

theorem legible_mimicry : mimicry.Legible := ⟨by decide, by decide, by decide⟩

theorem legible_mimicry' : mimicry'.Legible := ⟨by decide, by decide, by decide⟩

/-- Both orders make one report, from which the four findings can be read. -/
theorem render_legible_mimicry :
    render true mimicry =
        "a (-1): \r\nb  (2): ): \nb  (10): x (1): \"나\"\nb  (10): b (3): y\n" ∧
      mimicry.Legible ∧ mimicry'.Legible ∧
      (∃ digest, read? (render true mimicry) = some digest ∧ Tells mimicry digest ∧
        render true digest = render true mimicry) ∧
      ∃ digest, Tells mimicry digest ∧ Tells mimicry' digest := by
  have hsame : render true mimicry = render true mimicry' := by cbv
  have h := render_legible legible_mimicry legible_mimicry'
  exact ⟨by cbv, legible_mimicry, legible_mimicry', h.1, h.2.1 hsame⟩

example : read? "b (2): x\na (1): y\nb (1): z\n" =
    some ([("b", [⟨2, "x"⟩, ⟨1, "z"⟩]), ("a", [⟨1, "y"⟩])] : Findings) := by cbv

end Report

end HangulLint
