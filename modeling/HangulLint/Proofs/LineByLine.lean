import HangulLint.Proofs.Content

/-!
# Findings line by line

Whether a line is reported depends on this line alone, and its number on the line feeds before it.
So the findings in two texts with a line feed between them are those in the first and those in the
second, the latter as many lines further down as the first text has (`findingsFrom_append`). A text
of whole lines ends with an empty line, in which nothing is found, so that what comes behind it goes
on in the place of that line (`findingsFrom_wholeLines`). All that is said here about changes in a
text follows from these two laws.

* `Finding.down` — a finding in a text that begins further down;
* `WholeLines`, `AtLineEnd` — the places in a text where lines begin and end;
* `findingsIn_around` — of a text around one line, all but this line is settled;
* `findingsIn_inserted` — whole lines push down what comes after them;
* `findingsIn_composes` — what this says about texts that are put together and changed.
-/

namespace HangulLint

/-- The finding so many lines further down. -/
def Finding.down (n : Nat) (finding : Finding) : Finding :=
  { finding with line := finding.line + n }

/-- Whether a text consists of whole lines, the line feed of the last one included. What comes
behind it is at the beginning of a line. -/
def WholeLines (s : List Char) : Prop := s = [] ∨ ∃ before, s = before ++ ['\n']

/-- Whether a line is at its end in front of a text. -/
def AtLineEnd (s : List Char) : Prop := s = [] ∨ ∃ rest, s = '\n' :: rest

/-- What is found in a line with a given number. -/
def Rule.findingAt (rule : Rule) (number : Nat) (line : List Char) : List Finding :=
  ((rule.report? line).map fun text => ⟨number, Text.ofChars text⟩).toList

variable {rule : Rule} {first : Nat} {content line : List Char} {finding : Finding}

/-! ### Places in a text -/

/-- Behind whole lines, the line that a text ends with has begun. -/
theorem exists_lastLine (s : List Char) :
    ∃ before line, s = before ++ line ∧ WholeLines before ∧ '\n' ∉ line := by
  induction s with
  | nil => exact ⟨[], [], rfl, .inl rfl, by simp⟩
  | cons c s ih =>
    obtain ⟨before, line, rfl, hbefore, hline⟩ := ih
    rcases hbefore with rfl | ⟨before, rfl⟩
    · -- the text has been one line so far
      by_cases hc : c = '\n'
      · subst hc
        exact ⟨['\n'], line, rfl, .inr ⟨[], rfl⟩, hline⟩
      · refine ⟨[], c :: line, rfl, .inl rfl, ?_⟩
        simp [Ne.symm hc, hline]
    · exact ⟨c :: before ++ ['\n'], line, rfl, .inr ⟨c :: before, rfl⟩, hline⟩

/-- The line that a text begins with goes on to the first line feed. -/
theorem exists_firstLine (s : List Char) :
    ∃ line after, s = line ++ after ∧ '\n' ∉ line ∧ AtLineEnd after := by
  induction s with
  | nil => exact ⟨[], [], rfl, by simp, .inl rfl⟩
  | cons c s ih =>
    by_cases hc : c = '\n'
    · subst hc
      exact ⟨[], '\n' :: s, rfl, by simp, .inr ⟨s, rfl⟩⟩
    · obtain ⟨line, after, rfl, hline, hafter⟩ := ih
      refine ⟨c :: line, after, rfl, ?_, hafter⟩
      simp [Ne.symm hc, hline]

/-! ### The two laws -/

/-- A line without a double quote is not reported, and the empty one has none. -/
theorem Rule.report?_nil (rule : Rule) : rule.report? [] = none := by
  have hflags : rule.flags (trimLine []) = false := by
    show (!rule.excludes [] && [].contains '"' && rule.target.search []) = false
    simp
  rw [report?, hflags]
  rfl

theorem findingsFrom_line (h : '\n' ∉ line) :
    findingsFrom rule first line = rule.findingAt first line := by
  have hlines : lines line = [line] := pieces_of_notMem h
  rw [findingsFrom, hlines, Rule.findingAt]
  cases hreport : rule.report? line <;> simp [hreport]

/-- A text that begins further down has its findings further down. -/
theorem findingsFrom_add (rule : Rule) (first n : Nat) (content : List Char) :
    findingsFrom rule (first + n) content = (findingsFrom rule first content).map (·.down n) := by
  unfold findingsFrom
  generalize lines content = ls
  induction ls generalizing first with
  | nil => rfl
  | cons line ls ih =>
    have hnext : first + n + 1 = first + 1 + n := Nat.add_right_comm first n 1
    rw [List.zipIdx_cons, List.zipIdx_cons, hnext]
    cases hreport : rule.report? line with
    | none => simpa [hreport] using ih (first + 1)
    | some text => simpa [hreport, Finding.down] using ih (first + 1)

/-- **The findings in two texts,** with a line feed between them. -/
theorem findingsFrom_append (rule : Rule) (first : Nat) (a b : List Char) :
    findingsFrom rule first (a ++ '\n' :: b) =
      findingsFrom rule first a ++ findingsFrom rule (first + a.count '\n' + 1) b := by
  have hlines : lines (a ++ '\n' :: b) = lines a ++ lines b := pieces_append '\n' a b
  have hlength : (lines a).length = a.count '\n' + 1 := length_pieces '\n' a
  rw [findingsFrom, hlines, List.zipIdx_append, List.filterMap_append, hlength]
  rfl

/-- Nothing is found in the empty line behind a last line feed. -/
theorem findingsFrom_concat (rule : Rule) (first : Nat) (content : List Char) :
    findingsFrom rule first (content ++ ['\n']) = findingsFrom rule first content := by
  have hempty : ∀ number, findingsFrom rule number [] = [] := by
    intro number
    rw [findingsFrom_line (by simp), Rule.findingAt, rule.report?_nil]
    rfl
  rw [findingsFrom_append, hempty, List.append_nil]

/-- **What comes behind whole lines** goes on where they end. -/
theorem findingsFrom_wholeLines {s : List Char} (h : WholeLines s) (rule : Rule) (first : Nat)
    (rest : List Char) : findingsFrom rule first (s ++ rest) =
      findingsFrom rule first s ++ findingsFrom rule (first + s.count '\n') rest := by
  rcases h with rfl | ⟨before, rfl⟩
  · rw [findingsFrom_line List.not_mem_nil, Rule.findingAt, rule.report?_nil]
    rfl
  · rw [List.append_assoc, List.singleton_append, findingsFrom_append, findingsFrom_concat,
      List.count_append, List.count_singleton_self, Nat.add_assoc]

/-! ### Where findings are -/

/-- A finding is on one of the lines of the text. -/
theorem line_bounds (h : finding ∈ findingsFrom rule first content) :
    (first : Int) ≤ finding.line ∧ finding.line ≤ first + content.count '\n' := by
  obtain ⟨line, number, text, hline, -, rfl⟩ := mem_findingsFrom.1 h
  have hlength : (lines content).length = content.count '\n' + 1 := length_pieces '\n' content
  have hlower := List.le_snd_of_mem_zipIdx hline
  have hupper := List.snd_lt_add_of_mem_zipIdx hline
  constructor
  · exact Int.ofNat_le.2 hlower
  · show (number : Int) ≤ first + content.count '\n'
    omega

/-- Nothing is found on the line behind whole lines. -/
theorem line_lt_of_wholeLines (h : WholeLines content)
    (hmem : finding ∈ findingsFrom rule first content) :
    finding.line < first + content.count '\n' := by
  rcases h with rfl | ⟨before, rfl⟩
  · rw [findingsFrom_line (by simp), Rule.findingAt, rule.report?_nil] at hmem
    simp at hmem
  · rw [findingsFrom_concat] at hmem
    have hbound := (line_bounds hmem).2
    rw [List.count_append, List.count_singleton_self]
    omega

/-! ### Changes in a text -/

/-- **One line of a text.** Whatever stands on the line, the findings before and after it are the
same, and on the line is what the rule reports of it. -/
theorem findingsIn_around (rule : Rule) {before after : List Char} (hbefore : WholeLines before)
    (hafter : AtLineEnd after) : ∃ early later : List Finding,
      (∀ finding ∈ early, finding.line < before.count '\n' + 1) ∧
      (∀ finding ∈ later, before.count '\n' + 1 < finding.line) ∧
      ∀ line, '\n' ∉ line → findingsIn rule (before ++ line ++ after) =
        early ++ rule.findingAt (before.count '\n' + 1) line ++ later := by
  have hearly : ∀ finding ∈ findingsIn rule before,
      finding.line < before.count '\n' + 1 := by
    intro finding hmem
    have hlt := line_lt_of_wholeLines hbefore hmem
    omega
  rcases hafter with rfl | ⟨rest, rfl⟩
  · -- the line is the last one
    refine ⟨findingsIn rule before, [], hearly, by simp, fun line hline => ?_⟩
    rw [List.append_nil, List.append_nil, findingsIn, findingsFrom_wholeLines hbefore,
      findingsFrom_line hline, Nat.add_comm 1]
    rfl
  · -- a line end follows, and the rest is counted from the next line on
    refine ⟨findingsIn rule before, findingsFrom rule (before.count '\n' + 1 + 1) rest, hearly,
      fun finding hmem => ?_, fun line hline => ?_⟩
    · have hle := (line_bounds hmem).1
      omega
    · have hcount : line.count '\n' = 0 := List.count_eq_zero.2 hline
      rw [findingsIn, List.append_assoc, findingsFrom_wholeLines hbefore, findingsFrom_append,
        findingsFrom_line hline, hcount, Nat.add_zero, Nat.add_comm 1, List.append_assoc]
      rfl

/-- **Whole lines more.** Findings before the place where they are inserted stay, and those after
it move down by as many lines; what else is found is on the inserted lines. -/
theorem findingsIn_inserted (rule : Rule) {before inserted : List Char}
    (hbefore : WholeLines before) (hinserted : WholeLines inserted) (after : List Char) :
    ∃ early middle later : List Finding,
      findingsIn rule (before ++ after) = early ++ later ∧
      findingsIn rule (before ++ inserted ++ after) =
        early ++ middle ++ later.map (·.down (inserted.count '\n')) ∧
      (∀ finding ∈ early, finding.line ≤ before.count '\n') ∧
      (∀ finding ∈ middle, before.count '\n' < finding.line ∧
        finding.line ≤ before.count '\n' + inserted.count '\n') ∧
      ∀ finding ∈ later, before.count '\n' < finding.line := by
  -- the parts are what is found in the three pieces, each counted from its own first line
  refine ⟨findingsIn rule before, findingsFrom rule (1 + before.count '\n') inserted,
    findingsFrom rule (1 + before.count '\n') after, findingsFrom_wholeLines hbefore rule 1 after,
    ?_, fun finding hmem => ?_, fun finding hmem => ⟨?_, ?_⟩, fun finding hmem => ?_⟩
  · rw [← findingsFrom_add, findingsIn, List.append_assoc, findingsFrom_wholeLines hbefore,
      findingsFrom_wholeLines hinserted, List.append_assoc]
    rfl
  · have hlt := line_lt_of_wholeLines hbefore hmem
    omega
  · have hle := (line_bounds hmem).1
    omega
  · have hlt := line_lt_of_wholeLines hinserted hmem
    omega
  · have hle := (line_bounds hmem).1
    omega

/-- **Findings compose as texts do.** Under every rule, the findings in two texts with a line feed
between them are those in the first and, further down by the lines of the first, those in the
second. Another line in the place of one changes nothing but what is found on it; one more line feed
at the end changes nothing; and lines that are inserted push what comes after them down by their
number. -/
theorem findingsIn_composes (rule : Rule) :
    (∀ a b, findingsIn rule (a ++ '\n' :: b) =
      findingsIn rule a ++ (findingsIn rule b).map (·.down (1 + a.count '\n'))) ∧
    (∀ before after, WholeLines before → AtLineEnd after → ∃ early later : List Finding,
      (∀ finding ∈ early, finding.line < before.count '\n' + 1) ∧
      (∀ finding ∈ later, before.count '\n' + 1 < finding.line) ∧
      ∀ line, '\n' ∉ line → findingsIn rule (before ++ line ++ after) =
        early ++ rule.findingAt (before.count '\n' + 1) line ++ later) ∧
    (∀ content, findingsIn rule (content ++ ['\n']) = findingsIn rule content) ∧
    ∀ before inserted after, WholeLines before → WholeLines inserted →
      ∃ early middle later : List Finding,
      findingsIn rule (before ++ after) = early ++ later ∧
      findingsIn rule (before ++ inserted ++ after) =
        early ++ middle ++ later.map (·.down (inserted.count '\n')) ∧
      (∀ finding ∈ early, finding.line ≤ before.count '\n') ∧
      (∀ finding ∈ middle, before.count '\n' < finding.line ∧
        finding.line ≤ before.count '\n' + inserted.count '\n') ∧
      ∀ finding ∈ later, before.count '\n' < finding.line := by
  refine ⟨fun a b => ?_, fun before after hbefore hafter => ?_, findingsFrom_concat rule 1,
    fun before inserted after hbefore hinserted => ?_⟩
  · show findingsFrom rule 1 (a ++ '\n' :: b) = _
    rw [findingsFrom_append, Nat.add_assoc, Nat.add_comm (a.count '\n'), findingsFrom_add]
    rfl
  · exact findingsIn_around rule hbefore hafter
  · exact findingsIn_inserted rule hbefore hinserted after

/-- Another line in the place of the second one leaves the quote on the first alone, and two lines
that are inserted in front of a second quote push it down by two. -/
theorem findingsIn_composes_secondLine :
    WholeLines ['"', '가', '"', '\n'] ∧ AtLineEnd [] ∧ '\n' ∉ ['x'] ∧
      (∃ early later : List Finding,
        (∀ finding ∈ early, finding.line < 2) ∧ (∀ finding ∈ later, 2 < finding.line) ∧
        findingsIn .standard ['"', '가', '"', '\n', 'x'] =
          early ++ Rule.standard.findingAt 2 ['x'] ++ later) ∧
      WholeLines ['\n', '\r', '\n'] ∧
      ∃ early middle later : List Finding,
        findingsIn .standard ['"', '가', '"', '\n', '"', '나', '"'] = early ++ later ∧
        findingsIn .standard ['"', '가', '"', '\n', '\n', '\r', '\n', '"', '나', '"'] =
          early ++ middle ++ later.map (·.down 2) ∧
        (∀ finding ∈ early, finding.line ≤ 1) ∧
        (∀ finding ∈ middle, 1 < finding.line ∧ finding.line ≤ 3) ∧
        ∀ finding ∈ later, 1 < finding.line := by
  have hbefore : WholeLines ['"', '가', '"', '\n'] := .inr ⟨['"', '가', '"'], rfl⟩
  have hinserted : WholeLines ['\n', '\r', '\n'] := .inr ⟨['\n', '\r'], rfl⟩
  have hend : AtLineEnd [] := .inl rfl
  have hline : '\n' ∉ ['x'] := by decide
  obtain ⟨-, haround, -, hmore⟩ := findingsIn_composes .standard
  obtain ⟨early, later, hearly, hlater, hthere⟩ := haround _ _ hbefore hend
  exact ⟨hbefore, hend, hline, ⟨early, later, hearly, hlater, hthere _ hline⟩, hinserted,
    hmore _ _ ['"', '나', '"'] hbefore hinserted⟩

end HangulLint
