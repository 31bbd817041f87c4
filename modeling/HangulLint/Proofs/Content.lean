import HangulLint.Inspection
import Mathlib.Data.List.Basic

/-!
# What is found in one text

The findings in a text come in the order of its lines, at most one a line, and a reported text
never runs over the end of its line.

* `pieces_joined` — how a text is cut that was put together;
* `inspect_ne_interrupted` — an inspection is interrupted only while a guesser is at work;
* `mem_findingsFrom` — what a finding is;
* `pairwise_findingsFrom` — line numbers go up;
* `newline_notMem_of_mem_findingsFrom` — no reported text holds a line feed.
-/

namespace HangulLint

section Pieces

variable {α : Type} [DecidableEq α]

/-- No piece holds the separator. -/
theorem sep_notMem_of_mem_pieces {sep : α} {s piece : List α} (h : piece ∈ pieces sep s) :
    sep ∉ piece := by
  induction s generalizing piece with
  | nil =>
    rw [pieces_nil, List.mem_singleton] at h
    simp [h]
  | cons a s ih =>
    by_cases ha : a = sep
    · subst ha
      rw [pieces_cons_sep] at h
      rcases List.mem_cons.1 h with rfl | h
      · simp
      · exact ih h
    · rw [pieces_cons_of_ne ha] at h
      -- only the first piece of the rest has changed
      cases hp : pieces sep s with
      | nil => exact absurd hp (pieces_ne_nil sep s)
      | cons first more =>
        rw [hp] at ih h
        rcases List.mem_cons.1 h with rfl | h
        · have hfirst := ih List.mem_cons_self
          simp [Ne.symm ha, hfirst]
        · exact ih (List.mem_cons_of_mem _ h)

theorem pieces_of_notMem {sep : α} {s : List α} (h : sep ∉ s) : pieces sep s = [s] := by
  induction s with
  | nil => rfl
  | cons a s ih =>
    rw [List.mem_cons, not_or] at h
    rw [pieces_cons_of_ne (Ne.symm h.1), ih h.2]
    rfl

/-- What is put together at a separator is cut there. -/
theorem pieces_append (sep : α) (s rest : List α) :
    pieces sep (s ++ sep :: rest) = pieces sep s ++ pieces sep rest := by
  induction s with
  | nil => exact pieces_cons_sep sep rest
  | cons a s ih =>
    rw [List.cons_append]
    by_cases ha : a = sep
    · subst ha
      rw [pieces_cons_sep, pieces_cons_sep, ih, List.cons_append]
    · rw [pieces_cons_of_ne ha, pieces_cons_of_ne ha, ih]
      -- the unit goes to the first piece, and there is one
      cases hp : pieces sep s with
      | nil => exact absurd hp (pieces_ne_nil sep s)
      | cons first more => rfl

/-- There is one piece more than there are separators. -/
theorem length_pieces (sep : α) (s : List α) : (pieces sep s).length = s.count sep + 1 := by
  induction s with
  | nil => rfl
  | cons a s ih =>
    by_cases ha : a = sep
    · subst ha
      rw [pieces_cons_sep, List.length_cons, ih, List.count_cons_self]
    · rw [pieces_cons_of_ne ha, List.count_cons_of_ne ha, ← ih]
      -- a unit makes the first piece longer, not their number
      cases hp : pieces sep s with
      | nil => exact absurd hp (pieces_ne_nil sep s)
      | cons first more => rfl

/-- Sequences that are joined are cut at the places where they meet, and where each is cut. -/
theorem pieces_joined (sep : α) {parts : List (List α)} (h : parts ≠ []) :
    pieces sep (joined [sep] parts) = parts.flatMap (pieces sep) := by
  induction parts with
  | nil => exact absurd rfl h
  | cons part more ih =>
    cases more with
    | nil => exact (List.append_nil _).symm
    | cons next more =>
      rw [joined, List.append_assoc, List.singleton_append, pieces_append, ih (by simp)]
      rfl

theorem occursIn_iff {part s : List α} : occursIn part s = true ↔ part <:+: s := by
  induction s with
  | nil => simp [occursIn]
  | cons a s ih =>
    rw [occursIn, Bool.or_eq_true, List.isPrefixOf_iff_prefix, ih, List.infix_cons_iff]

end Pieces

/-! ### Trimming takes away at the ends only -/

theorem dropEndWhile_isPrefix {α : Type} (p : α → Bool) (s : List α) : dropEndWhile p s <+: s := by
  have h := List.dropWhile_suffix (l := s.reverse) p
  simpa [dropEndWhile] using List.reverse_prefix.2 h

theorem stripWhile_isInfix {α : Type} (p : α → Bool) (s : List α) : stripWhile p s <:+: s :=
  (dropEndWhile_isPrefix p _).isInfix.trans (List.dropWhile_suffix p).isInfix

theorem trimLine_isInfix (line : List Char) : trimLine line <:+: line :=
  (stripWhile_isInfix isBlank _).trans (dropEndWhile_isPrefix _ line).isInfix

/-! ### Reading -/

section Interruption

variable {site : Site} {library : Source.Library} {guesser : Guesser} {rule : Rule} {path : Path}
  {bytes : List UInt8}

theorem decode_ne_interrupted (h : guesser bytes ≠ .interrupted) :
    Source.decode library guesser bytes ≠ .error .interrupted := by
  intro hfault
  -- the guesser is asked last, and its answer is the only interruption there is
  unfold Source.decode at hfault
  split at hfault
  · next order _ =>
    cases horder : Utf16.decode order order.mark.length (bytes.drop order.mark.length) <;>
      simp [horder, Except.mapError] at hfault
  · split at hfault
    · simp at hfault
    · unfold Source.decodeGuessed at hfault
      split at hfault
      · simp at hfault
      · simp at hfault
      · next hguess => exact h hguess
      · simp at hfault
      · simp at hfault
      · split at hfault <;> simp at hfault

theorem readSource_ne_interrupted (h : ∀ bytes, guesser bytes ≠ .interrupted) :
    readSource site library guesser path ≠ .error .interrupted := by
  intro hfault
  unfold readSource at hfault
  split at hfault
  · simp at hfault
  · simp at hfault
  · next bytes _ =>
    split at hfault
    · simp at hfault
    · cases hbytes : Source.decode library guesser bytes with
      | ok content => simp [hbytes, Except.mapError] at hfault
      | error fault =>
        cases fault with
        | interrupted => exact decode_ne_interrupted (h bytes) hbytes
        | _ => simp [hbytes, Except.mapError, Source.Fault.inFile] at hfault

/-- An inspection is interrupted only while a guesser is at work. -/
theorem inspect_ne_interrupted (h : ∀ bytes, guesser bytes ≠ .interrupted) :
    inspect site library guesser rule path ≠ .error .interrupted := by
  intro hfault
  unfold inspect at hfault
  cases hcontent : readSource site library guesser path with
  | ok content => simp [hcontent, Except.map] at hfault
  | error fault =>
    rw [hcontent, Except.map, Except.error.injEq] at hfault
    exact readSource_ne_interrupted h (hcontent.trans (congrArg _ hfault))

end Interruption

/-! ### Findings -/

variable {rule : Rule} {first : Nat} {content : List Char} {finding : Finding}

/-- A finding is a line of the text, by its number and with what the rule reports of it. -/
theorem mem_findingsFrom :
    finding ∈ findingsFrom rule first content ↔
      ∃ line number text, (line, number) ∈ (lines content).zipIdx first ∧
        rule.report? line = some text ∧ finding = ⟨number, Text.ofChars text⟩ := by
  simp only [findingsFrom, List.mem_filterMap, Option.map_eq_some_iff, Prod.exists]
  constructor
  · rintro ⟨line, number, hline, text, hreport, rfl⟩
    exact ⟨line, number, text, hline, hreport, rfl⟩
  · rintro ⟨line, number, text, hline, hreport, rfl⟩
    exact ⟨line, number, hline, text, hreport, rfl⟩

/-- What is reported of a line is the trimmed line. -/
theorem Rule.eq_trimLine_of_report? {line text : List Char} (h : rule.report? line = some text) :
    text = trimLine line ∧ rule.flags (trimLine line) = true := by
  rw [Rule.report?] at h
  split at h
  · next hflags => exact ⟨(Option.some.inj h).symm, hflags⟩
  · exact absurd h (by simp)

/-- Line numbers go up. -/
theorem pairwise_findingsFrom (rule : Rule) (first : Nat) (content : List Char) :
    (findingsFrom rule first content).Pairwise (·.line < ·.line) := by
  have hnumbers : ((lines content).zipIdx first).Pairwise (·.2 < ·.2) := by
    rw [← List.pairwise_map, List.zipIdx_map_snd]
    exact List.pairwise_lt_range'
  refine List.Pairwise.filterMap _ ?_ hnumbers
  rintro ⟨line, number⟩ ⟨line', number'⟩ hlt a ha b hb
  obtain ⟨text, -, rfl⟩ := Option.map_eq_some_iff.1 ha
  obtain ⟨text', -, rfl⟩ := Option.map_eq_some_iff.1 hb
  exact Int.ofNat_lt.2 hlt

/-- A line has one finding at most. -/
theorem filter_line_eq {found : List Finding} (h : found.Pairwise (·.line < ·.line))
    (hmem : finding ∈ found) : found.filter (·.line = finding.line) = [finding] := by
  induction found with
  | nil => simp at hmem
  | cons first found ih =>
    obtain ⟨hfirst, hrest⟩ := List.pairwise_cons.1 h
    rcases List.mem_cons.1 hmem with rfl | hmem
    · -- all that follow are on later lines
      rw [List.filter_cons_of_pos (by simp), List.filter_eq_nil_iff.2]
      intro other hother
      have hlt := hfirst other hother
      simp only [decide_eq_true_eq]
      omega
    · have hlt := hfirst finding hmem
      rw [List.filter_cons_of_neg (by simpa using Int.ne_of_lt hlt), ih hrest hmem]

/-- No reported text holds a line feed. -/
theorem newline_notMem_of_mem_findingsFrom (h : finding ∈ findingsFrom rule first content) :
    Glyph.scalar '\n' ∉ finding.text := by
  obtain ⟨line, number, text, hline, hreport, rfl⟩ := mem_findingsFrom.1 h
  obtain ⟨rfl, -⟩ := Rule.eq_trimLine_of_report? hreport
  have hpiece : line ∈ lines content := List.fst_mem_of_mem_zipIdx hline
  intro hmem
  obtain ⟨c, hc, hcode⟩ := List.mem_map.1 hmem
  rw [Glyph.scalar.injEq] at hcode
  subst hcode
  exact sep_notMem_of_mem_pieces hpiece ((trimLine_isInfix line).subset hc)

end HangulLint
