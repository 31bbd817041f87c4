import HangulLint.Proofs.LineByLine
import HangulLint.Proofs.Trimming
import Mathlib.Logic.Relation

/-!
# Line ends and indentation

Blanks at the beginning or at the end of a line are cut off before the rule sees it, so they decide
nothing. They may be put there and taken away, in any order and on any lines: as long as they are no
line feeds, every line keeps its number, and what is found on it is the same. A carriage return is a
blank like others, so that it does not matter either which of the lines of a text end with one.

* `Pads` — one piece of padding more, at the beginning or at the end of some line;
* `SameButReturns` — texts that have other carriage returns in front of their line feeds;
* `Pads.findingsIn_eq`, `eqvGen_pads` — one piece of padding changes nothing, and by pieces of
  padding all line ends can be changed;
* `findingsIn_repadded` — padding does not show.
-/

namespace HangulLint

/-- Blanks that do not end a line. -/
def Padding (blanks : List Char) : Prop := ∀ c ∈ blanks, isBlank c = true ∧ c ≠ '\n'

/-- **One piece of padding more,** at the beginning or at the end of a line. -/
inductive Pads : List Char → List Char → Prop where
  | front {before blanks after : List Char} (place : WholeLines before)
      (padding : Padding blanks) : Pads (before ++ after) (before ++ blanks ++ after)
  | back {before blanks after : List Char} (place : AtLineEnd after)
      (padding : Padding blanks) : Pads (before ++ after) (before ++ blanks ++ after)

/-- **Texts that differ in their line ends.** In front of a line feed, each has as many carriage
returns as it likes; all else is the same. -/
inductive SameButReturns : List Char → List Char → Prop where
  | nil : SameButReturns [] []
  | char (c : Char) {s s' : List Char} (rest : SameButReturns s s') :
      SameButReturns (c :: s) (c :: s')
  | lineEnd (m n : Nat) {s s' : List Char} (rest : SameButReturns s s') :
      SameButReturns (List.replicate m '\r' ++ '\n' :: s) (List.replicate n '\r' ++ '\n' :: s')

variable {rule : Rule} {blanks line s s' : List Char}

/-! ### Padding on one line -/

theorem Padding.newline_notMem (h : Padding blanks) : '\n' ∉ blanks :=
  fun hmem => (h '\n' hmem).2 rfl

/-- Carriage returns are padding. -/
theorem padding_returns (n : Nat) : Padding (List.replicate n '\r') := by
  intro c hc
  obtain rfl : c = '\r' := List.eq_of_mem_replicate hc
  decide

/-- The rule reports the same of a line with padding in front. -/
theorem Padding.report?_append_left (h : Padding blanks) (rule : Rule) (line : List Char) :
    rule.report? (blanks ++ line) = rule.report? line := by
  rw [Rule.report?, trimLine_append_left (fun c hc => (h c hc).1), Rule.report?]

/-- The rule reports the same of a line with padding behind. -/
theorem Padding.report?_append_right (h : Padding blanks) (rule : Rule) (line : List Char) :
    rule.report? (line ++ blanks) = rule.report? line := by
  rw [Rule.report?, trimLine_append_right (fun c hc => (h c hc).1), Rule.report?]

/-- A line can be replaced by one of which the same is reported. -/
theorem findingsIn_replace {before line line' after : List Char} (hbefore : WholeLines before)
    (hafter : AtLineEnd after) (hline : '\n' ∉ line) (hline' : '\n' ∉ line')
    (hreport : rule.report? line' = rule.report? line) :
    findingsIn rule (before ++ line' ++ after) = findingsIn rule (before ++ line ++ after) := by
  obtain ⟨early, later, -, -, haround⟩ := findingsIn_around rule hbefore hafter
  rw [haround line' hline', haround line hline, Rule.findingAt, hreport, Rule.findingAt]

/-- **One piece of padding changes nothing.** -/
theorem Pads.findingsIn_eq (h : Pads s s') (rule : Rule) :
    findingsIn rule s' = findingsIn rule s := by
  cases h with
  | @front before blanks after place padding =>
    -- the padding is in front of the line that begins here
    obtain ⟨line, after, rfl, hline, hafter⟩ := exists_firstLine after
    have hpadded : '\n' ∉ blanks ++ line := by
      rw [List.mem_append]
      exact fun hmem => hmem.elim padding.newline_notMem hline
    have hreplace := findingsIn_replace place hafter hline hpadded
      (padding.report?_append_left rule line)
    simpa only [List.append_assoc] using hreplace
  | @back before blanks after place padding =>
    -- the padding is behind the line that ends here
    obtain ⟨before, line, rfl, hbefore, hline⟩ := exists_lastLine before
    have hpadded : '\n' ∉ line ++ blanks := by
      rw [List.mem_append]
      exact fun hmem => hmem.elim hline padding.newline_notMem
    have hreplace := findingsIn_replace hbefore place hline hpadded
      (padding.report?_append_right rule line)
    simpa only [List.append_assoc] using hreplace

/-! ### Padding everywhere -/

/-- **Padding does not show,** wherever and however often it is added and taken away. -/
theorem findingsIn_eq_of_eqvGen (h : Relation.EqvGen Pads s s') (rule : Rule) :
    findingsIn rule s' = findingsIn rule s := by
  induction h with
  | rel _ _ hpads => exact hpads.findingsIn_eq rule
  | refl _ => rfl
  | symm _ _ _ ih => exact ih.symm
  | trans _ _ _ _ _ ih ih' => exact ih'.trans ih

/-- Line ends are changed by taking the carriage returns away and putting others in their place,
line by line. -/
theorem SameButReturns.eqvGen_pads (h : SameButReturns s s') (before : List Char) :
    Relation.EqvGen Pads (before ++ s) (before ++ s') := by
  induction h generalizing before with
  | nil => exact .refl _
  | @char c s s' _ ih =>
    have hrest := ih (before ++ [c])
    rwa [List.append_assoc, List.append_assoc] at hrest
  | @lineEnd m n s s' _ ih =>
    -- the returns of the one text are taken away, those of the other put in their place
    have hplace : AtLineEnd ('\n' :: s) := .inr ⟨s, rfl⟩
    have htaken : Relation.EqvGen Pads (before ++ (List.replicate m '\r' ++ '\n' :: s))
        (before ++ '\n' :: s) := by
      refine .symm _ _ (.rel _ _ ?_)
      rw [← List.append_assoc]
      exact .back hplace (padding_returns m)
    have hput : Relation.EqvGen Pads (before ++ '\n' :: s)
        (before ++ (List.replicate n '\r' ++ '\n' :: s)) := by
      refine .rel _ _ ?_
      rw [← List.append_assoc]
      exact .back hplace (padding_returns n)
    have hrest : Relation.EqvGen Pads (before ++ (List.replicate n '\r' ++ '\n' :: s))
        (before ++ (List.replicate n '\r' ++ '\n' :: s')) := by
      have hih := ih (before ++ List.replicate n '\r' ++ ['\n'])
      simpa only [List.append_assoc, List.singleton_append] using hih
    exact (htaken.trans _ _ _ hput).trans _ _ _ hrest

/-- **Neither line ends nor indentation change what is found.** Under every rule, a text in which
padding has been added and taken away at the beginnings and ends of lines, however often, has the
same findings, with the same line numbers and texts; in particular one with other carriage returns
in front of its line feeds. -/
theorem findingsIn_repadded (rule : Rule) :
    (∀ s s', Relation.EqvGen Pads s s' → findingsIn rule s' = findingsIn rule s) ∧
    ∀ s s', SameButReturns s s' →
      Relation.EqvGen Pads s s' ∧ findingsIn rule s' = findingsIn rule s := by
  refine ⟨fun s s' hpads => findingsIn_eq_of_eqvGen hpads rule, fun s s' hsame => ?_⟩
  have hpads : Relation.EqvGen Pads s s' := hsame.eqvGen_pads []
  exact ⟨hpads, findingsIn_eq_of_eqvGen hpads rule⟩

/-- A quote is found under a tabulator and in front of a carriage return as it is without them. -/
theorem findingsIn_repadded_quote :
    (Relation.EqvGen Pads ['"', '가', '"', '\n', 'x'] ['\t', '"', '가', '"', '\n', 'x'] ∧
      findingsIn .standard ['\t', '"', '가', '"', '\n', 'x'] = [⟨1, "\"가\""⟩]) ∧
    SameButReturns ['"', '가', '"', '\n', 'x'] ['"', '가', '"', '\r', '\n', 'x'] ∧
      findingsIn .standard ['"', '가', '"', '\r', '\n', 'x'] = [⟨1, "\"가\""⟩] := by
  have htab : Padding ['\t'] := by
    intro c hc
    obtain rfl := List.mem_singleton.1 hc
    decide
  have htabbed : Pads ([] ++ ['"', '가', '"', '\n', 'x'])
      ([] ++ ['\t'] ++ ['"', '가', '"', '\n', 'x']) := .front (.inl rfl) htab
  have hpads : Relation.EqvGen Pads ['"', '가', '"', '\n', 'x'] ['\t', '"', '가', '"', '\n', 'x'] :=
    .rel _ _ htabbed
  have hreturns : SameButReturns ['"', '가', '"', '\n', 'x'] ['"', '가', '"', '\r', '\n', 'x'] :=
    .char _ (.char _ (.char _ (.lineEnd 0 1 (.char _ .nil))))
  have hfound : findingsIn .standard ['"', '가', '"', '\n', 'x'] = [⟨1, "\"가\""⟩] := by
    decide +kernel
  obtain ⟨hpadded, hreturned⟩ := findingsIn_repadded .standard
  exact ⟨⟨hpads, (hpadded _ _ hpads).trans hfound⟩, hreturns,
    (hreturned _ _ hreturns).2.trans hfound⟩

end HangulLint
