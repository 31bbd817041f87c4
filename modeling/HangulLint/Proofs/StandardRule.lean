import HangulLint.Proofs.Content
import HangulLint.Proofs.Trimming
import HangulLint.Program
import Mathlib

/-!
# The standard rule without patterns

Under the standard settings, neither the pattern of the rule nor the one for names is needed to say
what is wanted. A trimmed line is reported exactly if a double quote and a Hangul character are
among its characters and none of the excluded words occurs in it; a file is wanted exactly if its
name ends in `.cs`. The settings get there as text: the comma lists have to be taken apart again,
and the patterns to be read.

* `Rule.Noted` — what is wanted of a line;
* `Rule.report?_standard` — the standard rule reports what is wanted;
* `Rule.parse_standardPattern` — every host reads the standard pattern as its target;
* `Glob.admits_run` — a run before fixed glyphs stands for names that end in these;
* `Options.Standing` — options that leave the rule as it is, with `Options.Standing.rule_eq` and
  `Options.Standing.wants_iff`.
-/

namespace HangulLint

/-! ### Targets -/

/-- A test on one character matches somewhere if some character passes it. -/
theorem Pattern.Node.search_one (test : CharTest) (text : List Char) :
    (Node.one test).search text = true ↔ ∃ c ∈ text, test.accepts c = true := by
  -- what precedes a place does not matter to a test on one character
  have hfrom : ∀ before position, (Node.one test).searchFrom before position text = true ↔
      ∃ c ∈ text, test.accepts c = true := by
    induction text with
    | nil => simp [searchFrom, run]
    | cons c text ih =>
      intro before position
      rw [searchFrom, Bool.or_eq_true, ih, run]
      by_cases hc : test.accepts c = true <;> simp [hc]
  exact hfrom [] 0

/-- The characters that the standard target stands for: the compatibility consonants and the
syllables. -/
def Hangul (c : Char) : Prop :=
  0x3131 ≤ c.toNat ∧ c.toNat ≤ 0x314E ∨ 0xAC00 ≤ c.toNat ∧ c.toNat ≤ 0xD7A3

instance : DecidablePred Hangul := fun _ => inferInstanceAs (Decidable (_ ∨ _))

namespace Rule

theorem search_standardTarget (text : List Char) :
    standardTarget.search text = true ↔ ∃ c ∈ text, Hangul c := by
  rw [standardTarget, Pattern.Node.search_one]
  simp [Pattern.CharTest.accepts, Pattern.CharItem.accepts, Pattern.CaseRule.forms, Hangul]

/-- **What is wanted of a trimmed line.** -/
structure Noted (text : List Char) : Prop where
  /-- It holds a double quote. -/
  quoted : '"' ∈ text
  /-- It holds a Hangul character. -/
  hangul : ∃ c ∈ text, Hangul c
  /-- It holds none of the excluded words. -/
  plain : ∀ word ∈ standardWords, ¬ word.toList <:+: text

theorem excludes_standard {text : List Char} :
    standard.excludes text = false ↔ ∀ word ∈ standardWords, ¬ word.toList <:+: text := by
  rw [excludes, standard, List.any_map, List.any_eq_false]
  simp only [Function.comp_apply, occursIn_iff]

theorem flags_standard {text : List Char} : standard.flags text = true ↔ Noted text := by
  have htarget : standard.target.search text = true ↔ ∃ c ∈ text, Hangul c :=
    search_standardTarget text
  rw [flags, Bool.and_eq_true, Bool.and_eq_true, Bool.not_eq_true', excludes_standard, htarget,
    List.contains_iff_mem]
  constructor
  · rintro ⟨⟨hplain, hquoted⟩, hhangul⟩
    exact ⟨hquoted, hhangul, hplain⟩
  · intro h
    exact ⟨⟨h.plain, h.quoted⟩, h.hangul⟩

instance (text : List Char) : Decidable (Noted text) :=
  decidable_of_iff (standard.flags text = true) flags_standard

/-- **What the standard rule reports.** -/
theorem report?_standard (line : List Char) :
    standard.report? line = if Noted (strip line) then some (strip line) else none := by
  rw [report?, trimLine_eq_strip]
  exact if_congr flags_standard rfl rfl

end Rule

/-! ### Names -/

namespace Glob

theorem anySuffix_iff {p : Text → Bool} {name : Text} :
    anySuffix p name = true ↔ ∃ rest, rest <:+ name ∧ p rest = true := by
  induction name with
  | nil => simp [anySuffix]
  | cons g name ih =>
    rw [anySuffix, Bool.or_eq_true, ih]
    simp only [List.suffix_cons_iff, or_and_right, exists_or, exists_eq_left]

theorem admits_literals {fixed name : Text} :
    admits (fixed.map .literal) name = true ↔ name = fixed := by
  induction fixed generalizing name with
  | nil => simp [admits]
  | cons g fixed ih =>
    cases name with
    | nil => simp [admits]
    | cons g' name => simp [admits, Part.accepts, ih]

/-- A run before fixed glyphs stands for the names that end in these. -/
theorem admits_run {fixed name : Text} :
    admits (.run :: fixed.map .literal) name = true ↔ fixed <:+ name := by
  -- fixed glyphs describe one name, so the end that the run leaves is known
  rw [admits, anySuffix_iff]
  constructor
  · rintro ⟨rest, hrest, hadmits⟩
    rwa [← admits_literals.1 hadmits]
  · exact fun h => ⟨fixed, h, admits_literals.2 rfl⟩

end Glob

/-! ### The settings -/

/-- Every host reads the standard pattern as the standard target. -/
theorem Rule.parse_standardPattern (host : Pattern.Host) :
    Pattern.parse host Rule.standardPattern = .ok Rule.standardTarget := by
  have hflat : host.overflow? Rule.standardPattern = none := host.flat _ (by decide)
  rw [Pattern.parse, hflat]
  cbv

/-- **Options that leave the rule as it is.** The excluded directories, the size limit, the workers
and the place of the report may be anything. -/
structure Options.Standing (options : Options) : Prop where
  pattern : options.pattern = Options.standard.pattern
  globs : options.globs = Options.standard.globs
  words : options.excludedWords = Options.standard.excludedWords
  sorted : options.unsorted = false

namespace Options.Standing

variable {options : Options}

theorem parse_pattern (h : options.Standing) (host : Pattern.Host) :
    Pattern.parse host options.pattern = .ok Rule.standardTarget := by
  rw [h.pattern]
  exact Rule.parse_standardPattern host

theorem rule_eq (h : options.Standing) : options.rule Rule.standardTarget = Rule.standard := by
  have hwords : (Text.commaList Options.standard.excludedWords).filterMap Text.chars? =
      Rule.standardWords.map String.toList := by cbv
  rw [Options.rule, h.words, hwords, Rule.standard]

theorem wants_iff (h : options.Standing) {root : Path} {name : Text} :
    (options.scope root).globs.any (Glob.admits · name) = true ↔ (".cs" : Text) <:+ name := by
  have hglobs : (Text.commaList Options.standard.globs).map Glob.parse =
      [.run :: (".cs" : Text).map .literal] := by cbv
  have hscope : (options.scope root).globs = [.run :: (".cs" : Text).map .literal] := by
    rw [← hglobs, ← h.globs]
    rfl
  rw [hscope, List.any_cons, List.any_nil, Bool.or_false, Glob.admits_run]

end Options.Standing

end HangulLint
