import HangulLint.Proofs.CommaLists

/-!
# Excluded words in a line as it stands

The rule looks for excluded words in the trimmed line. Under the words of a command line it might as
well look in the line as it stands: such a word is not empty and has no blank at its ends, so that
wherever it occurs in the line, it occurs in what trimming leaves of it. A word with a blank inside
makes no difference, nor does one with a carriage return. Words with a stray byte are left out of
the rule, and they occur in no line either.

* `Text.ofChars_trimLine` — trimming a line trims its text;
* `Options.excludes_iff` — the rule excludes a line for a word of the command line;
* `Options.excludes_untrimmed` — trimming neither hides nor reveals an excluded word.
-/

namespace HangulLint

/-! ### Lines as texts -/

/-- Characters are cut off the text of a line as they are cut off the line. -/
theorem Text.dropEndWhile_ofChars (p : Glyph → Bool) (s : List Char) :
    dropEndWhile p (Text.ofChars s) = Text.ofChars (dropEndWhile (p ∘ .scalar) s) := by
  rw [dropEndWhile, Text.ofChars, ← List.map_reverse, List.dropWhile_map, ← List.map_reverse]
  rfl

/-- **Trimming a line trims its text.** -/
theorem Text.ofChars_trimLine (line : List Char) :
    Text.ofChars (trimLine line) = stripWhile Glyph.isBlank (Text.ofChars line) := by
  have hfront : (Text.ofChars line).dropWhile Glyph.isBlank =
      Text.ofChars (line.dropWhile isBlank) := List.dropWhile_map
  rw [trimLine_eq_strip, stripWhile, hfront, Text.dropEndWhile_ofChars]
  rfl

/-- A rule reports what it would report without its words, unless it excludes the trimmed line. -/
theorem Rule.report?_eq_some_iff {rule : Rule} {line text : List Char} :
    rule.report? line = some text ↔
      rule.excludes (trimLine line) = false ∧
        (Rule.mk [] rule.target).report? line = some text := by
  have hwordless : (Rule.mk [] rule.target).excludes (trimLine line) = false := rfl
  rw [report?, report?, flags, flags, hwordless]
  cases rule.excludes (trimLine line) <;> simp

namespace Options

variable {options : Options} {target : Pattern.Node} {line : List Char}

/-- **The rule excludes a line** if a word of the command line occurs in it. -/
theorem excludes_iff : (options.rule target).excludes line = true ↔
    ∃ word ∈ Text.commaList options.excludedWords, word <:+: Text.ofChars line := by
  rw [Rule.excludes, List.any_eq_true]
  constructor
  · rintro ⟨word, hword, hoccurs⟩
    exact ⟨_, mem_excluded_iff.1 hword, (occursIn_iff.1 hoccurs).map _⟩
  · rintro ⟨word, hword, hoccurs⟩
    -- what occurs in a line is made of characters
    obtain ⟨chars, hinfix, rfl⟩ := List.infix_map_iff.1 hoccurs
    exact ⟨chars, mem_excluded_iff.2 hword, occursIn_iff.2 hinfix⟩

/-- A word of the command line occurs in the trimmed line exactly if it occurs in the line. -/
theorem infix_trimLine_iff {word : Text} (h : word ∈ Text.commaList options.excludedWords)
    (line : List Char) :
    word <:+: Text.ofChars (trimLine line) ↔ word <:+: Text.ofChars line := by
  have hlistable := listable_of_mem_entries h
  rw [Text.ofChars_trimLine]
  exact hlistable.bare.infix_stripWhile_iff hlistable.ne_nil _

theorem excludes_trimLine_iff : (options.rule target).excludes (trimLine line) = true ↔
    ∃ word ∈ Text.commaList options.excludedWords, word <:+: Text.ofChars line := by
  rw [excludes_iff]
  exact exists_congr fun word => and_congr_right fun hword => infix_trimLine_iff hword line

/-- **Trimming neither hides nor reveals an excluded word.** Whatever words a command line gives,
the rule finds one in a line exactly if it finds one in the trimmed line; and that is so exactly if
some word occurs in the line as it stands. So a line is reported if no word occurs in it and it
would be reported without them. -/
theorem excludes_untrimmed (options : Options) (target : Pattern.Node) (line : List Char) :
    (options.rule target).excludes line = (options.rule target).excludes (trimLine line) ∧
    ((options.rule target).excludes (trimLine line) = true ↔
      ∃ word ∈ Text.commaList options.excludedWords, word <:+: Text.ofChars line) ∧
    ∀ text, (options.rule target).report? line = some text ↔
      (¬ ∃ word ∈ Text.commaList options.excludedWords, word <:+: Text.ofChars line) ∧
        (Rule.mk [] target).report? line = some text := by
  refine ⟨Bool.eq_iff_iff.2 (excludes_iff.trans excludes_trimLine_iff.symm),
    excludes_trimLine_iff, fun text => ?_⟩
  have hexcludes : (options.rule target).excludes (trimLine line) = false ↔
      ¬ ∃ word ∈ Text.commaList options.excludedWords, word <:+: Text.ofChars line := by
    rw [← excludes_trimLine_iff, Bool.not_eq_true]
  rw [Rule.report?_eq_some_iff, hexcludes]
  rfl

/-- Options that exclude a word with a carriage return inside and blanks around it. -/
def brokenWord : Options := { Options.standard with excludedWords := " 가\r나\t,\u3000" }

/-- The word is found in a padded line, and not where its carriage return ends the line. -/
theorem excludes_untrimmed_brokenWord :
    (brokenWord.rule Rule.standardTarget).excludes "\t\"가\r나\"\r ".toList = true ∧
      (brokenWord.rule Rule.standardTarget).report? "\t\"가\r나\"\r ".toList = none ∧
      (brokenWord.rule Rule.standardTarget).report? "\" 나\"가\r".toList =
        some "\" 나\"가".toList := by
  have hwords : Text.commaList brokenWord.excludedWords = [Text.ofString "가\r나"] := by
    decide +kernel
  obtain ⟨htrim, hfound, hreport⟩ :=
    excludes_untrimmed brokenWord Rule.standardTarget "\t\"가\r나\"\r ".toList
  obtain ⟨-, -, hreport'⟩ :=
    excludes_untrimmed brokenWord Rule.standardTarget "\" 나\"가\r".toList
  rw [hwords] at hfound hreport hreport'
  have hword : ∃ word ∈ [Text.ofString "가\r나"],
      word <:+: Text.ofChars "\t\"가\r나\"\r ".toList :=
    ⟨_, List.mem_singleton_self _, by decide +kernel⟩
  refine ⟨htrim.trans (hfound.2 hword), ?_, (hreport' _).2 ⟨?_, by decide +kernel⟩⟩
  · rw [Option.eq_none_iff_forall_ne_some]
    exact fun text htext => ((hreport text).1 htext).1 hword
  · rintro ⟨word, hmem, hinfix⟩
    obtain rfl := List.mem_singleton.1 hmem
    exact absurd hinfix (by decide +kernel)

end Options

end HangulLint
