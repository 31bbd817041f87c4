import HangulLint.Proofs.Content
import HangulLint.Proofs.Trimming

/-!
# The core of a line

A line consists of blanks, then a core, then blanks again, where the core neither begins nor ends
with a blank. There is one such core only: the blanks around it do not survive trimming
(`stripWhile_append_left`, `stripWhile_append_right`), and of the core itself nothing is cut off
(`Bare.stripWhile_eq`). Trimming finds it. So to trim a trimmed line changes nothing, and the text
that a rule reports of a line is one of which the same rule reports the same.

* `Core`, `core_iff` — the core of a list, and that it is what trimming leaves;
* `trimLine_exact` — trimming a line leaves its core, and reported texts stay as they are.
-/

namespace HangulLint

section Core

variable {α : Type} {p : α → Bool} {s core : List α}

/-- **A core of a list:** what stands around it satisfies the test, and its own ends do not. An
empty core has no ends. -/
structure Core (p : α → Bool) (s core : List α) : Prop where
  around : ∃ front back, s = front ++ (core ++ back) ∧ (∀ a ∈ front, p a = true) ∧
    ∀ a ∈ back, p a = true
  bare : Bare p core

/-- **The core is what trimming leaves.** -/
theorem core_iff : Core p s core ↔ core = stripWhile p s := by
  constructor
  · rintro ⟨⟨front, back, rfl, hfront, hback⟩, hbare⟩
    rw [stripWhile_append_left hfront, stripWhile_append_right hback, hbare.stripWhile_eq]
  · rintro rfl
    exact ⟨exists_stripWhile p s, bare_stripWhile p s⟩

end Core

/-- A text that is flagged holds a double quote. -/
theorem Rule.quote_mem_of_flags {rule : Rule} {text : List Char} (h : rule.flags text = true) :
    '"' ∈ text := by
  rw [flags, Bool.and_eq_true, Bool.and_eq_true] at h
  exact List.contains_iff_mem.1 h.1.2

/-- Trimming what has been trimmed changes nothing. -/
theorem trimLine_trimLine (line : List Char) : trimLine (trimLine line) = trimLine line := by
  have hbare : Bare isBlank (trimLine line) := by
    rw [trimLine_eq_strip]
    exact bare_stripWhile isBlank line
  rw [trimLine_eq_strip (trimLine line)]
  exact hbare.stripWhile_eq

/-- **Trimming a line leaves its core.** Every line has exactly one core, and trimming finds it; so
trimming cuts off the blanks at both ends, carriage returns among them, and doing it again changes
nothing. What a rule reports of a line is not empty, holds a double quote, and is a line of which
the rule reports the very same. -/
theorem trimLine_exact :
    (∀ line core : List Char, Core isBlank line core ↔ core = trimLine line) ∧
    (∀ line, trimLine line = strip line) ∧
    (∀ line, trimLine (trimLine line) = trimLine line) ∧
    ∀ (rule : Rule) (line text : List Char), rule.report? line = some text →
      text ≠ [] ∧ '"' ∈ text ∧ rule.report? text = some text := by
  refine ⟨fun line core => ?_, trimLine_eq_strip, trimLine_trimLine, fun rule line text h => ?_⟩
  · rw [trimLine_eq_strip]
    exact core_iff
  · obtain ⟨rfl, hflags⟩ := Rule.eq_trimLine_of_report? h
    have hquote := Rule.quote_mem_of_flags hflags
    refine ⟨List.ne_nil_of_mem hquote, hquote, ?_⟩
    -- the rule sees the trimmed line once more
    rw [Rule.report?, trimLine_trimLine, if_pos hflags]

/-- A line with carriage returns among the blanks at its ends, and one inside. -/
def ragged : List Char := "\r\u3000\"가\r나\" \r\t\r".toList

/-- Its core keeps the carriage return inside, and is reported of the line and of itself. -/
theorem trimLine_exact_ragged :
    Core isBlank ragged "\"가\r나\"".toList ∧
      Rule.standard.report? ragged = some "\"가\r나\"".toList ∧
      Rule.standard.report? "\"가\r나\"".toList = some "\"가\r나\"".toList := by
  obtain ⟨hcore, -, -, hreport⟩ := trimLine_exact
  have htext : Rule.standard.report? ragged = some "\"가\r나\"".toList := by decide +kernel
  obtain ⟨-, -, hagain⟩ := hreport _ _ _ htext
  exact ⟨(hcore _ _).2 (by decide +kernel), htext, hagain⟩

end HangulLint
