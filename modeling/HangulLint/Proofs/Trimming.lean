import HangulLint.Text.Line
import Mathlib.Data.List.TakeWhile

/-!
# Trimming

To trim a list is to cut off, at both ends, whatever satisfies a test. So it makes no difference how
much of that stands at the ends, and nor does it when a part of it has been cut off before. A line
loses its carriage returns first and its blanks afterwards; as carriage returns are blanks, this
is to strip it of its blanks.

What is left has nothing at its ends that satisfies the test, and everything stays in the list that
has no such ends itself: it cannot begin or end in what is cut off.

* `Bare`, `bare_stripWhile`, `Bare.stripWhile_eq` — what is left, and what is left as it is;
* `Bare.infix_stripWhile_iff` — what is bare occurs after trimming exactly if it did before;
* `stripWhile_append_right`, `stripWhile_append_left` — what is added at the ends is cut off again;
* `trimLine_eq_strip` — the carriage returns at the end of a line are blanks like others;
* `trimLine_append_left`, `trimLine_append_right` — blanks at the ends of a line do not show once it
  is trimmed.
-/

namespace HangulLint

section Strip

variable {α : Type} {p q : α → Bool}

theorem dropEndWhile_append_of_all {cut : List α} (h : ∀ a ∈ cut, p a = true) (s : List α) :
    dropEndWhile p (s ++ cut) = dropEndWhile p s := by
  have hcut : ∀ a ∈ cut.reverse, p a = true := fun a ha => h a (List.mem_reverse.1 ha)
  rw [dropEndWhile, List.reverse_append, List.dropWhile_append_of_pos hcut, dropEndWhile]

/-- What is cut from the end of a list satisfies the test. -/
theorem exists_append_dropEndWhile (q : α → Bool) (s : List α) :
    ∃ cut, s = dropEndWhile q s ++ cut ∧ ∀ a ∈ cut, q a = true := by
  refine ⟨(s.reverse.takeWhile q).reverse, ?_, fun a ha => ?_⟩
  · rw [dropEndWhile, ← List.reverse_append, List.takeWhile_append_dropWhile, List.reverse_reverse]
  · exact List.mem_takeWhile_imp (List.mem_reverse.1 ha)

/-- What is added in front is cut off again. -/
theorem stripWhile_append_left {cut : List α} (h : ∀ a ∈ cut, p a = true) (s : List α) :
    stripWhile p (cut ++ s) = stripWhile p s := by
  rw [stripWhile, List.dropWhile_append_of_pos h, stripWhile]

/-- What is added at the end is cut off again. -/
theorem stripWhile_append_right {cut : List α} (h : ∀ a ∈ cut, p a = true) (s : List α) :
    stripWhile p (s ++ cut) = stripWhile p s := by
  rw [stripWhile, stripWhile, List.dropWhile_append]
  split
  · next hempty =>
    -- all of the list is cut off, and so is what was added to it
    rw [List.isEmpty_iff.1 hempty, List.dropWhile_eq_nil_iff.2 h]
  · exact dropEndWhile_append_of_all h _

/-- Cutting less first makes no difference. -/
theorem stripWhile_dropEndWhile (h : ∀ a, q a = true → p a = true) (s : List α) :
    stripWhile p (dropEndWhile q s) = stripWhile p s := by
  obtain ⟨cut, hs, hcut⟩ := exists_append_dropEndWhile q s
  calc stripWhile p (dropEndWhile q s) = stripWhile p (dropEndWhile q s ++ cut) :=
        (stripWhile_append_right (fun a ha => h a (hcut a ha)) _).symm
    _ = stripWhile p s := by rw [← hs]

/-! ### What is left -/

/-- **Bare ends:** neither the first element nor the last satisfies the test. -/
structure Bare (p : α → Bool) (s : List α) : Prop where
  first : ∀ a ∈ s.head?, p a = false
  last : ∀ a ∈ s.getLast?, p a = false

instance (p : α → Bool) (s : List α) : Decidable (Bare p s) :=
  decidable_of_iff ((∀ a ∈ s.head?, p a = false) ∧ ∀ a ∈ s.getLast?, p a = false)
    ⟨fun h => ⟨h.1, h.2⟩, fun h => ⟨h.first, h.last⟩⟩

theorem Bare.reverse {s : List α} (h : Bare p s) : Bare p s.reverse where
  first := by
    rw [List.head?_reverse]
    exact h.last
  last := by
    rw [List.getLast?_reverse]
    exact h.first

/-- What is not cut off begins with an element that does not satisfy the test. -/
theorem eq_false_of_mem_head?_dropWhile {s : List α} {a : α} (h : a ∈ (s.dropWhile p).head?) :
    p a = false := by
  rw [← List.find?_not_eq_head?_dropWhile] at h
  simpa using List.find?_some h

theorem bare_stripWhile (p : α → Bool) (s : List α) : Bare p (stripWhile p s) where
  first := by
    intro a ha
    -- what is cut off at the end does not change where the list begins
    obtain ⟨back, hback, -⟩ := exists_append_dropEndWhile p (s.dropWhile p)
    have hfirst : a ∈ (s.dropWhile p).head? := by
      rw [hback, List.head?_append, ← stripWhile, Option.mem_def.1 ha]
      rfl
    exact eq_false_of_mem_head?_dropWhile hfirst
  last := by
    intro a ha
    rw [stripWhile, dropEndWhile, List.getLast?_reverse] at ha
    exact eq_false_of_mem_head?_dropWhile ha

/-- Of a list with bare ends, nothing is cut off. -/
theorem Bare.stripWhile_eq {s : List α} (h : Bare p s) : stripWhile p s = s := by
  have hdrop : ∀ {s : List α}, (∀ a ∈ s.head?, p a = false) → s.dropWhile p = s := by
    intro s hfirst
    cases s with
    | nil => rfl
    | cons a s => rw [List.dropWhile_cons_of_neg (by simp [hfirst a rfl])]
  rw [stripWhile, hdrop h.first, dropEndWhile, hdrop h.reverse.first, List.reverse_reverse]

/-- What is cut off at the two ends satisfies the test. -/
theorem exists_stripWhile (p : α → Bool) (s : List α) :
    ∃ front back, s = front ++ (stripWhile p s ++ back) ∧ (∀ a ∈ front, p a = true) ∧
      ∀ a ∈ back, p a = true := by
  obtain ⟨back, hback, hall⟩ := exists_append_dropEndWhile p (s.dropWhile p)
  refine ⟨s.takeWhile p, back, ?_, fun a ha => List.mem_takeWhile_imp ha, hall⟩
  rw [stripWhile, ← hback, List.takeWhile_append_dropWhile]

/-! ### What occurs in it -/

/-- What begins with another element does not begin in what satisfies the test. -/
theorem infix_of_infix_append {word cut s : List α} (hcut : ∀ a ∈ cut, p a = true)
    (hne : word ≠ []) (hfirst : ∀ a ∈ word.head?, p a = false) (h : word <:+: cut ++ s) :
    word <:+: s := by
  induction cut with
  | nil => exact h
  | cons c cut ih =>
    obtain ⟨hc, hcut⟩ := List.forall_mem_cons.1 hcut
    rcases List.infix_cons_iff.1 h with hprefix | hlater
    · obtain ⟨a, word, rfl⟩ := List.exists_cons_of_ne_nil hne
      obtain ⟨rfl, -⟩ := List.cons_prefix_cons.1 hprefix
      have hother := hfirst a rfl
      rw [hc] at hother
      exact absurd hother (by simp)
    · exact ih hcut hlater

/-- **What is bare occurs in what is left exactly if it occurs in the whole list.** -/
theorem Bare.infix_stripWhile_iff {word : List α} (h : Bare p word) (hne : word ≠ [])
    (s : List α) : word <:+: stripWhile p s ↔ word <:+: s := by
  obtain ⟨front, back, hs, hfront, hback⟩ := exists_stripWhile p s
  constructor
  · intro hinfix
    rw [hs]
    exact hinfix.trans
      ((List.prefix_append _ back).isInfix.trans (List.suffix_append front _).isInfix)
  · intro hinfix
    rw [hs] at hinfix
    have hleft := infix_of_infix_append hfront hne h.first hinfix
    -- from behind, what is cut off at the end comes first
    have hbehind : word.reverse <:+: back.reverse ++ (stripWhile p s).reverse := by
      rw [← List.reverse_append]
      exact List.reverse_infix.2 hleft
    have hright := infix_of_infix_append (fun a ha => hback a (List.mem_reverse.1 ha))
      (by simpa using hne) h.reverse.first hbehind
    exact List.reverse_infix.1 hright

end Strip

/-- Carriage returns at the end of a line are blanks like others. -/
theorem trimLine_eq_strip (line : List Char) : trimLine line = strip line := by
  refine stripWhile_dropEndWhile (fun c hc => ?_) line
  obtain rfl : c = '\r' := of_decide_eq_true hc
  decide

/-- Blanks in front of a line do not show once it is trimmed. -/
theorem trimLine_append_left {blanks : List Char} (h : ∀ c ∈ blanks, isBlank c = true)
    (line : List Char) : trimLine (blanks ++ line) = trimLine line := by
  rw [trimLine_eq_strip, trimLine_eq_strip]
  exact stripWhile_append_left h line

/-- Nor do blanks behind it. -/
theorem trimLine_append_right {blanks : List Char} (h : ∀ c ∈ blanks, isBlank c = true)
    (line : List Char) : trimLine (line ++ blanks) = trimLine line := by
  rw [trimLine_eq_strip, trimLine_eq_strip]
  exact stripWhile_append_right h line

end HangulLint
