/-!
# Pieces of a sequence

Cutting at a separator, joining with a separator, and finding one sequence inside another, for
sequences of any kind of unit.

* `pieces` and `joined` — inverse to each other (`joined_pieces`);
* `occursIn` — whether one sequence is part of another without a gap.
-/

namespace HangulLint

variable {α : Type} [DecidableEq α]

/-- Puts a unit in front of the first piece. -/
def extendFirst (a : α) : List (List α) → List (List α)
  | [] => [[a]]
  | piece :: more => (a :: piece) :: more

/-- The pieces between the occurrences of a separator, in order: one more than there are
separators. -/
def pieces (sep : α) (s : List α) : List (List α) :=
  s.foldr (fun a found => if a = sep then [] :: found else extendFirst a found) [[]]

omit [DecidableEq α] in
/-- The pieces in order, with the separator between any two. -/
def joined (sep : List α) : List (List α) → List α
  | [] => []
  | [piece] => piece
  | piece :: next :: more => piece ++ sep ++ joined sep (next :: more)

/-- Whether `part` occurs in a sequence without a gap. -/
def occursIn (part : List α) : List α → Bool
  | [] => part.isEmpty
  | a :: rest => part.isPrefixOf (a :: rest) || occursIn part rest

theorem pieces_nil (sep : α) : pieces sep [] = [[]] := rfl

theorem pieces_cons_sep (sep : α) (s : List α) : pieces sep (sep :: s) = [] :: pieces sep s := by
  simp [pieces]

theorem pieces_cons_of_ne {sep a : α} (h : a ≠ sep) (s : List α) :
    pieces sep (a :: s) = extendFirst a (pieces sep s) := by
  simp [pieces, h]

theorem pieces_ne_nil (sep : α) (s : List α) : pieces sep s ≠ [] := by
  cases s with
  | nil => simp [pieces]
  | cons a s =>
    by_cases h : a = sep
    · simp [pieces, h]
    · rw [pieces_cons_of_ne h]
      cases pieces sep s <;> simp [extendFirst]

/-- Joining the pieces with the separator gives the sequence back. -/
theorem joined_pieces (sep : α) (s : List α) : joined [sep] (pieces sep s) = s := by
  induction s with
  | nil => rfl
  | cons a s ih =>
    by_cases h : a = sep
    · subst h
      rw [pieces_cons_sep]
      cases hp : pieces a s with
      | nil => exact absurd hp (pieces_ne_nil a s)
      | cons p ps => simp only [joined, ← hp, ih, List.nil_append, List.singleton_append]
    · rw [pieces_cons_of_ne h]
      cases hp : pieces sep s with
      | nil => exact absurd hp (pieces_ne_nil sep s)
      | cons p ps =>
        rw [hp] at ih
        cases ps with
        | nil => simpa [extendFirst, joined] using ih
        | cons q qs => simpa [extendFirst, joined] using ih

end HangulLint
