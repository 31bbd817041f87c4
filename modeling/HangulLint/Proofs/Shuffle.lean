import Mathlib.Data.List.Basic

/-!
# Shuffles

A sequence is a **shuffle** of others if it arises from them by taking, time after time, the first
unit of what is left of one of them. Each keeps its own order in it, nothing is lost, and nothing
comes twice; how the others lie in between is open.

* `Shuffle` — shuffles of any number of sequences;
* `Shuffle.perm` — nothing is lost or comes twice;
* `Shuffle.sublist` — each sequence keeps its order;
* `Shuffle.singleton_iff` — a single sequence can be shuffled in one way only;
* `Shuffle.cons_nil`, `Shuffle.snoc` — one more sequence, and one more unit of a sequence.
-/

namespace HangulLint

variable {α : Type}

/-- **Shuffles.** `Shuffle parts whole` says that the units of `whole` are those of the parts,
each part in its order. -/
inductive Shuffle : List (List α) → List α → Prop where
  /-- Nothing is left of any part. -/
  | done {parts : List (List α)} (h : ∀ part ∈ parts, part = []) : Shuffle parts []
  /-- The first unit is taken from some part. -/
  | take {before after : List (List α)} {part : List α} {a : α} {whole : List α}
      (h : Shuffle (before ++ part :: after) whole) :
      Shuffle (before ++ (a :: part) :: after) (a :: whole)

namespace Shuffle

theorem flatten (parts : List (List α)) : Shuffle parts parts.flatten := by
  -- the parts that are used up stay where they are, as empty ones
  suffices h : ∀ before : List (List α), (∀ part ∈ before, part = []) →
      Shuffle (before ++ parts) parts.flatten by
    exact h [] (by simp)
  induction parts with
  | nil => exact fun before h => .done (by simpa using h)
  | cons part parts ih =>
    intro before h
    induction part with
    | nil =>
      -- this part is used up as well
      have hbefore : ∀ part ∈ before ++ [[]], part = [] := by
        simpa [or_imp, forall_and] using h
      simpa using ih (before ++ [[]]) hbefore
    | cons a part ihp => exact ihp.take

theorem perm {parts : List (List α)} {whole : List α} (h : Shuffle parts whole) :
    whole.Perm parts.flatten := by
  induction h with
  | done h => rw [List.flatten_eq_nil_iff.2 h]
  | take h ih =>
    simp only [List.flatten_append, List.flatten_cons, List.cons_append] at ih ⊢
    exact (ih.cons _).trans List.perm_middle.symm

theorem sublist {parts : List (List α)} {whole : List α} (h : Shuffle parts whole) :
    ∀ part ∈ parts, part.Sublist whole := by
  induction h with
  | done h =>
    intro part hpart
    rw [h part hpart]
  | @take before after part a whole h ih =>
    intro other hother
    -- the unit comes from the part in the middle; the others skip it
    rcases List.mem_append.1 hother with hother | hother
    · exact (ih other (List.mem_append_left _ hother)).cons a
    · rcases List.mem_cons.1 hother with rfl | hother
      · exact (ih part (by simp)).cons_cons a
      · exact (ih other (by simp [hother])).cons a

/-- A shuffle of a single sequence is that sequence. -/
theorem singleton_iff {part whole : List α} : Shuffle [part] whole ↔ whole = part := by
  constructor
  · intro h
    -- a part that is as long as the whole is the whole
    have hsub := h.sublist part (by simp)
    have hlen := h.perm.length_eq
    rw [List.flatten_singleton] at hlen
    exact (hsub.eq_of_length hlen.symm).symm
  · rintro rfl
    simpa using flatten [whole]

/-- The sequences can stand in any order. -/
theorem of_perm {parts parts' : List (List α)} {whole : List α} (hperm : parts.Perm parts')
    (h : Shuffle parts whole) : Shuffle parts' whole := by
  induction h generalizing parts' with
  | done h => exact .done fun part hpart => h part (hperm.mem_iff.2 hpart)
  | @take before after part a whole h ih =>
    -- the sequence that the first unit is taken from has its place among the others too
    have hmem : a :: part ∈ parts' := hperm.mem_iff.1 (by simp)
    obtain ⟨before', after', rfl⟩ := List.append_of_mem hmem
    have hrest : (before ++ after).Perm (before' ++ after') :=
      (List.perm_middle.symm.trans (hperm.trans List.perm_middle)).cons_inv
    exact .take (ih (List.perm_middle.trans ((hrest.cons part).trans List.perm_middle.symm)))

/-- An empty sequence adds nothing. -/
theorem cons_nil {parts : List (List α)} {whole : List α} (h : Shuffle parts whole) :
    Shuffle ([] :: parts) whole := by
  induction h with
  | done h => exact .done (by simpa using h)
  | @take before after part a whole h ih =>
    have hparts : Shuffle (([] :: before) ++ part :: after) whole := ih
    exact hparts.take

/-- A unit that comes behind all others comes last in its sequence. -/
theorem snoc {part : List α} {parts : List (List α)} {whole : List α}
    (h : Shuffle (part :: parts) whole) (a : α) :
    Shuffle ((part ++ [a]) :: parts) (whole ++ [a]) := by
  generalize hall : part :: parts = all at h
  induction h generalizing part parts with
  | done h =>
    subst hall
    have hempty : Shuffle ([] ++ part :: parts) [] := .done h
    obtain rfl : part = [] := h part List.mem_cons_self
    exact hempty.take
  | @take before after rest b whole h ih =>
    obtain ⟨rfl, heq⟩ | ⟨before', rfl, rfl⟩ := List.cons_eq_append_iff.1 hall
    · -- the first unit comes from the same sequence
      obtain ⟨rfl, rfl⟩ := List.cons_eq_cons.1 heq
      have hparts : Shuffle ([] ++ (rest ++ [a]) :: after) (whole ++ [a]) := ih rfl
      exact hparts.take
    · have hparts : Shuffle (((part ++ [a]) :: before') ++ rest :: after) (whole ++ [a]) := ih rfl
      exact hparts.take

theorem mem_iff {parts : List (List α)} {whole : List α} (h : Shuffle parts whole) {a : α} :
    a ∈ whole ↔ ∃ part ∈ parts, a ∈ part := by
  rw [h.perm.mem_iff, List.mem_flatten]

end Shuffle

end HangulLint
