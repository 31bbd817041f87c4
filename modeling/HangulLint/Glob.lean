import HangulLint.Text.Glyph

/-!
# Name patterns

A name pattern describes whole file names: `*` stands for any run, `?` for any one glyph, a set
in brackets for one of its members, and everything else for itself. A set that begins with `!`
stands for what is not a member. A closing bracket that comes first in a set is a member, and an
opening bracket that is never closed stands for itself. Case matters.

* `Glob.parse` — every text is a pattern;
* `Glob.admits` — the names that a pattern describes.
-/

namespace HangulLint

namespace Glob

/-- A part of a name pattern. -/
inductive Part where
  | run
  | any
  | literal (g : Glyph)
  /-- One glyph in one of the ranges, or in none of them. A range whose ends are in the wrong
  order is empty. -/
  | set (negated : Bool) (ranges : List (Nat × Nat))
deriving DecidableEq

end Glob

/-- The parts of a name pattern in order. -/
abbrev Glob := List Glob.Part

namespace Glob

/-- The ranges that the inside of a set lists: a minus sign between two members makes a range. -/
def ranges : Text → List (Nat × Nat)
  | a :: .scalar '-' :: b :: rest => (a.code, b.code) :: ranges rest
  | a :: rest => (a.code, a.code) :: ranges rest
  | [] => []

/-- The inside of a set and what follows the closing bracket. The first glyph is no closing
bracket. -/
def splitSet (inside : Text) : Text → Option (Text × Text)
  | [] => none
  | g :: rest =>
    if g = .scalar ']' && !inside.isEmpty then some (inside.reverse, rest)
    else splitSet (g :: inside) rest

/-- The inside of a set without the empty ranges at its front. -/
def dropEmptyRanges : Text → Text
  | a :: .scalar '-' :: b :: rest =>
    if b.code < a.code then dropEmptyRanges rest else a :: .scalar '-' :: b :: rest
  | inside => inside

/-- The set with a given inside. An exclamation mark behind empty ranges is the first sign of the
set as well. -/
def setOf (inside : Text) : Part :=
  match dropEmptyRanges inside with
  | .scalar '!' :: members => .set true (ranges members)
  | members => .set false (ranges members)

/-- The set that follows an opening bracket, and what follows the set. -/
def set? : Text → Option (Part × Text)
  | .scalar '!' :: rest => (splitSet [] rest).map fun (inside, after) =>
      (.set true (ranges inside), after)
  | rest => (splitSet [] rest).map fun (inside, after) => (setOf inside, after)

theorem length_splitSet {inside t found after : Text}
    (h : splitSet inside t = some (found, after)) :
    after.length < t.length := by
  induction t generalizing inside with
  | nil => simp [splitSet] at h
  | cons g t ih =>
    simp only [splitSet] at h
    split at h
    · simp only [Option.some.injEq, Prod.mk.injEq] at h
      obtain ⟨-, rfl⟩ := h
      simp
    · exact Nat.lt_succ_of_lt (ih h)

theorem length_set? {t after : Text} {part : Part} (h : set? t = some (part, after)) :
    after.length ≤ t.length := by
  unfold set? at h
  split at h
  all_goals
    simp only [Option.map_eq_some_iff, Prod.mk.injEq, Prod.exists] at h
    obtain ⟨found, rest, hs, -, rfl⟩ := h
    have := length_splitSet hs
    grind

/-- The name pattern that a text describes. -/
def parse (t : Text) : Glob :=
  match t with
  | [] => []
  | .scalar '*' :: rest => .run :: parse rest
  | .scalar '?' :: rest => .any :: parse rest
  | .scalar '[' :: rest =>
    match _h : set? rest with
    | some (part, after) => part :: parse after
    | none => .literal (.scalar '[') :: parse rest
  | g :: rest => .literal g :: parse rest
termination_by t.length
decreasing_by
  all_goals simp only [List.length_cons]
  all_goals first
    | omega
    | exact Nat.lt_succ_of_le (length_set? (by assumption))

/-- Whether a test holds for a text or for what is left after some glyphs at its front. -/
def anySuffix (p : Text → Bool) : Text → Bool
  | [] => p []
  | g :: rest => p (g :: rest) || anySuffix p rest

/-- Whether a part other than a run stands for a glyph. -/
def Part.accepts (g : Glyph) : Part → Bool
  | .run => false
  | .any => true
  | .literal l => g = l
  | .set negated ranges =>
    (ranges.any fun r => r.1 ≤ g.code && g.code ≤ r.2) != negated

/-- Whether a name pattern describes a name. -/
def admits : Glob → Text → Bool
  | [], name => name.isEmpty
  | .run :: parts, name => anySuffix (admits parts) name
  | part :: parts, name =>
    match name with
    | [] => false
    | g :: rest => part.accepts g && admits parts rest

end Glob

end HangulLint
