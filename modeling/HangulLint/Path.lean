import HangulLint.Text.Glyph
import HangulLint.Text.Pieces

/-!
# Paths

A path says where to start and which names to follow. Empty names and single dots mean nothing
and are dropped; two dots stay, because where they lead depends on links.

* `Path.ofText`, `Path.text` — between paths and their texts;
* `Path.key` — the text under which findings are kept, with forward slashes only;
* `Path.within?` — the names that lead from one path to another below it.
-/

namespace HangulLint

/-- Where a path starts. Two slashes are kept apart from one; more count as one. -/
inductive Origin where
  /-- The directory in which the program runs. -/
  | here
  /-- The root directory, as `/`. -/
  | root
  /-- The root directory, as `//`. -/
  | doubleRoot
deriving DecidableEq

/-- The slashes that a path with a given start begins with. -/
def Origin.text : Origin → Text
  | .here => []
  | .root => "/"
  | .doubleRoot => "//"

/-- A start and the names to follow from there. -/
structure Path where
  origin : Origin
  names : List Text
deriving DecidableEq

namespace Path

/-- The sign between names. -/
def slash : Glyph := .scalar '/'

/-- The name of a directory for itself. -/
def selfName : Text := [.scalar '.']

/-- The name of a directory for the one that holds it. -/
def parentName : Text := [.scalar '.', .scalar '.']

/-- Whether a piece between slashes is a name to follow. -/
def isStep (piece : Text) : Bool := !piece.isEmpty && piece != selfName

/-- The start that so many slashes stand for. -/
def originOf (slashes : Nat) : Origin :=
  match slashes with
  | 0 => .here
  | 2 => .doubleRoot
  | _ => .root

/-- The path of a text. -/
def ofText (t : Text) : Path :=
  ⟨originOf (t.takeWhile (· = slash)).length, (pieces slash t).filter isStep⟩

/-- The directory in which the program runs. -/
def here : Path := ⟨.here, []⟩

/-- The text of a path. -/
def text (path : Path) : Text :=
  if path = here then selfName else path.origin.text ++ joined [slash] path.names

/-- A text with every backslash written as a slash. -/
def slashed (t : Text) : Text := t.map fun g => if g = .scalar '\\' then slash else g

/-- The text of a path with slashes only. -/
def key (path : Path) : Text := slashed path.text

/-- The last name of a path; the start alone has none. -/
def name (path : Path) : Text := path.names.getLast?.getD []

/-- What a path consists of: the slashes at the start, if any, and the names. -/
def parts (path : Path) : List Text :=
  if path.origin = .here then path.names else path.origin.text :: path.names

/-- The path to what has a name, or follows several, below a directory. -/
def below (directory : Path) (names : List Text) : Path :=
  ⟨directory.origin, directory.names ++ names⟩

/-- The path to what has a name in a directory. -/
def child (directory : Path) (name : Text) : Path := directory.below [name]

/-- The names that lead from a directory to a path, if the path's names begin with those of the
directory. Links and double dots are not considered. -/
def within? (directory path : Path) : Option (List Text) :=
  if directory.origin = path.origin && directory.names.isPrefixOf path.names then
    some (path.names.drop directory.names.length)
  else none

/-- Whether a zero character occurs in a path; no file has such a path. -/
def hasNul (path : Path) : Bool := path.names.any (·.contains (.scalar '\x00'))

end Path

end HangulLint
