import HangulLint.Glob
import HangulLint.Inspection

/-!
# Which files a sweep inspects

Below the root, whatever lies in its directories is looked at, hidden or not; directories that are
only linked to are not entered. Of that, a file is selected if its name is described by one of the
name patterns, if it is a file once links are followed, if no directory between the root and it
has an excluded name, and if it is not too large. There is no selection where a directory lies too
deep for the program, or where the system refuses to answer.

* `Scope` — these conditions;
* `Scope.excludesDir` — the test on directory names;
* `Scope.judge` — the decision about one path, and what the journal tells of it;
* `Scope.enter` — the way down into a directory, and what can be in it;
* `Scope.select` — the selected files in the order of the tree.
-/

namespace HangulLint

/-- Where a sweep looks, and for what. -/
structure Scope where
  root : Path
  /-- A file's name has to be described by one of these. -/
  globs : List Glob
  /-- Nothing in a directory of such a name is selected. -/
  excludedDirs : List Text
  /-- The most bytes that a file may have. -/
  sizeLimit : Option Int

/-- What the sweep looks for unless told otherwise: sources in C#. -/
def standardGlobs : List String := ["*.cs"]

/-- The directories that are passed over unless told otherwise. -/
def standardExcludedDirs : List String := []

/-- A file to inspect: the key for its findings, and its path. -/
abbrev Target := Text × Path

namespace Scope

/-- The names of the directories that a path goes through below the root. A path that does not
begin as the root does is taken as a whole. -/
def directoriesOf (scope : Scope) (path : Path) : List Text :=
  ((scope.root.within? path).getD path.parts).dropLast

/-- Whether a path goes through a directory with an excluded name. -/
def excludesDir (scope : Scope) (path : Path) : Bool :=
  (scope.directoriesOf path).any scope.excludedDirs.contains

/-- What is decided about a path. -/
inductive Verdict where
  | selected
  | skipped
  | tooLarge (limit : Int)
  /-- The size could not be asked for. -/
  | sizeUnknown (error : OsError)
deriving DecidableEq

/-- The decision about a path, given how sizes are asked for. -/
def judge (scope : Scope) (site : Site) (size : Path → Except OsError Nat) (path : Path) :
    Except OsError Verdict :=
  if !scope.globs.any (Glob.admits · path.name) then .ok .skipped
  else match site.isFile path with
    | .error error => .error error
    | .ok false => .ok .skipped
    | .ok true =>
      if scope.excludesDir path then .ok .skipped
      else match scope.sizeLimit with
        | none => .ok .selected
        | some limit =>
          match size path with
          | .error error => .ok (.sizeUnknown error)
          | .ok bytes => .ok (if limit < bytes then .tooLarge limit else .selected)

/-- What the journal tells of a decision. -/
def Verdict.record? (path : Path) : Verdict → Option (Record FileFault)
  | .selected => none
  | .skipped => none
  | .tooLarge limit => some (.plain .debug .sweep
      ("Skipping " ++ path.text ++ ": larger than " ++ Text.ofInt limit ++ " bytes"))
  | .sizeUnknown error => some (.plain .warning .sweep
      ("Unable to stat " ++ path.text ++ ": " ++ error.message))

/-- What is in the way of a selection. -/
inductive Obstacle where
  /-- The system refuses to answer about a path. -/
  | os (error : OsError)
  /-- A directory lies too deep for the program. -/
  | tooDeep
deriving DecidableEq

/-- The message of an obstacle. -/
def Obstacle.message : Obstacle → Text
  | .os error => error.message
  | .tooDeep => "maximum recursion depth exceeded"

/-- How many directories down from the root a path leads. -/
def depth (scope : Scope) (path : Path) : Nat := path.names.length - scope.root.names.length

/-- Whether there is a directory at a path below the root, when the program goes down into it. -/
def enter (scope : Scope) (site : Site) (path : Path) : Except Obstacle Bool :=
  if site.levels < scope.depth path then .error .tooDeep
  else (site.isDir path).mapError .os

/-- Whether the directory at a path below the root shows what it holds. -/
def lists (scope : Scope) (site : Site) (path : Path) : Bool :=
  match scope.enter site path with
  | .ok isDirectory => isDirectory
  | .error _ => false

/-- What lies below the root, in the order of the tree: paths and nodes. A directory that cannot be
entered keeps what it holds to itself. -/
def candidates (scope : Scope) (site : Site) : Except OsError (List (Path × Node)) :=
  if scope.root.hasNul then .ok []
  else match site.land scope.root with
    | .ok (.directory location) =>
      .ok (((site.tree.below location).filter fun found =>
        scope.lists site (scope.root.below found.1.dropLast)).map fun found =>
          (scope.root.below found.1, found.2))
    | .ok _ => .ok []
    | .error cause => (Site.absent scope.root cause).map fun _ => []

/-- Faults at the first directory that cannot be entered. -/
def listAll (scope : Scope) (site : Site) : List (Path × Node) → Except Obstacle Unit
  | [] => .ok ()
  | (path, node) :: rest => do
    if node = .directory then
      let _ ← scope.enter site path
    listAll scope site rest

/-- Files to inspect, and what the journal tells of the choice. -/
structure Selection where
  targets : List Target
  journal : List (Record FileFault)

/-- The file of a path as a target. -/
def target (path : Path) : Target := (path.key, path)

/-- The selection among paths. -/
def selectFrom (scope : Scope) (site : Site) (size : Path → Except OsError Nat) :
    List Path → Except OsError Selection
  | [] => .ok ⟨[], []⟩
  | path :: rest => do
    let verdict ← scope.judge site size path
    let others ← selectFrom scope site size rest
    return ⟨if verdict = .selected then target path :: others.targets else others.targets,
      (verdict.record? path).toList ++ others.journal⟩

/-- The selection among all that lies below the root. Every directory there has to be entered. -/
def select (scope : Scope) (site : Site) (size : Path → Except OsError Nat) :
    Except Obstacle Selection := do
  let found ← (scope.candidates site).mapError .os
  let selection ← (scope.selectFrom site size (found.map (·.1))).mapError .os
  scope.listAll site found
  return selection

end Scope

end HangulLint
