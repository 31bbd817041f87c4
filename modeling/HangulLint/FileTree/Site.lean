import HangulLint.FileTree.Walk
import HangulLint.Text.Quoted

/-!
# A tree and a place to stand

Paths mean something only together with the directory in which the program runs. A site is both,
and answers what the system answers about a path. It also tells how deep the program can go: it goes
down into directories one call inside of the other, and for that its stack has to suffice.

* `Site.read`, `Site.size`, `Site.isDir`, `Site.isFile` — the questions;
* `Site.write` — the one change that the program makes;
* `Site.resolve` — a path without links.
-/

namespace HangulLint

/-- The system's number for a cause. -/
def OsCause.number : OsCause → Nat
  | .notFound => 2
  | .notDirectory => 20
  | .isDirectory => 21
  | .nameTooLong => 36
  | .tooManyLinks => 40

/-- The system's words for a cause. -/
def OsCause.text : OsCause → Text
  | .notFound => "No such file or directory"
  | .notDirectory => "Not a directory"
  | .isDirectory => "Is a directory"
  | .nameTooLong => "File name too long"
  | .tooManyLinks => "Too many levels of symbolic links"

/-- A refusal by the system and the path that it concerns. -/
structure OsError where
  cause : OsCause
  path : Text
deriving DecidableEq

/-- The message of a refusal. -/
def OsError.message (error : OsError) : Text :=
  "[Errno " ++ Text.ofNat error.cause.number ++ "] " ++ error.cause.text ++ ": "
    ++ Text.quoted error.path

/-- Why a file cannot be opened. -/
inductive OpenFault where
  | os (error : OsError)
  /-- The path holds a zero character. -/
  | nul
deriving DecidableEq

/-- The message of a fault. -/
def OpenFault.message : OpenFault → Text
  | .os error => error.message
  | .nul => "embedded null byte"

/-- A file tree, the directory in which the program runs, and how deep the program can go. -/
structure Site where
  tree : FileTree
  cwd : Location
  /-- The most directories, each in the one before, that are gone down into below a directory. -/
  levels : Nat

/-- How deep the program can go on a stack for a thousand calls, of which some are taken. -/
def standardLevels : Nat := 988

/-- The most links that the system follows for one path. -/
def maxLinks : Nat := 40

/-- The least number of bytes that is too long for a path. -/
def pathBytesLimit : Nat := 4096

namespace Site

/-- The location at which a path starts. -/
def start (site : Site) : Origin → Location
  | .here => site.cwd
  | _ => []

/-- Where a path leads. -/
def land (site : Site) (path : Path) : Except OsCause Landing :=
  if pathBytesLimit ≤ (Utf8.bytesOfName path.text).length then .error .nameTooLong
  else site.tree.walk maxLinks (site.start path.origin) path.names

/-- The bytes of the file at a path. -/
def read (site : Site) (path : Path) : Except OpenFault (List UInt8) :=
  if path.hasNul then .error .nul
  else match site.land path with
    | .ok (.file _ bytes) => .ok bytes
    | .ok (.directory _) => .error (.os ⟨.isDirectory, path.text⟩)
    | .ok (.vacant _) => .error (.os ⟨.notFound, path.text⟩)
    | .error cause => .error (.os ⟨cause, path.text⟩)

/-- What a test on a path answers where it leads nowhere: no, unless the path could not even be
asked about. -/
def absent (path : Path) : OsCause → Except OsError Bool
  | .nameTooLong => .error ⟨.nameTooLong, path.text⟩
  | _ => .ok false

/-- Whether a path leads to a directory. -/
def isDir (site : Site) (path : Path) : Except OsError Bool :=
  if path.hasNul then .ok false
  else match site.land path with
    | .ok (.directory _) => .ok true
    | .ok _ => .ok false
    | .error cause => absent path cause

/-- Whether a path leads to a file. -/
def isFile (site : Site) (path : Path) : Except OsError Bool :=
  if path.hasNul then .ok false
  else match site.land path with
    | .ok (.file _ _) => .ok true
    | .ok _ => .ok false
    | .error cause => absent path cause

/-- The number of bytes of the file at a path. -/
def size (site : Site) (path : Path) : Except OsError Nat :=
  match site.land path with
  | .ok (.file _ bytes) => .ok bytes.length
  | .ok (.directory _) => .ok 0
  | .ok (.vacant _) => .error ⟨.notFound, path.text⟩
  | .error cause => .error ⟨cause, path.text⟩

/-- The site in which the file at a path has these bytes; the file is made if nothing is there. -/
def write (site : Site) (path : Path) (bytes : List UInt8) : Except OpenFault Site :=
  if path.hasNul then .error .nul
  else match site.land path with
    | .ok (.file location _) => .ok { site with tree := site.tree.setBytes location bytes }
    | .ok (.vacant location) =>
      if h : site.tree.Admits location then
        .ok { site with tree := site.tree.insert location (.file bytes) h }
      else .error (.os ⟨.notFound, path.text⟩)
    | .ok (.directory _) => .error (.os ⟨.isDirectory, path.text⟩)
    | .error cause => .error (.os ⟨cause, path.text⟩)

/-- The path of a location, from the root directory on. -/
def pathOf (location : Location) : Path := ⟨.root, location⟩

/-- The path of the directory in which the program runs. -/
def cwdPath (site : Site) : Path := pathOf site.cwd

/-- Why a path cannot be resolved. -/
inductive ResolveFault where
  /-- A link leads to itself. -/
  | loop (path : Path)
  /-- The path holds a zero character. -/
  | nul
deriving DecidableEq

/-- The message of a fault. -/
def ResolveFault.message : ResolveFault → Text
  | .loop path => "Symlink loop from " ++ Text.quoted path.text
  | .nul => "embedded null byte"

/-- The path that starts at the root directory and goes through no link. What does not exist stays
as it is. -/
def resolve (site : Site) (path : Path) : Except ResolveFault Path :=
  if path.hasNul then .error .nul
  else
    let (location, _) := site.tree.settle (site.tree.entries.length + 1) []
      (site.start path.origin) path.names
    match site.land (pathOf location) with
    | .error .tooManyLinks => .error (.loop (pathOf location))
    | _ => .ok (pathOf location)

end Site

end HangulLint
