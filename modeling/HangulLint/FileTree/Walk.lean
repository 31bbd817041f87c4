import HangulLint.FileTree.Basic

/-!
# Following names through a tree

Names are followed one at a time. A link is followed where it is met: the pieces of its target
take its place among the names still to come, from the root directory on if the target begins
with a slash. Two dots lead to the directory that holds the one reached so far, which after a link
need not be the one that the path names.

* `FileTree.walk` — where names lead, or why they lead nowhere;
* `FileTree.settle` — the same place without links, for names that need not exist.
-/

namespace HangulLint

/-- Why the system refuses a path. -/
inductive OsCause where
  | notFound
  | notDirectory
  | isDirectory
  | nameTooLong
  | tooManyLinks
deriving DecidableEq

/-- Where names lead. -/
inductive Landing where
  | file (location : Location) (bytes : List UInt8)
  | directory (location : Location)
  /-- Nothing is there yet, in a directory that exists. -/
  | vacant (location : Location)
deriving DecidableEq

namespace FileTree

/-- Where the target of a link starts. -/
def linkStart (target : Text) (place : Location) : Location :=
  if target.head? = some Path.slash then [] else place

/-- Where names lead from a directory. At most `links` links are followed on the way. -/
def walk (tree : FileTree) (links : Nat) (place : Location) (names : List Text) :
    Except OsCause Landing :=
  match names with
  | [] => .ok (.directory place)
  | name :: rest =>
    if !Path.isStep name then walk tree links place rest
    else if name = Path.parentName then walk tree links place.dropLast rest
    else if maxNameBytes < (Utf8.bytesOfName name).length then .error .nameTooLong
    else
      match tree.node? (place ++ [name]) with
      | none => if rest.isEmpty then .ok (.vacant (place ++ [name])) else .error .notFound
      | some .directory => walk tree links (place ++ [name]) rest
      | some (.file bytes) =>
        if rest.isEmpty then .ok (.file (place ++ [name]) bytes) else .error .notDirectory
      | some (.link target) =>
        match links with
        | 0 => .error .tooManyLinks
        | links + 1 =>
          walk tree links (linkStart target place) (pieces Path.slash target ++ rest)
termination_by (links, names.length)

/-- The place reached from a place by names alone, without a look at the tree. -/
def lexical (place : Location) (names : List Text) : Location :=
  names.foldl
    (fun reached name =>
      if !Path.isStep name then reached
      else if name = Path.parentName then reached.dropLast
      else reached ++ [name])
    place

/-- The place that names lead to, with every link on the way replaced by its target; what does not
exist is passed as it is. The flag is false where a link leads to itself; the names behind it are
then followed by themselves alone. `pending` holds the links being followed and `depth` bounds their
number. -/
def settle (tree : FileTree) (depth : Nat) (pending : List Location) (place : Location)
    (names : List Text) : Location × Bool :=
  match names with
  | [] => (place, true)
  | name :: rest =>
    if !Path.isStep name then settle tree depth pending place rest
    else if name = Path.parentName then settle tree depth pending place.dropLast rest
    else
      let there := place ++ [name]
      match tree.node? there with
      | some (.link target) =>
        match depth with
        | 0 => (lexical there rest, false)
        | depth + 1 =>
          if pending.contains there then (lexical there rest, false)
          else
            let (reached, whole) := settle tree depth (there :: pending) (linkStart target place)
              (pieces Path.slash target)
            if whole then settle tree (depth + 1) pending reached rest
            else (lexical reached rest, false)
      | _ => settle tree depth pending there rest
termination_by (depth, names.length)

end FileTree

end HangulLint
