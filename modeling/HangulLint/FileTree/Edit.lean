import HangulLint.FileTree.Site

/-!
# Building a tree

Trees grow by paths: the directories on the way are made as they are needed, and links on the way
are followed. An edit that the system would refuse leaves the site as it is.

* `Site.makeDir`, `Site.putFile`, `Site.putLink` — something at a path;
* `Site.remove` — what is at a path, and all that lies below it.
-/

namespace HangulLint.Site

/-- The site with a directory at each of the names in turn, and the location of the last. -/
def makeDirs (site : Site) (place : Location) : List Text → Option (Site × Location)
  | [] => some (site, place)
  | name :: rest =>
    match site.tree.walk maxLinks place [name] with
    | .ok (.directory location) => makeDirs site location rest
    | .ok (.vacant location) =>
      if h : site.tree.Admits location then
        makeDirs { site with tree := site.tree.insert location .directory h } location rest
      else none
    | _ => none

/-- The site with a directory at a path. -/
def makeDir (site : Site) (path : Path) : Site :=
  match site.makeDirs (site.start path.origin) path.names with
  | some (grown, _) => grown
  | none => site

/-- The site with the directory that a path lies in. -/
def makeParent (site : Site) (path : Path) : Site :=
  site.makeDir ⟨path.origin, path.names.dropLast⟩

/-- The site with a file at a path. -/
def putFile (site : Site) (path : Path) (bytes : List UInt8) : Site :=
  match (site.makeParent path).write path bytes with
  | .ok changed => changed
  | .error _ => site

/-- The location of a path itself, where a link that its last name may be is not followed. -/
def ownLocation (site : Site) (path : Path) : Option Location :=
  match site.land ⟨path.origin, path.names.dropLast⟩ with
  | .ok (.directory location) => some (location ++ path.names.getLast?.toList)
  | _ => none

/-- The site with a link at a path. -/
def putLink (site : Site) (path : Path) (target : Text) : Site :=
  let grown := site.makeParent path
  match grown.ownLocation path with
  | none => site
  | some location =>
    if h : grown.tree.Admits location then
      { grown with tree := grown.tree.insert location (.link target) h }
    else site

/-- The site without what is at a path. -/
def remove (site : Site) (path : Path) : Site :=
  match site.ownLocation path with
  | none => site
  | some location => { site with tree := site.tree.remove location }

end HangulLint.Site
