import HangulLint.FileTree.Edit
import HangulLint.Proofs.Following
import HangulLint.Proofs.Schedule

/-!
# A tree without one of its files

A file, or a link to one, is taken out of the tree. Nothing lies below it, so everything else stays
where it is, and names that do not lead over its place lead where they have led. Names that do have
led to the file behind it or nowhere, and now they lead nowhere (`FileTree.walk_remove`). The other
paths below the root lead over that place only through a link that resolves to the file; where
there is none, they answer every question as before, and a sweep selects the other files and finds
the same in them.

* `FileTree.LeadsToFile` — what is taken out;
* `FileTree.walk_remove` — where names lead without it;
* `Site.SoleWay` — no other link resolves to the file at a path;
* `Scope.Member.remove_eq` — what is asked of the other paths has the same answer;
* `Scope.Member.select_remove`, `Settings.job_without` — the selection, and what comes of the files.
-/

namespace HangulLint

namespace FileTree

variable {tree : FileTree} {own other location : Location} {bytes : List UInt8} {links : Nat}
  {place : Location} {names : List Text}

/-- Something in the tree is a file once links are followed. -/
structure LeadsToFile (tree : FileTree) (own location : Location) (bytes : List UInt8) : Prop where
  member : own ∈ tree.entries.map (·.1)
  leads : tree.walk maxLinks [] own = .ok (.file location bytes)

theorem LeadsToFile.ne_nil (h : tree.LeadsToFile own location bytes) : own ≠ [] := by
  obtain ⟨entry, hentry, rfl⟩ := List.mem_map.1 h.member
  exact (tree.housed entry hentry).1

theorem LeadsToFile.node?_ne_none (h : tree.LeadsToFile own location bytes) :
    tree.node? own ≠ none := by
  rw [node?, if_neg h.ne_nil, ne_eq, lookup_eq_none]
  exact not_not.2 h.member

/-- It is no directory. -/
theorem LeadsToFile.directory_notMem (h : tree.LeadsToFile own location bytes) :
    (own, Node.directory) ∉ tree.entries := by
  intro hentry
  -- the names of a directory lead to it
  have hwalk : tree.walk maxLinks [] own = .ok (.directory ([] ++ own)) := by
    refine walk_directories maxLinks fun before hbefore hne => ?_
    by_cases howned : before = own
    · rw [howned]
      exact hentry
    · exact directory_of_isPrefix hentry before hbefore hne howned
  exact absurd (h.leads.symm.trans hwalk) (by simp)

/-- Only its own entry is taken out with it. -/
theorem LeadsToFile.entries_remove (h : tree.LeadsToFile own location bytes) :
    (tree.remove own).entries = tree.entries.filter (·.1 ≠ own) := by
  refine List.filter_congr fun entry hentry => ?_
  rw [Bool.eq_iff_iff, Bool.not_eq_true', Bool.eq_false_iff, ne_eq, List.isPrefixOf_iff_prefix,
    decide_eq_true_iff, not_iff_not]
  refine ⟨fun hprefix => ?_, fun heq => heq ▸ List.prefix_refl _⟩
  by_contra hne
  -- what lies below something lies in a directory
  have hbelow : ([] ++ entry.1, entry.2) ∈ tree.entries := hentry
  exact h.directory_notMem (directory_of_isPrefix hbelow own hprefix h.ne_nil (Ne.symm hne))

theorem LeadsToFile.mem_remove (h : tree.LeadsToFile own location bytes) {node : Node} :
    (other, node) ∈ (tree.remove own).entries ↔ (other, node) ∈ tree.entries ∧ other ≠ own := by
  rw [h.entries_remove, List.mem_filter, decide_eq_true_iff]

theorem LeadsToFile.node?_remove_self (h : tree.LeadsToFile own location bytes) :
    (tree.remove own).node? own = none := by
  rw [node?, if_neg h.ne_nil, lookup_eq_none, h.entries_remove]
  simp

theorem LeadsToFile.node?_remove_of_ne (h : tree.LeadsToFile own location bytes)
    (hother : other ≠ own) : (tree.remove own).node? other = tree.node? other := by
  by_cases hne : other = []
  · simp [node?, hne]
  · refine Option.ext fun node => ?_
    rw [node?_eq_some hne, node?_eq_some hne, h.mem_remove, and_iff_left hother]

/-- Its own names lead to it from the directory that it lies in. -/
theorem LeadsToFile.walk_last {name : Text}
    (h : tree.LeadsToFile (place ++ [name]) location bytes) :
    tree.walk maxLinks place [name] = .ok (.file location bytes) := by
  obtain ⟨entry, hentry, hplace⟩ := List.mem_map.1 h.member
  have hbelow : ([] ++ (place ++ [name]), entry.2) ∈ tree.entries := by
    rw [List.nil_append, ← hplace]
    exact hentry
  exact (walk_entry hbelow maxLinks).symm.trans h.leads

/-- A file leads to itself. -/
theorem LeadsToFile.of_file {name : Text} {old : List UInt8}
    (h : tree.LeadsToFile (place ++ [name]) location bytes)
    (hnode : tree.node? (place ++ [name]) = some (.file old)) :
    location = place ++ [name] ∧ bytes = old := by
  have hwalk := walk_file ((node?_eq_some (by simp)).1 hnode) maxLinks
  simpa using h.walk_last.symm.trans hwalk

/-- A link leads where its target leads. -/
theorem LeadsToFile.of_link {name target : Text}
    (h : tree.LeadsToFile (place ++ [name]) location bytes)
    (hnode : tree.node? (place ++ [name]) = some (.link target)) :
    tree.walk (maxLinks - 1) (linkStart target place) (pieces Path.slash target) =
      .ok (.file location bytes) :=
  (walk_link ((node?_eq_some (by simp)).1 hnode) (maxLinks - 1)).symm.trans h.walk_last

/-- Names have led to a file, or nowhere. -/
def Blocked (location : Location) (bytes : List UInt8) (answer : Except OsCause Landing) : Prop :=
  answer = .ok (.file location bytes) ∨ answer = .error .notDirectory ∨
    answer = .error .tooManyLinks

/-- Nothing is where names lead. -/
def Nowhere (answer : Except OsCause Landing) : Prop :=
  answer = .error .notFound ∨ ∃ location, answer = .ok (.vacant location)

/-- Names that lead over a file have led to it, or nowhere for what comes behind it. -/
theorem LeadsToFile.blocked_link {name target : Text}
    (h : tree.LeadsToFile (place ++ [name]) location bytes)
    (hnode : tree.node? (place ++ [name]) = some (.link target)) (hlinks : links + 1 ≤ maxLinks)
    (rest : List Text) :
    Blocked location bytes
      (tree.walk links (linkStart target place) (pieces Path.slash target ++ rest)) := by
  have hless : links ≤ maxLinks - 1 := Nat.le_sub_one_of_lt hlinks
  have hlinks' : tree.walk links (linkStart target place) (pieces Path.slash target) =
        .error .tooManyLinks ∨
      tree.walk (maxLinks - 1) (linkStart target place) (pieces Path.slash target) =
        tree.walk links (linkStart target place) (pieces Path.slash target) := walk_links hless
  rcases hlinks' with hfew | hsame
  · -- too few links are left for the target
    exact .inr (.inr (walk_append_of_error hfew rest))
  · have hwalk := hsame.symm.trans (h.of_link hnode)
    cases rest with
    | nil => exact .inl (by rw [List.append_nil, hwalk])
    | cons next rest => exact .inr (.inl (walk_append_of_file hwalk (by simp)))

/-- Nothing is at the place of what has been taken out, and no names lead on from there. -/
theorem LeadsToFile.nowhere_remove {name : Text}
    (h : tree.LeadsToFile (place ++ [name]) location bytes) (hstep : ¬(!Path.isStep name) = true)
    (hparent : ¬name = Path.parentName)
    (hlength : ¬maxNameBytes < (Utf8.bytesOfName name).length) (links : Nat) (rest : List Text) :
    Nowhere ((tree.remove (place ++ [name])).walk links place (name :: rest)) := by
  rw [walk_name hstep hparent hlength, h.node?_remove_self]
  cases rest with
  | nil => exact .inr ⟨place ++ [name], rfl⟩
  | cons next rest => exact .inl rfl

/-- **Names in the tree without the file.** They lead where they have led, or over the place of the
file: there they have led to the file or nowhere, and now they lead nowhere. -/
theorem LeadsToFile.walk_remove (h : tree.LeadsToFile own location bytes)
    (hlinks : links ≤ maxLinks) (place : Location) (names : List Text) :
    (tree.remove own).walk links place names = tree.walk links place names ∨
      Blocked location bytes (tree.walk links place names) ∧
        Nowhere ((tree.remove own).walk links place names) := by
  -- along the walk in the tree as it was: the two part where the place of the file comes up
  fun_induction walk tree links place names with
  | case1 => exact .inl (by rw [walk])
  | case2 links place name rest hstep ih =>
    rw [walk, if_pos hstep]
    exact ih hlinks
  | case3 links place rest hstep ih =>
    rw [walk, if_neg hstep, if_pos rfl]
    exact ih hlinks
  | case4 links place name rest hstep hparent hlength =>
    rw [walk, if_neg hstep, if_neg hparent, if_pos hlength]
    exact .inl rfl
  | case7 links place name rest hstep hparent hlength hnode ih =>
    -- the way goes on through a directory, which is not what has been taken out
    have hother : place ++ [name] ≠ own := by
      rintro rfl
      exact h.directory_notMem ((node?_eq_some (by simp)).1 hnode)
    rw [walk_name hstep hparent hlength, h.node?_remove_of_ne hother, hnode]
    exact ih hlinks
  | case8 links place name rest hstep hparent hlength old hnode hrest =>
    -- a file where the names end
    by_cases hown : place ++ [name] = own
    · subst hown
      obtain ⟨rfl, rfl⟩ := h.of_file hnode
      exact .inr ⟨.inl rfl, h.nowhere_remove hstep hparent hlength links rest⟩
    · left
      rw [walk_name hstep hparent hlength, h.node?_remove_of_ne hown, hnode]
      simp [hrest]
  | case9 links place name rest hstep hparent hlength old hnode hrest =>
    -- a file with names behind it
    by_cases hown : place ++ [name] = own
    · subst hown
      exact .inr ⟨.inr (.inl rfl), h.nowhere_remove hstep hparent hlength links rest⟩
    · left
      rw [walk_name hstep hparent hlength, h.node?_remove_of_ne hown, hnode]
      simp [hrest]
  | case10 place name rest hstep hparent hlength target hnode =>
    -- a link, and none may be followed any more
    by_cases hown : place ++ [name] = own
    · subst hown
      exact .inr ⟨.inr (.inr rfl), h.nowhere_remove hstep hparent hlength 0 rest⟩
    · left
      rw [walk_name hstep hparent hlength, h.node?_remove_of_ne hown, hnode]
  | case11 place name rest hstep hparent hlength target hnode links ih =>
    -- a link that is followed, to the file if it is the one that has been taken out
    by_cases hown : place ++ [name] = own
    · subst hown
      exact .inr ⟨h.blocked_link hnode hlinks rest,
        h.nowhere_remove hstep hparent hlength (links + 1) rest⟩
    · rw [walk_name hstep hparent hlength, h.node?_remove_of_ne hown, hnode]
      exact ih (Nat.le_of_succ_le hlinks)
  | case5 links place name rest hstep hparent hlength hnode hrest
  | case6 links place name rest hstep hparent hlength hnode hrest =>
    -- where nothing was, nothing has been taken out
    have hother : place ++ [name] ≠ own := by
      rintro rfl
      exact h.node?_ne_none hnode
    left
    rw [walk_name hstep hparent hlength, h.node?_remove_of_ne hother, hnode]
    simp [hrest]

end FileTree

namespace Site

variable {site : Site} {path : Path} {location : Location} {bytes : List UInt8}

/-- No link resolves to the file that a path leads to, except for what is at the path itself. -/
def SoleWay (site : Site) (path : Path) : Prop :=
  ∀ place target location bytes, (place, Node.link target) ∈ site.tree.entries →
    site.ownLocation path ≠ some place → site.land path = .ok (.file location bytes) →
      site.tree.walk maxLinks [] place ≠ .ok (.file location bytes)

end Site

namespace Scope

variable {scope : Scope} {site : Site} {location there : Location} {names : List Text}
  {bytes : List UInt8} {size : Path → Except OsError Nat}

/-- The names of the root lead to its location, and what lies below it is reached from the
directory that it lies in. -/
theorem exists_walk_below (hland : site.land scope.root = .ok (.directory location)) :
    ∃ left ≤ maxLinks, ∀ before last node,
      (location ++ (before ++ [last]), node) ∈ site.tree.entries →
      site.tree.walk maxLinks (site.start scope.root.origin)
        (scope.root.names ++ (before ++ [last])) =
          site.tree.walk left (location ++ before) [last] := by
  obtain ⟨left, hleft, hrest⟩ := FileTree.walk_append (Site.land_ok hland).2
  exact ⟨left, hleft, fun before last node hentry =>
    (hrest _).trans (FileTree.walk_entry hentry left)⟩

/-- What a path below the root resolves to, the place of the path resolves to. -/
theorem leadsToFile_below (hland : site.land scope.root = .ok (.directory location))
    (hproper : names ≠ []) {node : Node} (hentry : (location ++ names, node) ∈ site.tree.entries)
    (hfile : site.land (scope.root.below names) = .ok (.file there bytes)) :
    site.tree.LeadsToFile (location ++ names) there bytes := by
  refine ⟨List.mem_map.2 ⟨_, hentry, rfl⟩, ?_⟩
  obtain ⟨before, last, rfl⟩ := (List.eq_nil_or_concat' names).resolve_left hproper
  obtain ⟨left, hleft, hwalk⟩ := exists_walk_below hland
  -- what the names of the root leave of the links is enough for its own name
  have hlast : site.tree.walk left (location ++ before) [last] = .ok (.file there bytes) :=
    (hwalk before last node hentry).symm.trans (Site.land_ok hfile).2
  have hbelow : ([] ++ ((location ++ before) ++ [last]), node) ∈ site.tree.entries := by
    simpa using hentry
  have hown : site.tree.walk maxLinks [] ((location ++ before) ++ [last]) =
      site.tree.walk maxLinks (location ++ before) [last] := FileTree.walk_entry hbelow maxLinks
  rw [← List.append_assoc, hown]
  rcases FileTree.walk_links hleft with hfew | hsame
  · exact absurd (hfew.symm.trans hlast) (by simp)
  · exact hsame.trans hlast

/-- **A file below the root.** It is reached by these names, and by no other link. -/
structure Member (scope : Scope) (site : Site) (location : Location) (names : List Text)
    (there : Location) (bytes : List UInt8) : Prop where
  isDir : site.isDir scope.root = .ok true
  land : site.land scope.root = .ok (.directory location)
  proper : names ≠ []
  below : ∃ node, (location ++ names, node) ∈ site.tree.entries
  file : site.land (scope.root.below names) = .ok (.file there bytes)
  sole : site.SoleWay (scope.root.below names)

namespace Member

variable (h : scope.Member site location names there bytes)
include h

theorem leadsToFile : site.tree.LeadsToFile (location ++ names) there bytes := by
  obtain ⟨node, hentry⟩ := h.below
  exact leadsToFile_below h.land h.proper hentry h.file

theorem ownLocation : site.ownLocation (scope.root.below names) = some (location ++ names) := by
  obtain ⟨before, last, rfl⟩ := (List.eq_nil_or_concat' names).resolve_left h.proper
  obtain ⟨node, hentry⟩ := h.below
  have hchild : (scope.root.below before).child last = scope.root.below (before ++ [last]) := by
    simp [Path.child, Path.below]
  have hfile := h.file
  rw [← hchild] at hfile
  -- the directory that it lies in is where the names before the last one lead
  obtain ⟨parent, hparent, -⟩ := Site.land_of_child hfile
  have hdirectory := walk_below_directories h.land (FileTree.directory_of_parent hentry)
  obtain rfl : location ++ before = parent := by
    simpa using hdirectory.symm.trans (Site.land_ok hparent).2
  have hparentPath : (⟨(scope.root.below (before ++ [last])).origin,
      (scope.root.below (before ++ [last])).names.dropLast⟩ : Path) = scope.root.below before := by
    simp [Path.below, ← List.append_assoc]
  rw [Site.ownLocation, hparentPath, hparent]
  simp [Path.below, ← List.append_assoc]

theorem remove_eq : site.remove (scope.root.below names) =
    { site with tree := site.tree.remove (location ++ names) } := by
  rw [Site.remove, h.ownLocation]

theorem mem_remove {other : Location} {node : Node} :
    (other, node) ∈ (site.remove (scope.root.below names)).tree.entries ↔
      (other, node) ∈ site.tree.entries ∧ other ≠ location ++ names := by
  rw [h.remove_eq]
  exact h.leadsToFile.mem_remove

/-- Where paths lead without the file. -/
theorem land_remove (path : Path) :
    (site.remove (scope.root.below names)).land path = site.land path ∨
      FileTree.Blocked there bytes (site.land path) ∧
        FileTree.Nowhere ((site.remove (scope.root.below names)).land path) := by
  rw [h.remove_eq, Site.land, Site.land]
  have hstart : ({ site with tree := site.tree.remove (location ++ names) } : Site).start
      path.origin = site.start path.origin := by
    cases path.origin <;> rfl
  rw [hstart]
  split
  · exact .inl rfl
  · exact h.leadsToFile.walk_remove (Nat.le_refl _) _ _

theorem land_root :
    (site.remove (scope.root.below names)).land scope.root = .ok (.directory location) := by
  rcases h.land_remove scope.root with hsame | ⟨hblocked, -⟩
  · exact hsame.trans h.land
  · exact absurd hblocked (by simp [FileTree.Blocked, h.land])

variable {others : List Text} {node : Node} (hproper : others ≠ []) (hothers : others ≠ names)
  (hentry : (location ++ others, node) ∈ site.tree.entries)
include hproper hothers hentry

/-- The other paths below the root do not lead to the file. -/
theorem land_ne_file (hnowhere : FileTree.Nowhere
      ((site.remove (scope.root.below names)).land (scope.root.below others))) :
    site.land (scope.root.below others) ≠ .ok (.file there bytes) := by
  intro hfile
  have hother : location ++ others ≠ location ++ names := fun heq =>
    hothers (List.append_cancel_left heq)
  cases node with
  | link target =>
    -- a link that leads to the file is at the place of the file
    have howned : site.ownLocation (scope.root.below names) ≠ some (location ++ others) := by
      rw [h.ownLocation]
      exact fun heq => hother (Option.some.inj heq).symm
    exact h.sole _ target there bytes hentry howned h.file
      (leadsToFile_below h.land hproper hentry hfile).leads
  | directory =>
    exact (leadsToFile_below h.land hproper hentry hfile).directory_notMem hentry
  | file old =>
    -- another file is still where it was
    obtain ⟨before, last, rfl⟩ := (List.eq_nil_or_concat' others).resolve_left hproper
    have hentry' := h.mem_remove.2 ⟨hentry, hother⟩
    obtain ⟨left, -, hwalk⟩ := exists_walk_below h.land_root
    have hland : (site.remove (scope.root.below names)).land
        (scope.root.below (before ++ [last])) =
          .ok (.file (location ++ before ++ [last]) old) := by
      rw [Site.land, if_neg (Site.land_ok hfile).1]
      exact (hwalk before last _ hentry').trans (FileTree.walk_file (by simpa using hentry') left)
    rw [hland] at hnowhere
    exact absurd hnowhere (by simp [FileTree.Nowhere])

/-- The other paths below the root lead where they have led, or nowhere before and after. -/
theorem land_other :
    (site.remove (scope.root.below names)).land (scope.root.below others) =
        site.land (scope.root.below others) ∨
      (∃ cause ≠ .nameTooLong, site.land (scope.root.below others) = .error cause) ∧
        FileTree.Nowhere
          ((site.remove (scope.root.below names)).land (scope.root.below others)) := by
  rcases h.land_remove (scope.root.below others) with hsame | ⟨hblocked, hnowhere⟩
  · exact .inl hsame
  · rcases hblocked with hfile | hfault | hfault
    · exact absurd hfile (h.land_ne_file hproper hothers hentry hnowhere)
    · exact .inr ⟨⟨.notDirectory, by simp, hfault⟩, hnowhere⟩
    · exact .inr ⟨⟨.tooManyLinks, by simp, hfault⟩, hnowhere⟩

theorem isDir_remove : (site.remove (scope.root.below names)).isDir (scope.root.below others) =
    site.isDir (scope.root.below others) := by
  rw [Site.isDir, Site.isDir]
  rcases h.land_other hproper hothers hentry with hsame | ⟨⟨cause, hcause, hfault⟩, hnowhere⟩
  · rw [hsame]
  · rw [hfault]
    rcases hnowhere with hnone | ⟨place, hnone⟩ <;> rw [hnone] <;>
      cases cause <;> simp_all [Site.absent]

theorem isFile_remove : (site.remove (scope.root.below names)).isFile (scope.root.below others) =
    site.isFile (scope.root.below others) := by
  rw [Site.isFile, Site.isFile]
  rcases h.land_other hproper hothers hentry with hsame | ⟨⟨cause, hcause, hfault⟩, hnowhere⟩
  · rw [hsame]
  · rw [hfault]
    rcases hnowhere with hnone | ⟨place, hnone⟩ <;> rw [hnone] <;>
      cases cause <;> simp_all [Site.absent]

theorem read_remove (hfile : site.isFile (scope.root.below others) = .ok true) :
    (site.remove (scope.root.below names)).read (scope.root.below others) =
      site.read (scope.root.below others) := by
  rcases h.land_other hproper hothers hentry with hsame | ⟨⟨cause, hcause, hfault⟩, hnowhere⟩
  · rw [Site.read, Site.read, hsame]
  · -- a path that leads nowhere is no file's
    rw [Site.isFile, hfault] at hfile
    cases cause <;> simp_all [Site.absent]

omit hproper hothers hentry

/-! ### The selection without the file -/

theorem below_remove : (site.remove (scope.root.below names)).tree.below location =
    (site.tree.below location).filter (·.1 ≠ names) := by
  rw [h.remove_eq, FileTree.below, FileTree.below, h.leadsToFile.entries_remove,
    List.filterMap_filter, List.filter_filterMap]
  refine List.filterMap_congr fun entry _ => ?_
  by_cases hbelow :
      (location.isPrefixOf entry.1 && decide (entry.1.length > location.length)) = true
  · obtain ⟨names', hnames'⟩ : location <+: entry.1 := by
      simp only [Bool.and_eq_true, List.isPrefixOf_iff_prefix] at hbelow
      exact hbelow.1
    rw [if_pos hbelow]
    by_cases howned : names' = names <;> simp [← hnames', howned, Option.filter_some]
  · rw [if_neg hbelow]
    simp

theorem isDir_root : (site.remove (scope.root.below names)).isDir scope.root = .ok true := by
  rw [Site.isDir, if_neg (by simp [(land_of_isDir h.isDir).1]), h.land_root]

theorem levels_remove : (site.remove (scope.root.below names)).levels = site.levels := by
  rw [h.remove_eq]

theorem lists_remove {entry : List Text × Node} (hentry : entry ∈ site.tree.below location) :
    scope.lists (site.remove (scope.root.below names)) (scope.root.below entry.1.dropLast) =
      scope.lists site (scope.root.below entry.1.dropLast) := by
  obtain ⟨hproper, hmem⟩ := FileTree.mem_below.1 hentry
  obtain ⟨before, last, hnames⟩ := (List.eq_nil_or_concat' entry.1).resolve_left hproper
  rw [hnames] at hmem ⊢
  rw [List.dropLast_concat]
  refine lists_congr h.levels_remove ?_
  by_cases hroot : before = []
  · -- it lies in the root itself
    have hself : scope.root.below before = scope.root := by simp [Path.below, hroot]
    rw [hself, h.isDir_root, h.isDir]
  · -- it lies in a directory below the root, which is not what has been taken out
    have hdirectory := FileTree.directory_of_parent hmem before (List.prefix_refl _) hroot
    have hother : before ≠ names := by
      rintro rfl
      exact h.leadsToFile.directory_notMem hdirectory
    exact h.isDir_remove hroot hother hdirectory

theorem found_remove : scope.found (site.remove (scope.root.below names)) location =
    (scope.found site location).filter (·.1 ≠ scope.root.below names) := by
  have hbelow : ∀ names', scope.root.below names' = scope.root.below names ↔ names' = names :=
    fun names' => ⟨fun heq => List.append_cancel_left (Path.mk.inj heq).2, fun heq => heq ▸ rfl⟩
  rw [found, found, h.below_remove, List.filter_map, List.filter_filter, List.filter_filter]
  congr 1
  refine List.filter_congr fun entry hentry => ?_
  rw [h.lists_remove hentry, Bool.and_comm]
  simp [hbelow]

/-- **The selection without the file.** The others are selected. -/
theorem select_remove {selection : Selection} (hselect : scope.select site size = .ok selection) :
    ∃ selection', scope.select (site.remove (scope.root.below names)) size = .ok selection' ∧
      selection'.targets = selection.targets.filter (·.2 ≠ scope.root.below names) := by
  obtain ⟨htargets, hanswered⟩ := select_ok h.isDir h.land hselect
  -- what is looked at gets the same answers
  have hanswers : ∀ entry ∈ (scope.found site location).filter (·.1 ≠ scope.root.below names),
      (site.remove (scope.root.below names)).isFile entry.1 = site.isFile entry.1 ∧
        scope.enter (site.remove (scope.root.below names)) entry.1 =
          scope.enter site entry.1 := by
    intro entry hentry
    obtain ⟨hfound, hother⟩ := List.mem_filter.1 hentry
    obtain ⟨others, hproper, hpath, hmem, -⟩ := mem_found.1 hfound
    have hothers : others ≠ names := by
      rintro rfl
      exact absurd hpath (by simpa using hother)
    rw [hpath]
    exact ⟨h.isFile_remove hproper hothers hmem,
      enter_congr h.levels_remove (h.isDir_remove hproper hothers hmem)⟩
  have hjudge : ∀ entry ∈ (scope.found site location).filter (·.1 ≠ scope.root.below names),
      scope.judge (site.remove (scope.root.below names)) size entry.1 =
        scope.judge site size entry.1 :=
    fun entry hentry => judge_congr (hanswers entry hentry).1
  have hanswered' : scope.Answered (site.remove (scope.root.below names)) size location := by
    intro entry hentry
    rw [h.found_remove] at hentry
    rw [hjudge entry hentry, (hanswers entry hentry).2]
    exact hanswered entry (List.mem_filter.1 hentry).1
  obtain ⟨selection', hselect'⟩ := exists_select h.isDir_root h.land_root hanswered'
  refine ⟨selection', hselect', ?_⟩
  have hpicks : ((scope.found site location).filter (·.1 ≠ scope.root.below names)).filter
      (fun entry => scope.picks (site.remove (scope.root.below names)) size entry.1) =
        ((scope.found site location).filter (·.1 ≠ scope.root.below names)).filter
          (fun entry => scope.picks site size entry.1) := by
    refine List.filter_congr fun entry hentry => ?_
    rw [picks, picks, hjudge entry hentry]
  rw [(select_ok h.isDir_root h.land_root hselect').1, htargets, h.found_remove]
  simp only [List.filter_map, List.filter_filter] at hpicks ⊢
  refine congrArg (fun entries : List (Path × Node) => (entries.map (·.1)).map target)
    (hpicks.trans (List.filter_congr fun entry _ => ?_))
  exact Bool.and_comm _ _

end Member

end Scope

/-- The conditions without what is at a path. -/
def Conditions.without (conditions : Conditions) (path : Path) : Conditions :=
  { conditions with site := conditions.site.remove path }

/-- The same comes of the other files. -/
theorem Settings.job_without {settings : Settings} {conditions : Conditions}
    {location there : Location} {names : List Text} {bytes : List UInt8}
    (h : settings.scope.Member conditions.site location names there bytes)
    {selection : Scope.Selection}
    (hselect : settings.scope.select conditions.site conditions.size = .ok selection)
    {found : Target} (hfound : found ∈ selection.targets)
    (hother : found.2 ≠ settings.scope.root.below names) :
    settings.job (conditions.without (settings.scope.root.below names)) found =
      settings.job conditions found := by
  obtain ⟨others, node, hproper, hentry, hpicks, rfl⟩ :=
    (Scope.mem_select h.isDir h.land hselect).1 hfound
  have hothers : others ≠ names := by
    rintro rfl
    exact hother rfl
  have hread := h.read_remove hproper hothers hentry (Scope.picks_iff.1 hpicks).2.1
  rw [Settings.job, Settings.job, Scope.target, Conditions.without]
  simp only [inspect, readSource, hread]
  rfl

end HangulLint
