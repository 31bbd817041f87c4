import HangulLint.Program
import HangulLint.Proofs.Reordering
import HangulLint.Proofs.WholeReport

/-!
# What a file more changes

A file is put at a place where nothing was, or takes the place of another file. Then a path leads
where it led before, with two exceptions: a path to that place leads to the new file, and a path
that goes on behind it, where it was refused before because nothing was there, is now refused for
another reason. No directory comes or goes (`Site.Puts.isDir_eq`), and what is not asked about the
place itself is answered as before.

So a sweep selects the same files, if the name of the new one is none that is looked for, and the
same comes of each.

* `Site.Puts` — the two sites;
* `Site.Puts.land_or` — where paths lead afterwards;
* `Site.Puts.defaultRoot_eq`, `Site.Puts.directory_eq` — the root and the directory for reports;
* `Scope.Ignores.exists_select`, `Scope.Ignores.inspect_eq` — the files, and what comes of them.
-/

namespace HangulLint

/-! ### Trees without links -/

namespace FileTree

variable {tree : FileTree}

/-- There is no link in the tree. -/
def Linkless (tree : FileTree) : Prop := ∀ place target, tree.node? place ≠ some (.link target)

theorem linkless_iff :
    tree.Linkless ↔ ∀ place target, (place, Node.link target) ∉ tree.entries := by
  constructor
  · intro h place target hentry
    exact h place target ((node?_eq_some (tree.housed _ hentry).1).2 hentry)
  · intro h place target hnode
    by_cases hplace : place = []
    · simp [node?, hplace] at hnode
    · exact h place target ((node?_eq_some hplace).1 hnode)

/-- Without links, a place is reached by names alone. -/
theorem settle_of_linkless (h : tree.Linkless) (depth : Nat) (pending : List Location)
    (place : Location) (names : List Text) :
    tree.settle depth pending place names = (lexical place names, true) := by
  induction names generalizing place with
  | nil => rw [settle, lexical, List.foldl_nil]
  | cons name names ih =>
    rw [settle, lexical, List.foldl_cons]
    split
    · exact ih place
    · split
      · exact ih place.dropLast
      · -- no name on the way is that of a link
        dsimp only
        split
        · next target hnode => exact absurd hnode (h _ target)
        · exact ih (place ++ [name])

/-- Without links, there are never too many. -/
theorem walk_ne_tooManyLinks (h : tree.Linkless) (links : Nat) (place : Location)
    (names : List Text) : tree.walk links place names ≠ .error .tooManyLinks := by
  fun_induction walk tree links place names with
  | case2 links place name rest hstep ih => exact ih
  | case3 links place rest hstep ih => exact ih
  | case7 links place name rest hstep hparent hlength hnode ih => exact ih
  | case10 place name rest hstep hparent hlength target hnode => exact absurd hnode (h _ _)
  | case11 place name rest hstep hparent hlength target hnode links ih =>
    exact absurd hnode (h _ _)
  | _ => simp

end FileTree

/-! ### Where paths lead -/

/-- **One file more.** The second site has a file at a place where the first has none, or another
one, and the two are the same otherwise. -/
structure Site.Puts (site site' : Site) (location : Location) (bytes : List UInt8) : Prop where
  cwd : site'.cwd = site.cwd
  levels : site'.levels = site.levels
  free : site.tree.Free location
  file : site'.tree.node? location = some (.file bytes)
  same : ∀ other, other ≠ location → site'.tree.node? other = site.tree.node? other

namespace Site

variable {site site' site'' : Site} {path : Path} {location : Location} {bytes : List UInt8}

/-- A path of some names leads to a place with the last of them as its name. -/
theorem LeadsTo.getLast? (hlinkless : site.tree.Linkless) (hproper : path.names ≠ [])
    (h : site.LeadsTo path location) : location.getLast? = some path.name := by
  have hpath : path = (⟨path.origin, path.names.dropLast⟩ : Path).child
      (path.names.getLast hproper) := by
    rw [Path.child, Path.below, List.dropLast_append_getLast]
  rw [hpath] at h
  obtain ⟨place, -, rfl⟩ := h.child fun place target hentry =>
    hlinkless _ target ((FileTree.node?_eq_some (by simp)).2 hentry)
  rw [List.getLast?_concat, Path.name, List.getLast?_eq_some_getLast hproper, Option.getD_some]

namespace Puts

theorem start_eq (h : Puts site site' location bytes) (origin : Origin) :
    site'.start origin = site.start origin := by
  cases origin <;> simp [start, h.cwd]

theorem cwdPath_eq (h : Puts site site' location bytes) : site'.cwdPath = site.cwdPath := by
  rw [cwdPath, cwdPath, h.cwd]

/-- Whatever is at another place was there before. -/
theorem mem_entries_iff (h : Puts site site' location bytes) {other : Location} {node : Node}
    (hproper : other ≠ []) (hother : other ≠ location) :
    (other, node) ∈ site'.tree.entries ↔ (other, node) ∈ site.tree.entries := by
  rw [← FileTree.node?_eq_some hproper, ← FileTree.node?_eq_some hproper, h.same _ hother]

/-- The order in which the tree is listed does not matter. -/
theorem reordered (h : Puts site site' location bytes) (hreordered : site'.Reordered site'') :
    Puts site site'' location bytes := by
  have hnode : ∀ other, site''.tree.node? other = site'.tree.node? other :=
    FileTree.node?_congr hreordered.entries
  exact {
    cwd := hreordered.cwd.trans h.cwd
    levels := hreordered.levels.trans h.levels
    free := h.free
    file := (hnode location).trans h.file
    same := fun other hother => (hnode other).trans (h.same other hother) }

theorem linkless (h : Puts site site' location bytes) (hlinkless : site.tree.Linkless) :
    site'.tree.Linkless := by
  intro place target hnode
  by_cases hplace : place = location
  · rw [hplace, h.file] at hnode
    exact absurd hnode (by simp)
  · exact hlinkless place target ((h.same place hplace).symm.trans hnode)

/-- **Where paths lead once the file is there.** Where they led before, or to the file, or they are
still refused behind its place. -/
theorem land_or (h : Puts site site' location bytes) (path : Path) :
    site'.land path = site.land path ∨
      (site.LeadsTo path location ∧ site'.land path = .ok (.file location bytes)) ∨
      (site.land path = .error .notFound ∧ site'.land path = .error .notDirectory) := by
  unfold LeadsTo land
  rw [h.start_eq]
  split
  · exact .inl rfl
  · exact FileTree.walk_put h.same h.file h.free

theorem isDir_eq (h : Puts site site' location bytes) (path : Path) :
    site'.isDir path = site.isDir path := by
  unfold isDir
  obtain heq | ⟨hleads, hfile⟩ | ⟨hfound, hdirectory⟩ := h.land_or path
  · rw [heq]
  · -- there was no directory before, and the file is none
    rw [hfile]
    obtain hvacant | ⟨old, hold⟩ := hleads
    · rw [hvacant]
    · rw [hold]
  · rw [hfound, hdirectory]
    rfl

theorem land_directory (h : Puts site site' location bytes) {place : Location}
    (hland : site.land path = .ok (.directory place)) :
    site'.land path = .ok (.directory place) := by
  obtain heq | ⟨hleads, -⟩ | ⟨hfound, -⟩ := h.land_or path
  · rw [heq, hland]
  · obtain hvacant | ⟨old, hold⟩ := hleads
    · exact absurd (hland.symm.trans hvacant) (by simp)
    · exact absurd (hland.symm.trans hold) (by simp)
  · exact absurd (hland.symm.trans hfound) (by simp)

theorem land_ne_nameTooLong (h : Puts site site' location bytes)
    (hland : site.land path ≠ .error .nameTooLong) : site'.land path ≠ .error .nameTooLong := by
  obtain heq | ⟨-, hfile⟩ | ⟨-, hdirectory⟩ := h.land_or path
  · rwa [heq]
  · simp [hfile]
  · simp [hdirectory]

/-- A path that does not lead to the place leads to a file exactly if it did before. -/
theorem isFile_eq (h : Puts site site' location bytes) (hother : ¬ site.LeadsTo path location) :
    site'.isFile path = site.isFile path := by
  unfold isFile
  obtain heq | ⟨hleads, -⟩ | ⟨hfound, hdirectory⟩ := h.land_or path
  · rw [heq]
  · exact absurd hleads hother
  · rw [hfound, hdirectory]
    rfl

/-- A path that leads to another file leads there as before. -/
theorem land_of_isFile (h : Puts site site' location bytes) (hfile : site.isFile path = .ok true)
    (hother : ¬ site.LeadsTo path location) : site'.land path = site.land path := by
  obtain ⟨there, old, hland⟩ := Site.land_of_isFile hfile
  obtain heq | ⟨hleads, -⟩ | ⟨hfound, -⟩ := h.land_or path
  · exact heq
  · exact absurd hleads hother
  · exact absurd (hland.symm.trans hfound) (by simp)

/-! ### The root and the directory for reports -/

theorem resolve_eq (h : Puts site site' location bytes) (hlinkless : site.tree.Linkless)
    (path : Path) : site'.resolve path = site.resolve path := by
  have hland : ∀ {other : Site}, other.tree.Linkless → ∀ location,
      other.land (pathOf location) ≠ .error .tooManyLinks := by
    intro other hother location
    rw [land]
    split
    · simp
    · exact FileTree.walk_ne_tooManyLinks hother _ _ _
  -- no link is met on the way, and none at its end
  simp only [resolve, FileTree.settle_of_linkless hlinkless,
    FileTree.settle_of_linkless (h.linkless hlinkless), h.start_eq]
  split
  · rfl
  · split
    · next hcircle => exact absurd hcircle (hland (h.linkless hlinkless) _)
    · split
      · next hcircle => exact absurd hcircle (hland hlinkless _)
      · rfl

theorem defaultRoot_eq (h : Puts site site' location bytes) (hlinkless : site.tree.Linkless)
    (program : Option Text) : defaultRoot site' program = defaultRoot site program := by
  cases program with
  | none => simp only [defaultRoot, h.cwdPath_eq]
  | some called =>
    cases called with
    | nil => simp only [defaultRoot, h.cwdPath_eq]
    | cons g rest => simp only [defaultRoot, h.resolve_eq hlinkless, h.isDir_eq, h.cwdPath_eq]

theorem directory_eq (h : Puts site site' location bytes) (plan : ReportPlan) :
    plan.directory site' = plan.directory site := by
  simp only [ReportPlan.directory, h.isDir_eq, h.cwdPath_eq]

end Puts

end Site

/-! ### The selection -/

/-- What is at a place has no name that is looked for. -/
def Scope.Ignores (scope : Scope) (location : Location) : Prop :=
  ∀ name, location.getLast? = some name → scope.globs.any (Glob.admits · name) = false

namespace Scope.Ignores

variable {scope : Scope} {site site' : Site} {place location : Location} {names : List Text}
  {bytes : List UInt8} {selection : Scope.Selection}

theorem place_ne (hignores : scope.Ignores location) (hproper : names ≠ [])
    (hwanted : scope.globs.any (Glob.admits · (scope.root.below names).name) = true) :
    place ++ names ≠ location := by
  rintro rfl
  have hlast : (place ++ names).getLast? = some (scope.root.below names).name := by
    rw [List.getLast?_append_of_ne_nil _ hproper, scope.root.name_below hproper]
  rw [hignores _ hlast] at hwanted
  exact absurd hwanted (by simp)

theorem not_leadsTo (hignores : scope.Ignores location) (hlinkless : site.tree.Linkless)
    (hproper : names ≠ [])
    (hwanted : scope.globs.any (Glob.admits · (scope.root.below names).name) = true) :
    ¬ site.LeadsTo (scope.root.below names) location := by
  intro hleads
  have hnames : (scope.root.below names).names ≠ [] := by simp [Path.below, hproper]
  rw [hignores _ (hleads.getLast? hlinkless hnames)] at hwanted
  exact absurd hwanted (by simp)

variable (h : site.Puts site' location bytes) (hignores : scope.Ignores location)
  (hlinkless : site.tree.Linkless)

include h hignores hlinkless

theorem picks_eq (hproper : names ≠ []) :
    scope.picks site' site'.size (scope.root.below names) =
      scope.picks site site.size (scope.root.below names) := by
  rw [Bool.eq_iff_iff, picks_iff, picks_iff]
  refine and_congr_right fun hwanted => ?_
  -- what has a wanted name is another file
  have hother := hignores.not_leadsTo hlinkless hproper hwanted
  rw [h.isFile_eq hother]
  refine and_congr_right fun hfile => ?_
  have hsize : site'.size (scope.root.below names) = site.size (scope.root.below names) := by
    rw [Site.size, Site.size, h.land_of_isFile hfile hother]
  rw [hsize]

omit hlinkless in
/-- Nothing is out of reach that was not so before, and the new file is not asked about. -/
theorem inReach (hreach : scope.InReach site place) : scope.InReach site' place := by
  intro names node hproper hentry
  have hdirectory : node = .directory → place ++ names ≠ location := by
    rintro rfl rfl
    have hnode := (FileTree.node?_eq_some (by simp [hproper])).2 hentry
    exact absurd (h.file.symm.trans hnode) (by simp)
  have hbefore : place ++ names ≠ location → (place ++ names, node) ∈ site.tree.entries :=
    fun hplace => (h.mem_entries_iff (by simp [hproper]) hplace).1 hentry
  constructor
  · intro hnode
    rw [h.levels]
    exact (hreach names node hproper (hbefore (hdirectory hnode))).1 hnode
  · intro hasked
    have hplace : place ++ names ≠ location :=
      hasked.elim hdirectory fun hwanted => hignores.place_ne hproper hwanted
    exact h.land_ne_nameTooLong ((hreach names node hproper (hbefore hplace)).2 hasked)

/-- **The same files are selected.** -/
theorem exists_select (hroot : site.isDir scope.root = .ok true)
    (hselect : scope.select site site.size = .ok selection) :
    ∃ selection', scope.select site' site'.size = .ok selection' ∧
      selection'.targets.Perm selection.targets := by
  obtain ⟨-, place, hland⟩ := land_of_isDir hroot
  have hroot' := (h.isDir_eq scope.root).trans hroot
  have hland' := h.land_directory hland
  have hreach := (exists_select_iff hroot hland).1 ⟨selection, hselect⟩
  obtain ⟨selection', hselect'⟩ :=
    (exists_select_iff hroot' hland').2 (hignores.inReach h hreach)
  refine ⟨selection', hselect', ?_⟩
  refine (List.perm_ext_iff_of_nodup (nodup_select hroot' hland' hselect')
    (nodup_select hroot hland hselect)).2 fun found => ?_
  rw [mem_select hroot' hland' hselect', mem_select hroot hland hselect]
  refine exists_congr fun names => exists_congr fun node => and_congr_right fun hproper => ?_
  -- what is picked is not the new file, and so it was there before
  rw [hignores.picks_eq h hlinkless hproper]
  exact and_congr_left fun hpicked => h.mem_entries_iff (by simp [hproper])
    (hignores.place_ne hproper (picks_iff.1 hpicked.1).1)

/-- **The same comes of each.** -/
theorem inspect_eq (hroot : site.isDir scope.root = .ok true)
    (hselect : scope.select site site.size = .ok selection) {found : Target}
    (hfound : found ∈ selection.targets) (library : Source.Library)
    (guesser : Guesser) (rule : Rule) :
    inspect site' library guesser rule found.2 = inspect site library guesser rule found.2 := by
  obtain ⟨-, place, hland⟩ := land_of_isDir hroot
  obtain ⟨names, node, hproper, -, hpicks, rfl⟩ := (mem_select hroot hland hselect).1 hfound
  obtain ⟨hwanted, hfile, -⟩ := picks_iff.1 hpicks
  have hread : site'.read (scope.root.below names) = site.read (scope.root.below names) := by
    rw [Site.read, Site.read,
      h.land_of_isFile hfile (hignores.not_leadsTo hlinkless hproper hwanted)]
  simp only [target, inspect, readSource, hread]

end Scope.Ignores

end HangulLint
