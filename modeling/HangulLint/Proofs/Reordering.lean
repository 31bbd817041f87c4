import HangulLint.Proofs.Schedule
import HangulLint.Proofs.Selection

/-!
# Trees in another order

The system lists directories in an order of its own. Two sites are **reorderings** of each other
if they hold the same things at the same places; every question about a path has the same answer
in both, and a sweep selects the same files, in another order.

* `Site.Reordered` — the relation;
* `Site.Reordered.land_eq` — paths lead to the same places;
* `Site.Reordered.targets_perm`, `Site.Reordered.jobs_perm` — the same files are selected, and the
  same comes of each.
-/

namespace HangulLint

namespace Site

/-- The same things at the same places, told in another order. -/
structure Reordered (site site' : Site) : Prop where
  cwd : site'.cwd = site.cwd
  levels : site'.levels = site.levels
  entries : site'.tree.entries.Perm site.tree.entries

namespace Reordered

variable {site site' : Site}

theorem refl (site : Site) : Reordered site site := ⟨rfl, rfl, .refl _⟩

theorem land_eq (h : Reordered site site') (path : Path) : site'.land path = site.land path := by
  have hstart : site'.start path.origin = site.start path.origin := by
    cases path.origin <;> simp [start, h.cwd]
  rw [land, land, hstart, FileTree.walk_congr (FileTree.node?_congr h.entries.symm)]

theorem isDir_eq (h : Reordered site site') (path : Path) : site'.isDir path = site.isDir path := by
  rw [isDir, isDir, h.land_eq]

theorem isFile_eq (h : Reordered site site') (path : Path) :
    site'.isFile path = site.isFile path := by
  rw [isFile, isFile, h.land_eq]

theorem read_eq (h : Reordered site site') (path : Path) : site'.read path = site.read path := by
  rw [read, read, h.land_eq]

theorem inspect_eq (h : Reordered site site') (library : Source.Library)
    (guesser : Guesser) (rule : Rule) (path : Path) :
    inspect site' library guesser rule path = inspect site library guesser rule path := by
  rw [inspect, inspect, readSource, readSource, h.read_eq]

/-! ### The selection -/

theorem found_perm (h : Reordered site site') (scope : Scope) (location : Location) :
    (scope.found site' location).Perm (scope.found site location) := by
  have hlists : scope.lists site' = scope.lists site := by
    funext path
    exact Scope.lists_congr h.levels (h.isDir_eq path)
  have hbelow : (site'.tree.below location).Perm (site.tree.below location) :=
    h.entries.filterMap _
  rw [Scope.found, Scope.found, hlists]
  exact (hbelow.filter _).map _

theorem judge_eq (h : Reordered site site') (scope : Scope) (size : Path → Except OsError Nat)
    (path : Path) : scope.judge site' size path = scope.judge site size path :=
  Scope.judge_congr (h.isFile_eq path)

theorem picks_eq (h : Reordered site site') (scope : Scope) (size : Path → Except OsError Nat) :
    scope.picks site' size = scope.picks site size := by
  funext path
  rw [Scope.picks, Scope.picks, h.judge_eq]

/-- Where there is a selection in one order, there is one in the other. -/
theorem exists_select (h : Reordered site site') {scope : Scope}
    {size : Path → Except OsError Nat} {selection' : Scope.Selection}
    (hroot : site.isDir scope.root = .ok true)
    (hselect' : scope.select site' size = .ok selection') :
    ∃ selection, scope.select site size = .ok selection := by
  -- the questions that come up are the same, and so are the answers
  obtain ⟨-, location, hland⟩ := Scope.land_of_isDir hroot
  have hroot' := (h.isDir_eq scope.root).trans hroot
  have hland' := (h.land_eq scope.root).trans hland
  refine Scope.exists_select hroot hland fun entry hentry => ?_
  have hanswered := (Scope.select_ok hroot' hland' hselect').2 entry
    ((h.found_perm scope location).mem_iff.2 hentry)
  rwa [h.judge_eq, Scope.enter_congr h.levels (h.isDir_eq _)] at hanswered

theorem targets_perm (h : Reordered site site') {scope : Scope}
    {size : Path → Except OsError Nat} {selection selection' : Scope.Selection}
    (hroot : site.isDir scope.root = .ok true) (hselect : scope.select site size = .ok selection)
    (hselect' : scope.select site' size = .ok selection') :
    selection'.targets.Perm selection.targets := by
  obtain ⟨-, location, hland⟩ := Scope.land_of_isDir hroot
  have hroot' := (h.isDir_eq scope.root).trans hroot
  have hland' := (h.land_eq scope.root).trans hland
  rw [(Scope.select_ok hroot hland hselect).1, (Scope.select_ok hroot' hland' hselect').1,
    h.picks_eq]
  exact (((h.found_perm scope location).map _).filter _).map _

/-- The same comes of every file. -/
theorem jobs_perm {conditions : Conditions} (h : Reordered conditions.site site')
    {settings : Settings} {selection selection' : Scope.Selection}
    (hperm : selection'.targets.Perm selection.targets) :
    (settings.jobs { conditions with site := site' } selection').Perm
      (settings.jobs conditions selection) := by
  have hjob : settings.job { conditions with site := site' } = settings.job conditions := by
    funext target
    rw [Settings.job, Settings.job, h.inspect_eq]
    rfl
  rw [Settings.jobs, Settings.jobs, hjob]
  exact hperm.map _

end Reordered

end Site

end HangulLint
