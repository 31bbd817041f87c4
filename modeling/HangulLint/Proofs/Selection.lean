import HangulLint.Sweep.Scope
import Mathlib.Data.List.Induction
import Mathlib.Data.List.Nodup
import Mathlib.Data.List.Perm.Basic

/-!
# What is selected

A selection is told by membership: what lies below the root, which of it is looked at, and which
of that is taken. Where the system answers about every path that comes up, and no directory is too
deep, whatever lies below the root is looked at, since following the names of real directories leads
where they lie.

* `FileTree.walk_append`, `FileTree.walk_directories` — following names in two goes, and following
  the names of real directories;
* `Scope.candidates_eq` — what is looked at;
* `Scope.select_eq_ok_iff` — what a selection goes through;
* `Scope.Answered` — nothing is in the way of a selection, with `Scope.select_ok` and
  `Scope.exists_select`;
* `Scope.mem_select` — what a selection takes;
* `Scope.InReach`, `Scope.Reaches`, `Scope.exists_select_iff` — where there is a selection, told
  from the tree.
-/

namespace HangulLint

namespace FileTree

variable {tree tree' : FileTree} {links : Nat} {place location : Location} {names rest : List Text}
  {node : Node}

/-! ### What is where -/

/-- What is at a location, told by the entries. -/
theorem node?_eq_some (hne : location ≠ []) :
    tree.node? location = some node ↔ (location, node) ∈ tree.entries := by
  refine ⟨mem_of_node? hne, fun hmem => ?_⟩
  rw [node?, if_neg hne]
  cases hlookup : tree.entries.lookup location with
  | none => exact absurd (List.mem_map.2 ⟨_, hmem, rfl⟩) (lookup_eq_none.1 hlookup)
  | some node' =>
    -- no location occurs twice, so the two entries are one
    have hmem' := mem_of_lookup hlookup
    have hentry := List.inj_on_of_nodup_map tree.nodup hmem hmem' rfl
    rw [(Prod.mk.inj hentry).2]

/-- Trees with the same entries, in whatever order, have the same at every location. -/
theorem node?_congr (h : tree.entries.Perm tree'.entries) (location : Location) :
    tree.node? location = tree'.node? location := by
  by_cases hne : location = []
  · simp [node?, hne]
  · refine Option.ext fun node => ?_
    rw [node?_eq_some hne, node?_eq_some hne, h.mem_iff]

theorem mem_below :
    (names, node) ∈ tree.below location ↔
      names ≠ [] ∧ (location ++ names, node) ∈ tree.entries := by
  simp only [below, List.mem_filterMap, Option.ite_none_right_eq_some, Bool.and_eq_true,
    List.isPrefixOf_iff_prefix, decide_eq_true_eq, Option.some.injEq, Prod.mk.injEq, Prod.exists]
  constructor
  · rintro ⟨there, node, hentry, ⟨⟨names, rfl⟩, hlength⟩, hnames, rfl⟩
    rw [List.drop_left] at hnames
    subst hnames
    refine ⟨?_, hentry⟩
    rintro rfl
    simp at hlength
  · rintro ⟨hne, hentry⟩
    have hlength := List.length_pos_iff.2 hne
    exact ⟨_, node, hentry, ⟨List.prefix_append _ _, by simp [hlength]⟩, by simp, rfl⟩

/-- Nothing lies below a location twice. -/
theorem nodup_below (tree : FileTree) (location : Location) :
    ((tree.below location).map (·.1)).Nodup := by
  refine List.pairwise_map.2 (List.Pairwise.filterMap _ ?_ (List.pairwise_map.1 tree.nodup))
  intro entry entry' hne found hfound found' hfound' heq
  -- the same names lead from the location to the same place
  rw [Option.ite_none_right_eq_some, Bool.and_eq_true, List.isPrefixOf_iff_prefix,
    Option.some.injEq] at hfound hfound'
  obtain ⟨⟨⟨names, hnames⟩, -⟩, rfl⟩ := hfound
  obtain ⟨⟨⟨names', hnames'⟩, -⟩, rfl⟩ := hfound'
  rw [← hnames, ← hnames', List.drop_left, List.drop_left] at heq
  obtain rfl : names = names' := heq
  exact hne (hnames.symm.trans hnames')

/-! ### Following names -/

/-- Where names lead depends on what is where alone. -/
theorem walk_congr (h : ∀ location, tree'.node? location = tree.node? location) :
    tree.walk links place names = tree'.walk links place names := by
  fun_induction walk tree links place names with
  | case1 => rw [walk]
  | _ =>
    rw [walk]
    simp [*]

/-- A name that is a step down leads on by what it names. -/
theorem walk_name {name : Text} (hstep : ¬(!Path.isStep name) = true)
    (hparent : ¬name = Path.parentName)
    (hlength : ¬maxNameBytes < (Utf8.bytesOfName name).length) :
    tree.walk links place (name :: names) =
      match tree.node? (place ++ [name]) with
      | none => if names.isEmpty then .ok (.vacant (place ++ [name])) else .error .notFound
      | some .directory => tree.walk links (place ++ [name]) names
      | some (.file bytes) =>
        if names.isEmpty then .ok (.file (place ++ [name]) bytes) else .error .notDirectory
      | some (.link target) =>
        match links with
        | 0 => .error .tooManyLinks
        | left + 1 =>
          tree.walk left (linkStart target place) (pieces Path.slash target ++ names) := by
  rw [walk, if_neg hstep, if_neg hparent]
  exact if_neg hlength

/-- Names are followed in two goes as in one, if the first go leads to a directory. The links that
it follows are not there for the second. -/
theorem walk_append (h : tree.walk links place names = .ok (.directory location)) :
    ∃ left ≤ links, ∀ rest,
      tree.walk links place (names ++ rest) = tree.walk left location rest := by
  fun_induction walk tree links place names with
  | case1 =>
    obtain rfl : _ = location := Landing.directory.inj (Except.ok.inj h)
    exact ⟨_, Nat.le_refl _, fun _ => rfl⟩
  | case2 links place name rest hstep ih =>
    obtain ⟨left, hleft, hrest⟩ := ih h
    refine ⟨left, hleft, fun more => ?_⟩
    rw [List.cons_append, walk, if_pos hstep, hrest]
  | case3 links place rest hstep ih =>
    obtain ⟨left, hleft, hrest⟩ := ih h
    refine ⟨left, hleft, fun more => ?_⟩
    rw [List.cons_append, walk, if_neg hstep, if_pos rfl, hrest]
  | case7 links place name rest hstep hparent hlength hnode ih =>
    obtain ⟨left, hleft, hrest⟩ := ih h
    refine ⟨left, hleft, fun more => ?_⟩
    rw [List.cons_append, walk_name hstep hparent hlength, hnode]
    exact hrest more
  | case11 place name rest hstep hparent hlength target hnode links ih =>
    -- the target of the link comes before the names that follow
    obtain ⟨left, hleft, hrest⟩ := ih h
    refine ⟨left, Nat.le_succ_of_le hleft, fun more => ?_⟩
    rw [List.cons_append, walk_name hstep hparent hlength, hnode, ← hrest more,
      List.append_assoc]
  | _ => exact absurd h (by simp)

theorem isStep_of_isFileName {name : Text} (h : isFileName name = true) :
    ¬(!Path.isStep name) = true ∧ name ≠ Path.parentName ∧
      ¬ maxNameBytes < (Utf8.bytesOfName name).length := by
  simp only [isFileName, Bool.and_eq_true, bne_iff_ne, decide_eq_true_eq] at h
  obtain ⟨⟨⟨⟨⟨hempty, hself⟩, hparent⟩, -⟩, -⟩, hlength⟩ := h
  exact ⟨by simpa [Path.isStep, hself] using hempty, hparent, Nat.not_lt.2 hlength⟩

/-- The names of real directories lead where they lie, without any link. -/
theorem walk_directories_append (links : Nat)
    (hdirectory : ∀ before, before <+: names → before ≠ [] →
      (place ++ before, Node.directory) ∈ tree.entries) (rest : List Text) :
    tree.walk links place (names ++ rest) = tree.walk links (place ++ names) rest := by
  -- the induction moves the place down, one real directory at a time
  induction names generalizing place with
  | nil => rw [List.nil_append, List.append_nil]
  | cons name names ih =>
    have hentry := hdirectory [name] (by simp) (by simp)
    have hnode : tree.node? (place ++ [name]) = some .directory :=
      (node?_eq_some (by simp)).2 hentry
    obtain ⟨hstep, hparent, hlength⟩ :=
      isStep_of_isFileName (tree.named _ hentry name (by simp))
    rw [List.cons_append, walk_name hstep hparent hlength, hnode]
    have hrest : ∀ before, before <+: names → before ≠ [] →
        (place ++ [name] ++ before, Node.directory) ∈ tree.entries := by
      intro before hbefore _
      simpa using hdirectory (name :: before) (by simpa using hbefore) (by simp)
    simpa using ih hrest

theorem walk_directories (links : Nat)
    (hdirectory : ∀ before, before <+: names → before ≠ [] →
      (place ++ before, Node.directory) ∈ tree.entries) :
    tree.walk links place names = .ok (.directory (place ++ names)) := by
  have hwalk := walk_directories_append links hdirectory []
  rwa [List.append_nil, walk.eq_def tree links (place ++ names)] at hwalk

/-- Whatever lies below a location lies in directories down to it. -/
theorem directory_of_isPrefix (hentry : (location ++ names, node) ∈ tree.entries) :
    ∀ before, before <+: names → before ≠ [] → before ≠ names →
      (location ++ before, Node.directory) ∈ tree.entries := by
  induction names using List.reverseRecOn generalizing node with
  | nil => exact fun before hbefore hne _ => absurd (List.prefix_nil.1 hbefore) hne
  | append_singleton names name ih =>
    intro before hbefore hne hproper
    rcases List.prefix_concat_iff.1 hbefore with heq | hbefore
    · exact absurd heq hproper
    · -- the tree holds the directory of whatever it holds
      have hdirectory : (location ++ names, Node.directory) ∈ tree.entries := by
        have hhoused := (tree.housed _ hentry).2
        have hdrop : (location ++ (names ++ [name])).dropLast = location ++ names := by
          rw [← List.append_assoc, List.dropLast_concat]
        rw [hdrop] at hhoused
        refine hhoused.resolve_left fun hnil => hne ?_
        rw [(List.append_eq_nil_iff.1 hnil).2] at hbefore
        exact List.prefix_nil.1 hbefore
      by_cases hnames : before = names
      · rw [hnames]
        exact hdirectory
      · exact ih hdirectory before hbefore hne hnames

/-- The directories that lead to what lies below a location, by the names before its last. -/
theorem directory_of_parent {name : Text}
    (hentry : (location ++ (names ++ [name]), node) ∈ tree.entries) :
    ∀ before, before <+: names → before ≠ [] →
      (location ++ before, Node.directory) ∈ tree.entries := by
  intro before hbefore hne
  refine directory_of_isPrefix hentry before (hbefore.trans (List.prefix_append _ _)) hne ?_
  rintro rfl
  have hlength := hbefore.length_le
  rw [List.length_append, List.length_singleton] at hlength
  omega

end FileTree

/-- Only the last of some names is a file's own. -/
theorem Path.name_below (directory : Path) {names : List Text} (hproper : names ≠ []) :
    names.getLast? = some (directory.below names).name := by
  rw [name, below, List.getLast?_append_of_ne_nil _ hproper,
    List.getLast?_eq_some_getLast hproper, Option.getD_some]

namespace Site

variable {site : Site} {path : Path}

theorem land_ok {landing : Landing} (h : site.land path = .ok landing) :
    ¬ pathBytesLimit ≤ (Utf8.bytesOfName path.text).length ∧
      site.tree.walk maxLinks (site.start path.origin) path.names = .ok landing := by
  rw [land] at h
  split at h
  · exact absurd h (by simp)
  · next hlength => exact ⟨hlength, h⟩

theorem land_of_isFile (h : site.isFile path = .ok true) :
    ∃ location bytes, site.land path = .ok (.file location bytes) := by
  unfold isFile at h
  split at h
  · exact absurd h (by simp)
  · split at h
    · next location bytes hland => exact ⟨location, bytes, hland⟩
    · exact absurd h (by simp)
    · next cause _ => cases cause <;> exact absurd h (by simp [absent])

theorem exists_isDir_iff (hnul : path.hasNul = false) :
    (∃ answer, site.isDir path = .ok answer) ↔ site.land path ≠ .error .nameTooLong := by
  rw [isDir, if_neg (by simp [hnul])]
  cases hland : site.land path with
  | ok landing => cases landing <;> simp
  | error cause => cases cause <;> simp [absent]

theorem exists_isFile_iff (hnul : path.hasNul = false) :
    (∃ answer, site.isFile path = .ok answer) ↔ site.land path ≠ .error .nameTooLong := by
  rw [isFile, if_neg (by simp [hnul])]
  cases hland : site.land path with
  | ok landing => cases landing <;> simp
  | error cause => cases cause <;> simp [absent]

end Site

namespace Scope

variable {scope : Scope} {site : Site} {size : Path → Except OsError Nat} {path : Path}
  {location : Location}

/-! ### What is looked at -/

/-- What is looked at below a location that the root leads to. -/
def found (scope : Scope) (site : Site) (location : Location) : List (Path × Node) :=
  ((site.tree.below location).filter fun entry =>
    scope.lists site (scope.root.below entry.1.dropLast)).map fun entry =>
      (scope.root.below entry.1, entry.2)

@[simp]
theorem depth_below (scope : Scope) (names : List Text) :
    scope.depth (scope.root.below names) = names.length := by
  rw [depth, Path.below, List.length_append, Nat.add_sub_cancel_left]

/-- The answer at the way down into a directory is that of the system, if it is not too deep. -/
theorem enter_eq_ok_iff {answer : Bool} : scope.enter site path = .ok answer ↔
    scope.depth path ≤ site.levels ∧ site.isDir path = .ok answer := by
  rw [enter]
  split
  · next hdeep => exact iff_of_false (by simp) fun h => absurd h.1 (Nat.not_le.2 hdeep)
  · next hdeep =>
    cases site.isDir path <;> simp [Except.mapError, Nat.not_lt.1 hdeep]

theorem exists_enter_iff : (∃ answer, scope.enter site path = .ok answer) ↔
    scope.depth path ≤ site.levels ∧ ∃ answer, site.isDir path = .ok answer := by
  simp only [enter_eq_ok_iff, exists_and_left]

/-- The way down depends on the depth at hand and on what the system answers. -/
theorem enter_congr {site' : Site} (hlevels : site'.levels = site.levels)
    (hisDir : site'.isDir path = site.isDir path) :
    scope.enter site' path = scope.enter site path := by
  rw [enter, enter, hlevels, hisDir]

theorem lists_eq_true_iff : scope.lists site path = true ↔
    scope.depth path ≤ site.levels ∧ site.isDir path = .ok true := by
  rw [← enter_eq_ok_iff, lists]
  cases scope.enter site path <;> simp

theorem lists_congr {site' : Site} (hlevels : site'.levels = site.levels)
    (hisDir : site'.isDir path = site.isDir path) :
    scope.lists site' path = scope.lists site path := by
  rw [lists, lists, enter_congr hlevels hisDir]

theorem land_of_isDir (h : site.isDir path = .ok true) :
    path.hasNul = false ∧ ∃ location, site.land path = .ok (.directory location) := by
  unfold Site.isDir at h
  split at h
  · exact absurd h (by simp)
  · next hnul =>
    refine ⟨by simpa using hnul, ?_⟩
    split at h
    · next location hland => exact ⟨location, hland⟩
    · exact absurd h (by simp)
    · next cause _ => cases cause <;> exact absurd h (by simp [Site.absent])

/-- The root is a directory, so that what lies below it is looked at. -/
theorem candidates_eq (hroot : site.isDir scope.root = .ok true)
    (hland : site.land scope.root = .ok (.directory location)) :
    scope.candidates site = .ok (scope.found site location) := by
  rw [candidates, if_neg (by simp [(land_of_isDir hroot).1]), hland]
  rfl

theorem mem_found {entry : Path × Node} :
    entry ∈ scope.found site location ↔ ∃ names, names ≠ [] ∧ entry.1 = scope.root.below names ∧
      (location ++ names, entry.2) ∈ site.tree.entries ∧
      scope.lists site (scope.root.below names.dropLast) = true := by
  simp only [found, List.mem_map, List.mem_filter, Prod.exists, FileTree.mem_below]
  constructor
  · rintro ⟨names, node, ⟨⟨hne, hentry⟩, hlists⟩, rfl⟩
    exact ⟨names, hne, rfl, hentry, hlists⟩
  · rintro ⟨names, hne, hpath, hentry, hlists⟩
    exact ⟨names, entry.2, ⟨⟨hne, hentry⟩, hlists⟩, by rw [← hpath]⟩

/-! ### What is taken -/

/-- Whether a path is taken: the decision about it is that it is selected. -/
def picks (scope : Scope) (site : Site) (size : Path → Except OsError Nat) (path : Path) : Bool :=
  match scope.judge site size path with
  | .ok .selected => true
  | _ => false

theorem picks_of_judge {verdict : Verdict} (h : scope.judge site size path = .ok verdict) :
    scope.picks site size path = true ↔ verdict = .selected := by
  rw [picks, h]
  cases verdict <;> simp

/-- Of the system, a decision asks whether there is a file, and nothing else. -/
theorem judge_congr {site' : Site} (h : site'.isFile path = site.isFile path) :
    scope.judge site' size path = scope.judge site size path := by
  rw [judge, judge, h]

theorem judge_of_unwanted (h : ¬ scope.globs.any (Glob.admits · path.name) = true) :
    scope.judge site size path = .ok .skipped := by
  simp [judge, h]

theorem judge_of_error (h : scope.globs.any (Glob.admits · path.name) = true) {error : OsError}
    (hfile : site.isFile path = .error error) : scope.judge site size path = .error error := by
  simp [judge, h, hfile]

/-- Once the system has answered whether there is a file of a wanted name, there is a decision. -/
theorem judge_of_answer (h : scope.globs.any (Glob.admits · path.name) = true) {answer : Bool}
    (hfile : site.isFile path = .ok answer) :
    ∃ verdict, scope.judge site size path = .ok verdict ∧
      (verdict = .selected ↔ answer = true ∧ scope.excludesDir path = false ∧
        ∀ limit, scope.sizeLimit = some limit →
          ∃ bytes, size path = .ok bytes ∧ ¬ limit < bytes) := by
  simp only [judge, h, hfile]
  cases answer with
  | false => exact ⟨.skipped, rfl, by simp⟩
  | true =>
    cases hdir : scope.excludesDir path with
    | true => exact ⟨.skipped, rfl, by simp⟩
    | false =>
      -- where there is no limit, the size is not asked for
      cases hlimit : scope.sizeLimit with
      | none => exact ⟨.selected, rfl, by simp⟩
      | some limit =>
        cases hsize : size path with
        | error error => exact ⟨.sizeUnknown error, rfl, by simp⟩
        | ok bytes =>
          refine ⟨_, rfl, ?_⟩
          by_cases hlarge : limit < bytes
          · simp [hlarge]
          · simp [hlarge, Int.not_lt.1 hlarge]

theorem picks_iff :
    scope.picks site size path = true ↔ scope.globs.any (Glob.admits · path.name) = true ∧
      site.isFile path = .ok true ∧ scope.excludesDir path = false ∧
      ∀ limit, scope.sizeLimit = some limit → ∃ bytes, size path = .ok bytes ∧ ¬ limit < bytes := by
  by_cases hwanted : scope.globs.any (Glob.admits · path.name) = true
  · cases hfile : site.isFile path with
    | error error => simp [picks, judge_of_error hwanted hfile]
    | ok answer =>
      obtain ⟨verdict, hjudge, hselected⟩ := judge_of_answer hwanted hfile
      rw [picks_of_judge hjudge, hselected, Except.ok.injEq]
      exact (and_iff_right hwanted).symm
  · simp [picks, judge_of_unwanted hwanted, hwanted]

/-- There is a decision unless the system refuses to answer about a file of a wanted name. -/
theorem exists_judge_iff :
    (∃ verdict, scope.judge site size path = .ok verdict) ↔
      (scope.globs.any (Glob.admits · path.name) = true →
        ∃ answer, site.isFile path = .ok answer) := by
  by_cases hwanted : scope.globs.any (Glob.admits · path.name) = true
  · cases hfile : site.isFile path with
    | error error => simp [judge_of_error hwanted hfile, hwanted]
    | ok answer =>
      obtain ⟨verdict, hjudge, -⟩ := judge_of_answer hwanted hfile
      exact iff_of_true ⟨verdict, hjudge⟩ fun _ => ⟨answer, rfl⟩
  · exact iff_of_true ⟨_, judge_of_unwanted hwanted⟩ fun h => absurd h hwanted

/-- A selection among paths decides about the first, and then about the others. -/
theorem selectFrom_cons_eq_ok_iff {rest : List Path} {selection : Selection} :
    scope.selectFrom site size (path :: rest) = .ok selection ↔
      ∃ verdict others, scope.judge site size path = .ok verdict ∧
        scope.selectFrom site size rest = .ok others ∧
        selection = ⟨if verdict = .selected then target path :: others.targets else others.targets,
          (verdict.record? path).toList ++ others.journal⟩ := by
  rw [selectFrom]
  cases scope.judge site size path with
  | error error => simp [bind, Except.bind]
  | ok verdict =>
    cases scope.selectFrom site size rest <;>
      simp [bind, Except.bind, pure, Except.pure, eq_comm]

/-- A selection among paths takes what is picked, in their order. -/
theorem selectFrom_ok {paths : List Path} {selection : Selection}
    (h : scope.selectFrom site size paths = .ok selection) :
    selection.targets = (paths.filter (scope.picks site size)).map target ∧
      ∀ path ∈ paths, ∃ verdict, scope.judge site size path = .ok verdict := by
  induction paths generalizing selection with
  | nil =>
    obtain rfl := Except.ok.inj h
    simp
  | cons path rest ih =>
    obtain ⟨verdict, others, hjudge, hrest, rfl⟩ := selectFrom_cons_eq_ok_iff.1 h
    obtain ⟨htargets, hverdicts⟩ := ih hrest
    -- the path is taken along exactly if its verdict says so
    refine ⟨?_, List.forall_mem_cons.2 ⟨⟨verdict, hjudge⟩, hverdicts⟩⟩
    have hpicks : scope.picks site size path = true ↔ verdict = .selected := picks_of_judge hjudge
    by_cases hselected : verdict = .selected
    · rw [List.filter_cons_of_pos (hpicks.2 hselected), List.map_cons, ← htargets]
      simp [hselected]
    · rw [List.filter_cons_of_neg (mt hpicks.1 hselected), ← htargets]
      simp [hselected]

/-- What is told of a selection among paths are decisions about single paths. -/
theorem exists_verdict_selectFrom {paths : List Path} {selection : Selection}
    (h : scope.selectFrom site size paths = .ok selection) :
    ∀ record ∈ selection.journal, ∃ path verdict, Verdict.record? path verdict = some record := by
  induction paths generalizing selection with
  | nil =>
    obtain rfl := Except.ok.inj h
    simp
  | cons path rest ih =>
    obtain ⟨verdict, others, -, hrest, rfl⟩ := selectFrom_cons_eq_ok_iff.1 h
    intro record hrecord
    rcases List.mem_append.1 hrecord with hrecord | hrecord
    · exact ⟨path, verdict, Option.mem_toList.1 hrecord⟩
    · exact ih hrest record hrecord

theorem exists_selectFrom {paths : List Path}
    (h : ∀ path ∈ paths, ∃ verdict, scope.judge site size path = .ok verdict) :
    ∃ selection, scope.selectFrom site size paths = .ok selection := by
  induction paths with
  | nil => exact ⟨_, rfl⟩
  | cons path rest ih =>
    obtain ⟨⟨verdict, hjudge⟩, hrest⟩ := List.forall_mem_cons.1 h
    obtain ⟨others, hothers⟩ := ih hrest
    exact ⟨_, selectFrom_cons_eq_ok_iff.2 ⟨verdict, others, hjudge, hothers, rfl⟩⟩

theorem listAll_eq_ok {entries : List (Path × Node)} :
    scope.listAll site entries = .ok () ↔
      ∀ entry ∈ entries, entry.2 = .directory →
        ∃ answer, scope.enter site entry.1 = .ok answer := by
  induction entries with
  | nil => simp [listAll]
  | cons entry rest ih =>
    obtain ⟨path, node⟩ := entry
    rw [listAll, List.forall_mem_cons, ← ih]
    by_cases hnode : node = .directory
    · cases scope.enter site path <;> simp [hnode, bind, Except.bind]
    · simp [hnode]

/-! ### Below the root -/

/-- No path below the root holds a zero character, if the root's own does not. -/
theorem hasNul_below (hroot : site.isDir scope.root = .ok true) {names : List Text} {node : Node}
    (hentry : (location ++ names, node) ∈ site.tree.entries) :
    (scope.root.below names).hasNul = false := by
  have hrootNul := (land_of_isDir hroot).1
  simp only [Path.hasNul, Path.below, List.any_append, Bool.or_eq_false_iff] at hrootNul ⊢
  refine ⟨hrootNul, ?_⟩
  rw [List.any_eq_false]
  intro name hname
  have hnamed := site.tree.named _ hentry name (List.mem_append_right _ hname)
  simp only [isFileName, Bool.and_eq_true, Bool.not_eq_true'] at hnamed
  rw [hnamed.1.2]
  simp

/-- The directories that a path goes through below the root are the names before its last. -/
theorem excludesDir_below {names : List Text} :
    scope.excludesDir (scope.root.below names) = false ↔
      ∀ name ∈ names.dropLast, name ∉ scope.excludedDirs := by
  have hwithin : scope.root.within? (scope.root.below names) = some names := by
    simp [Path.within?, Path.below, List.isPrefixOf_iff_prefix]
  rw [excludesDir, directoriesOf, hwithin, Option.getD_some, List.any_eq_false]
  simp only [List.contains_iff_mem]

/-- Nothing is looked at twice. -/
theorem nodup_found (scope : Scope) (site : Site) (location : Location) :
    ((scope.found site location).map (·.1)).Nodup := by
  have hbelow : (scope.found site location).map (·.1) =
      (((site.tree.below location).filter fun entry =>
        scope.lists site (scope.root.below entry.1.dropLast)).map (·.1)).map
          scope.root.below := by
    rw [found, List.map_map, List.map_map]
    rfl
  have hinjective : Function.Injective scope.root.below := fun names names' heq =>
    List.append_cancel_left (Path.mk.inj heq).2
  rw [hbelow]
  exact ((site.tree.nodup_below location).sublist (List.filter_sublist.map _)).map hinjective

/-! ### A selection as a whole -/

/-- Nothing is in the way of the selection: every file that is looked at can be judged, and every
directory entered. -/
def Answered (scope : Scope) (site : Site) (size : Path → Except OsError Nat)
    (location : Location) : Prop :=
  ∀ entry ∈ scope.found site location,
    (∃ verdict, scope.judge site size entry.1 = .ok verdict) ∧
      (entry.2 = .directory → ∃ answer, scope.enter site entry.1 = .ok answer)

variable {selection : Selection}

/-- **What a selection goes through:** it looks at what lies below the root, chooses among that, and
enters every directory. -/
theorem select_eq_ok_iff : scope.select site size = .ok selection ↔
    ∃ found, scope.candidates site = .ok found ∧
      scope.selectFrom site size (found.map (·.1)) = .ok selection ∧
      scope.listAll site found = .ok () := by
  rw [select]
  cases scope.candidates site with
  | error error => simp [bind, Except.bind, Except.mapError]
  | ok found =>
    cases hselect : scope.selectFrom site size (found.map (·.1)) with
    | error error => simp [hselect, bind, Except.bind, Except.mapError]
    | ok selection' =>
      cases hlist : scope.listAll site found <;>
        simp [hselect, hlist, bind, Except.bind, Except.mapError, pure, Except.pure]

theorem select_ok (hroot : site.isDir scope.root = .ok true)
    (hland : site.land scope.root = .ok (.directory location))
    (h : scope.select site size = .ok selection) :
    selection.targets = (((scope.found site location).map (·.1)).filter
        (scope.picks site size)).map target ∧
      scope.Answered site size location := by
  obtain ⟨found, hfound, hselect, hlist⟩ := select_eq_ok_iff.1 h
  obtain rfl := Except.ok.inj ((candidates_eq hroot hland).symm.trans hfound)
  obtain ⟨htargets, hverdicts⟩ := selectFrom_ok hselect
  refine ⟨htargets, fun entry hentry => ⟨?_, listAll_eq_ok.1 hlist entry hentry⟩⟩
  exact hverdicts entry.1 (List.mem_map.2 ⟨entry, hentry, rfl⟩)

/-- What is told of a selection are decisions about single paths. -/
theorem exists_verdict (h : scope.select site size = .ok selection) :
    ∀ record ∈ selection.journal, ∃ path verdict, Verdict.record? path verdict = some record := by
  obtain ⟨found, -, hselect, -⟩ := select_eq_ok_iff.1 h
  exact exists_verdict_selectFrom hselect

/-- The names of the root lead to its location, and the names of real directories lead on. -/
theorem walk_below_directories (hland : site.land scope.root = .ok (.directory location))
    {names : List Text} (hdirectory : ∀ before, before <+: names → before ≠ [] →
      (location ++ before, Node.directory) ∈ site.tree.entries) :
    site.tree.walk maxLinks (site.start scope.root.origin) (scope.root.names ++ names) =
      .ok (.directory (location ++ names)) := by
  obtain ⟨left, -, hrest⟩ := FileTree.walk_append (Site.land_ok hland).2
  rw [hrest names]
  exact FileTree.walk_directories left hdirectory

/-- Where the system answers about a real directory below the root, it says that it is one. -/
theorem isDir_below (hroot : site.isDir scope.root = .ok true)
    (hland : site.land scope.root = .ok (.directory location)) {names : List Text}
    (hentry : (location ++ names, Node.directory) ∈ site.tree.entries) {answer : Bool}
    (h : site.isDir (scope.root.below names) = .ok answer) : answer = true := by
  have hwalk := walk_below_directories hland fun before hbefore hne => by
    by_cases hnames : before = names
    · rw [hnames]
      exact hentry
    · exact FileTree.directory_of_isPrefix hentry before hbefore hne hnames
  rw [Site.isDir, if_neg (by simp [hasNul_below hroot hentry]), Site.land] at h
  by_cases hlong : pathBytesLimit ≤ (Utf8.bytesOfName (scope.root.below names).text).length
  · rw [if_pos hlong] at h
    exact absurd h (by simp [Site.absent])
  · rw [if_neg hlong, Path.below, hwalk] at h
    exact (Except.ok.inj h).symm

/-- Where nothing is in the way, whatever lies below the root is looked at. -/
theorem Answered.mem_found (h : scope.Answered site size location)
    (hroot : site.isDir scope.root = .ok true)
    (hland : site.land scope.root = .ok (.directory location)) {names : List Text} {node : Node}
    (hne : names ≠ []) (hentry : (location ++ names, node) ∈ site.tree.entries) :
    (scope.root.below names, node) ∈ scope.found site location := by
  induction names using List.reverseRecOn generalizing node with
  | nil => exact absurd rfl hne
  | append_singleton names name ih =>
    refine Scope.mem_found.2 ⟨names ++ [name], hne, rfl, hentry, ?_⟩
    rw [List.dropLast_concat]
    rw [lists_eq_true_iff]
    by_cases hnames : names = []
    · have hself : scope.root.below names = scope.root := by simp [Path.below, hnames]
      rw [depth_below, hself, hnames]
      exact ⟨Nat.zero_le _, hroot⟩
    · -- the directory that it lies in is looked at, and entered
      have hdirectory := FileTree.directory_of_isPrefix hentry names (List.prefix_append _ _) hnames
        (by simp)
      obtain ⟨answer, hanswer⟩ := (h _ (ih hnames hdirectory)).2 rfl
      obtain ⟨hdepth, hisDir⟩ := enter_eq_ok_iff.1 hanswer
      obtain rfl := isDir_below hroot hland hdirectory hisDir
      exact ⟨hdepth, hisDir⟩

/-- **What a selection takes.** Of whatever lies below the root, the paths that are picked. -/
theorem mem_select (hroot : site.isDir scope.root = .ok true)
    (hland : site.land scope.root = .ok (.directory location))
    (h : scope.select site size = .ok selection) {found : Target} :
    found ∈ selection.targets ↔ ∃ names node, names ≠ [] ∧
      (location ++ names, node) ∈ site.tree.entries ∧
      scope.picks site size (scope.root.below names) = true ∧
      found = target (scope.root.below names) := by
  obtain ⟨htargets, hanswered⟩ := select_ok hroot hland h
  simp only [htargets, List.mem_map, List.mem_filter]
  -- whatever lies below the root is looked at, since nothing was in the way
  constructor
  · rintro ⟨path, ⟨⟨entry, hentry, rfl⟩, hpicks⟩, rfl⟩
    obtain ⟨names, hne, hpath, hmem, -⟩ := mem_found.1 hentry
    rw [hpath] at hpicks ⊢
    exact ⟨names, entry.2, hne, hmem, hpicks, rfl⟩
  · rintro ⟨names, node, hne, hmem, hpicks, rfl⟩
    exact ⟨_, ⟨⟨_, hanswered.mem_found hroot hland hne hmem, rfl⟩, hpicks⟩, rfl⟩

/-- Nothing is taken twice. -/
theorem nodup_select (hroot : site.isDir scope.root = .ok true)
    (hland : site.land scope.root = .ok (.directory location))
    (h : scope.select site size = .ok selection) : selection.targets.Nodup := by
  rw [(select_ok hroot hland h).1]
  have htarget : Function.Injective target := fun path path' heq => (Prod.mk.inj heq).2
  exact ((scope.nodup_found site location).filter _).map htarget

/-- Where nothing is in the way, there is a selection. -/
theorem exists_select (hroot : site.isDir scope.root = .ok true)
    (hland : site.land scope.root = .ok (.directory location))
    (h : scope.Answered site size location) :
    ∃ selection, scope.select site size = .ok selection := by
  have hverdicts : ∀ path ∈ (scope.found site location).map (·.1),
      ∃ verdict, scope.judge site size path = .ok verdict := by
    intro path hpath
    obtain ⟨entry, hentry, rfl⟩ := List.mem_map.1 hpath
    exact (h entry hentry).1
  obtain ⟨selection, hselect⟩ := exists_selectFrom hverdicts
  have hlist : scope.listAll site (scope.found site location) = .ok () :=
    listAll_eq_ok.2 fun entry hentry => (h entry hentry).2
  exact ⟨selection, select_eq_ok_iff.2 ⟨_, candidates_eq hroot hland, hselect, hlist⟩⟩

/-! ### What can be in the way -/

/-- **Nothing is out of reach.** No directory below the root is too deep to be entered. None of
them, and nothing there of a wanted name, has a path that is too long or leads over a name that is.
-/
def InReach (scope : Scope) (site : Site) (location : Location) : Prop :=
  ∀ names node, names ≠ [] → (location ++ names, node) ∈ site.tree.entries →
    (node = .directory → names.length ≤ site.levels) ∧
    (node = .directory ∨ scope.globs.any (Glob.admits · (scope.root.below names).name) = true →
      site.land (scope.root.below names) ≠ .error .nameTooLong)

/-- Nothing is in the way of a selection exactly if nothing that can come up is out of reach. -/
theorem answered_iff (hroot : site.isDir scope.root = .ok true)
    (hland : site.land scope.root = .ok (.directory location)) :
    scope.Answered site size location ↔ scope.InReach site location := by
  constructor
  · -- whatever lies below the root was looked at
    intro hanswered names node hproper hentry
    have hnul : (scope.root.below names).hasNul = false := hasNul_below hroot hentry
    obtain ⟨hjudge, hentered⟩ := hanswered _ (hanswered.mem_found hroot hland hproper hentry)
    refine ⟨fun hnode => ?_, ?_⟩
    · simpa using (exists_enter_iff.1 (hentered hnode)).1
    · rintro (hnode | hwanted)
      · exact (Site.exists_isDir_iff hnul).1 (exists_enter_iff.1 (hentered hnode)).2
      · exact (Site.exists_isFile_iff hnul).1 (exists_judge_iff.1 hjudge hwanted)
  · -- whatever was looked at lies below the root
    intro hreach entry hentry
    obtain ⟨names, hproper, hpath, hmem, -⟩ := mem_found.1 hentry
    have hnul : entry.1.hasNul = false := by
      rw [hpath]
      exact hasNul_below hroot hmem
    obtain ⟨hdepth, hshort⟩ := hreach names entry.2 hproper hmem
    rw [← hpath] at hshort
    refine ⟨exists_judge_iff.2 fun hwanted => ?_, fun hnode => exists_enter_iff.2 ⟨?_, ?_⟩⟩
    · exact (Site.exists_isFile_iff hnul).2 (hshort (.inr hwanted))
    · rw [hpath, depth_below]
      exact hdepth hnode
    · exact (Site.exists_isDir_iff hnul).2 (hshort (.inl hnode))

/-- There is a selection exactly where nothing is out of reach. -/
theorem exists_select_iff (hroot : site.isDir scope.root = .ok true)
    (hland : site.land scope.root = .ok (.directory location)) :
    (∃ selection, scope.select site size = .ok selection) ↔ scope.InReach site location := by
  constructor
  · rintro ⟨selection, hselect⟩
    exact (answered_iff hroot hland).1 (select_ok hroot hland hselect).2
  · intro hreach
    exact exists_select hroot hland ((answered_iff hroot hland).2 hreach)

/-- Wherever the root leads, nothing that lies below it is out of reach. -/
def Reaches (scope : Scope) (site : Site) : Prop :=
  ∀ location, site.isDir scope.root = .ok true →
    site.land scope.root = .ok (.directory location) → scope.InReach site location

theorem exists_select_iff_reaches (hroot : site.isDir scope.root = .ok true) :
    (∃ selection, scope.select site size = .ok selection) ↔ scope.Reaches site := by
  obtain ⟨-, location, hland⟩ := land_of_isDir hroot
  rw [exists_select_iff hroot hland]
  constructor
  · intro hreach location' _ hland'
    -- the root leads to one directory only
    obtain rfl : location = location' :=
      Landing.directory.inj (Except.ok.inj (hland.symm.trans hland'))
    exact hreach
  · exact fun hreaches => hreaches location hroot hland

end Scope

end HangulLint
