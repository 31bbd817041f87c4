import HangulLint.Proofs.Interleaving
import HangulLint.Proofs.Selection

/-!
# Sweeps that do not start

A sweep does not start where the root is no directory, and where an earlier sweep has sealed the
register. It then leaves everything as it was and shows no progress bar. Nor does it read a file:
what it asks of the tree is where paths lead, and the answers are the same whatever the files hold
(`FileTree.walk_blank`), so it comes out the same in every tree that differs in contents alone
(`SweepState.untouched_of_refused`). A sweep that comes to its end seals the register for good;
those that follow only ever refuse, and what it has left stays.

What a refused sweep ends with is meant to say which of the two it was. It does, except where the
system refuses to answer about the root or about a path below it, or where a directory is too deep:
then the sweep ends with that instead (`SweepState.refuses_iff`).

* `Scope.Refusal`, `Scope.Answers` — what a refused sweep is meant to end with, and when it does;
* `Settings.Untouched` — what a refused sweep leaves;
* `SweepState.sweeps` — one sweep after the other;
* `SweepState.refuses_iff` — a refused sweep, and all sweeps after one that has come to its end.
-/

namespace HangulLint

/-! ### Trees without contents -/

/-- What is somewhere, without what is in it if it is a file. -/
def Node.blank : Node → Node
  | .file _ => .file []
  | .directory => .directory
  | .link target => .link target

/-- Where names lead, without what is in the file there. -/
def Landing.blank : Landing → Landing
  | .file location _ => .file location []
  | .directory location => .directory location
  | .vacant location => .vacant location

theorem Node.blank_eq_directory {node : Node} : node.blank = .directory ↔ node = .directory := by
  cases node <;> simp [blank]

namespace FileTree

/-- The tree with nothing in its files. -/
def blank (tree : FileTree) : FileTree where
  entries := tree.entries.map fun entry => (entry.1, entry.2.blank)
  nodup := by
    rw [List.map_map]
    exact tree.nodup
  housed := by
    intro blanked hblanked
    obtain ⟨entry, hentry, rfl⟩ := List.mem_map.1 hblanked
    obtain ⟨hne, hhoused⟩ := tree.housed entry hentry
    exact ⟨hne, hhoused.imp_right fun hparent => List.mem_map.2 ⟨_, hparent, rfl⟩⟩
  named := by
    intro blanked hblanked
    obtain ⟨entry, hentry, rfl⟩ := List.mem_map.1 hblanked
    exact tree.named entry hentry

theorem node?_blank (tree : FileTree) (location : Location) :
    tree.blank.node? location = (tree.node? location).map Node.blank := by
  have hlookup : ∀ entries : List (Location × Node),
      (entries.map fun entry => (entry.1, entry.2.blank)).lookup location =
        (entries.lookup location).map Node.blank := by
    intro entries
    induction entries with
    | nil => rfl
    | cons entry entries ih =>
      rw [List.map_cons, List.lookup_cons, List.lookup_cons, ih]
      split <;> rfl
  rw [node?, node?]
  split
  · rfl
  · exact hlookup tree.entries

theorem below_blank (tree : FileTree) (location : Location) : tree.blank.below location =
    (tree.below location).map fun found => (found.1, found.2.blank) := by
  rw [below, below, blank, List.filterMap_map, List.map_filterMap]
  refine List.filterMap_congr fun entry _ => ?_
  rw [Function.comp_apply]
  split <;> rfl

/-- **Where names lead is no matter of contents.** -/
theorem walk_blank (tree : FileTree) (links : Nat) (place : Location) (names : List Text) :
    tree.blank.walk links place names = (tree.walk links place names).map Landing.blank := by
  fun_induction walk tree links place names with
  | case1 =>
    rw [walk]
    rfl
  | case2 links place name rest hstep ih => rw [walk, if_pos hstep, ih]
  | case3 links place rest hstep ih => rw [walk, if_neg hstep, if_pos rfl, ih]
  | case4 links place name rest hstep hparent hlength =>
    rw [walk, if_neg hstep, if_neg hparent, if_pos hlength]
    rfl
  | case7 links place name rest hstep hparent hlength hnode ih
  | case11 place name rest hstep hparent hlength target hnode links ih =>
    -- a directory, or a link that is followed: the way goes on from there
    rw [walk_name hstep hparent hlength, node?_blank, hnode]
    exact ih
  | case10 place name rest hstep hparent hlength target hnode =>
    rw [walk_name hstep hparent hlength, node?_blank, hnode]
    rfl
  | case5 links place name rest hstep hparent hlength hnode hrest
  | case6 links place name rest hstep hparent hlength hnode hrest
  | case8 links place name rest hstep hparent hlength bytes hnode hrest
  | case9 links place name rest hstep hparent hlength bytes hnode hrest =>
    -- the way ends at nothing, or at a file
    rw [walk_name hstep hparent hlength, node?_blank, hnode]
    simp [hrest, Node.blank, Landing.blank, Except.map]

end FileTree

namespace Site

/-- The site with nothing in its files. -/
def blank (site : Site) : Site := { site with tree := site.tree.blank }

theorem land_blank (site : Site) (path : Path) :
    site.blank.land path = (site.land path).map Landing.blank := by
  rw [land, land]
  split
  · rfl
  · exact site.tree.walk_blank maxLinks (site.start path.origin) path.names

theorem isDir_blank (site : Site) (path : Path) : site.blank.isDir path = site.isDir path := by
  rw [isDir, isDir, land_blank]
  cases site.land path with
  | error cause => rfl
  | ok landing => cases landing <;> rfl

theorem isFile_blank (site : Site) (path : Path) : site.blank.isFile path = site.isFile path := by
  rw [isFile, isFile, land_blank]
  cases site.land path with
  | error cause => rfl
  | ok landing => cases landing <;> rfl

end Site

namespace Scope

theorem candidates_blank (scope : Scope) (site : Site) : scope.candidates site.blank =
    (scope.candidates site).map fun found => found.map fun entry => (entry.1, entry.2.blank) := by
  have hlists : scope.lists site.blank = scope.lists site := by
    funext path
    exact lists_congr rfl (site.isDir_blank path)
  rw [candidates, candidates, Site.land_blank, hlists]
  split
  · rfl
  · cases hland : site.land scope.root with
    | error cause => cases cause <;> rfl
    | ok landing =>
      cases landing with
      | file location bytes => rfl
      | vacant location => rfl
      | directory location =>
        change Except.ok (((site.tree.blank.below location).filter _).map _) = _
        rw [FileTree.below_blank, List.filter_map, List.map_map]
        simp [Except.map, Function.comp_def]

theorem selectFrom_blank (scope : Scope) (site : Site) (size : Path → Except OsError Nat)
    (paths : List Path) : scope.selectFrom site.blank size paths =
      scope.selectFrom site size paths := by
  induction paths with
  | nil => rfl
  | cons path rest ih => rw [selectFrom, selectFrom, ih, judge_congr (site.isFile_blank path)]

theorem listAll_blank (scope : Scope) (site : Site) (entries : List (Path × Node)) :
    scope.listAll site.blank (entries.map fun entry => (entry.1, entry.2.blank)) =
      scope.listAll site entries := by
  induction entries with
  | nil => rfl
  | cons entry rest ih =>
    obtain ⟨path, node⟩ := entry
    have henter : scope.enter site.blank path = scope.enter site path :=
      enter_congr rfl (site.isDir_blank path)
    rw [List.map_cons, listAll, listAll, ih, henter]
    simp only [Node.blank_eq_directory]

theorem select_blank (scope : Scope) (site : Site) (size : Path → Except OsError Nat) :
    scope.select site.blank size = scope.select site size := by
  rw [select, select, candidates_blank]
  cases scope.candidates site with
  | error error => rfl
  | ok found =>
    -- of what is looked at, the choice reads the paths alone
    have hpaths : (found.map fun entry => (entry.1, entry.2.blank)).map (·.1) =
        found.map (·.1) := by
      rw [List.map_map]
      rfl
    simp only [Except.map, Except.mapError, bind, Except.bind, hpaths, selectFrom_blank,
      listAll_blank]

end Scope

/-! ### What a refused sweep leaves -/

/-- The trees differ in nothing but what their files hold. What guessers answer and how long files
take may be different as well. -/
def Conditions.Alike (conditions conditions' : Conditions) : Prop :=
  conditions.site.blank = conditions'.site.blank ∧ conditions.size = conditions'.size

/-- A path leads to a directory that exists. -/
def Site.HasDirectory (site : Site) (path : Path) : Prop :=
  path.hasNul = false ∧ ∃ location, site.land path = .ok (.directory location)

theorem Site.isDir_eq_true_iff {site : Site} {path : Path} :
    site.isDir path = .ok true ↔ site.HasDirectory path := by
  refine ⟨Scope.land_of_isDir, ?_⟩
  rintro ⟨hnul, location, hland⟩
  rw [isDir, hnul, hland]
  rfl

namespace Scope

/-- **What a refused sweep is meant to end with.** -/
inductive Refusal (scope : Scope) (site : Site) : ScanFault → Prop where
  | rootMissing (missing : ¬ site.HasDirectory scope.root) :
      Refusal scope site (.rootMissing scope.root)
  | sealed (rooted : site.HasDirectory scope.root) : Refusal scope site .sealed

/-- The system refuses to answer neither about the root nor about what lies below it, and nothing
there is too deep. -/
def Answers (scope : Scope) (site : Site) : Prop :=
  (scope.root.hasNul = false → site.land scope.root ≠ .error .nameTooLong) ∧ scope.Reaches site

variable {scope : Scope} {site : Site} {size : Path → Except OsError Nat}

theorem exists_isDir_root_iff : (∃ answer, site.isDir scope.root = .ok answer) ↔
    (scope.root.hasNul = false → site.land scope.root ≠ .error .nameTooLong) := by
  cases hnul : scope.root.hasNul with
  | false => exact (Site.exists_isDir_iff hnul).trans ⟨fun h _ => h, fun h => h rfl⟩
  | true => exact ⟨fun _ h => absurd h (by simp), fun _ => ⟨false, by rw [Site.isDir, if_pos hnul]⟩⟩

/-- The answers are one about the root and, where that is a directory, a selection. -/
theorem answers_iff : scope.Answers site ↔ ∃ answer, site.isDir scope.root = .ok answer ∧
    (answer = true → ∃ selection, scope.select site size = .ok selection) := by
  rw [Answers, ← exists_isDir_root_iff]
  constructor
  · rintro ⟨⟨answer, hanswer⟩, hreaches⟩
    refine ⟨answer, hanswer, fun htrue => ?_⟩
    exact (exists_select_iff_reaches (htrue ▸ hanswer)).2 hreaches
  · rintro ⟨answer, hanswer, hselect⟩
    refine ⟨⟨answer, hanswer⟩, fun location hroot hland => ?_⟩
    have htrue : answer = true := Except.ok.inj (hanswer.symm.trans hroot)
    exact (exists_select_iff_reaches hroot).1 (hselect htrue) location hroot hland

end Scope

namespace Settings

/-- The sweep ends with the fault that it is meant to end with. -/
def EndsRightly (settings : Settings) (conditions : Conditions) (sweep : Sweep) : Prop :=
  ∃ fault, settings.scope.Refusal conditions.site fault ∧ sweep.outcome = .error fault

theorem not_endsRightly_hindered {settings : Settings} {conditions : Conditions} {sweep : Sweep}
    {obstacle : Scope.Obstacle} (h : sweep.outcome = .error (.hindered obstacle)) :
    ¬ settings.EndsRightly conditions sweep := by
  rintro ⟨fault, hfault, houtcome⟩
  obtain rfl : ScanFault.hindered obstacle = fault := Except.error.inj (h.symm.trans houtcome)
  cases hfault

/-- **A sweep that has not started.** -/
structure Untouched (settings : Settings) (conditions : Conditions) (state : SweepState)
    (sweep : Sweep) : Prop where
  /-- The register and the messages are as they were. -/
  kept : sweep.state = state
  /-- There is no progress bar. -/
  bar : sweep.bar = none
  /-- No file has been read: the sweep is the same whatever files hold. -/
  unread : ∀ conditions' schedule', conditions.Alike conditions' →
    state.scanBy settings conditions' schedule' = sweep

end Settings

namespace SweepState

variable {state : SweepState} {settings : Settings} {conditions : Conditions}
  {schedule : List Job → List Move}

/-- What a sweep makes of the answers to its questions, if it does not start. -/
def refused (state : SweepState) (root : Path) (answer : Except OsError Bool)
    (selected : Except Scope.Obstacle Scope.Selection) : Sweep :=
  match answer, selected with
  | .error error, _ => ⟨.error (.hindered (.os error)), state, [], none⟩
  | .ok false, _ => ⟨.error (.rootMissing root), state, [], none⟩
  | .ok true, .error obstacle => ⟨.error (.hindered obstacle), state, [startRecord], none⟩
  | .ok true, .ok selection => ⟨.error .sealed, state,
      startRecord :: selection.journal ++ [countRecord selection.targets.length], none⟩

theorem refused_kept (state : SweepState) (root : Path) (answer : Except OsError Bool)
    (selected : Except Scope.Obstacle Scope.Selection) :
    (state.refused root answer selected).state = state ∧
      (state.refused root answer selected).bar = none ∧
      (state.refused root answer selected).outcome ≠ .ok () := by
  unfold refused
  split <;> exact ⟨rfl, rfl, by simp⟩

/-- A refused sweep is determined by what the system answers. -/
theorem scanBy_of_refused (hrefused : conditions.site.isDir settings.scope.root ≠ .ok true ∨
    state.register.sealed = true) :
    state.scanBy settings conditions schedule = state.refused settings.scope.root
      (conditions.site.isDir settings.scope.root)
      (settings.scope.select conditions.site conditions.size) := by
  rw [scanBy]
  cases hroot : conditions.site.isDir settings.scope.root with
  | error error => rfl
  | ok isDirectory =>
    cases isDirectory with
    | false => rfl
    | true =>
      have hsealed : state.register.sealed = true := hrefused.resolve_left fun hne => hne hroot
      cases settings.scope.select conditions.site conditions.size with
      | error error => rfl
      | ok selection =>
        -- a sealed register cannot be cleared
        have hclear : state.register.clear = .error .sealed := by
          rw [Register.clear, hsealed]
          rfl
        dsimp only
        rw [inspectAll, hclear]
        rfl

/-- **A refused sweep changes nothing and reads nothing.** -/
theorem untouched_of_refused (hrefused : ¬ conditions.site.HasDirectory settings.scope.root ∨
    state.register.sealed = true) :
    settings.Untouched conditions state (state.scanBy settings conditions schedule) := by
  rw [← Site.isDir_eq_true_iff] at hrefused
  obtain ⟨hkept, hbar, -⟩ := state.refused_kept settings.scope.root
    (conditions.site.isDir settings.scope.root)
    (settings.scope.select conditions.site conditions.size)
  rw [scanBy_of_refused hrefused]
  refine ⟨hkept, hbar, fun conditions' schedule' halike => ?_⟩
  -- both sweeps get the answers that the tree without contents gives
  obtain ⟨hblank, hsize⟩ := halike
  have hdir : conditions'.site.isDir settings.scope.root =
      conditions.site.isDir settings.scope.root := by
    rw [← Site.isDir_blank, ← hblank, Site.isDir_blank]
  have hselect : settings.scope.select conditions'.site conditions'.size =
      settings.scope.select conditions.site conditions.size := by
    rw [← Scope.select_blank, ← hblank, Scope.select_blank, hsize]
  rw [scanBy_of_refused (hdir ▸ hrefused), hdir, hselect]

theorem endsRightly_iff (hrefused : ¬ conditions.site.HasDirectory settings.scope.root ∨
    state.register.sealed = true) :
    settings.EndsRightly conditions (state.scanBy settings conditions schedule) ↔
      settings.scope.Answers conditions.site := by
  rw [← Site.isDir_eq_true_iff] at hrefused
  rw [scanBy_of_refused hrefused, Scope.answers_iff]
  cases hroot : conditions.site.isDir settings.scope.root with
  | error error =>
    -- the question about the root is refused
    refine iff_of_false (Settings.not_endsRightly_hindered rfl) ?_
    rintro ⟨answer, hanswer, -⟩
    exact absurd hanswer (by simp)
  | ok isDirectory =>
    cases isDirectory with
    | false =>
      have hmissing : ¬ conditions.site.HasDirectory settings.scope.root := by
        rw [← Site.isDir_eq_true_iff, hroot]
        simp
      exact iff_of_true ⟨_, .rootMissing hmissing, rfl⟩ ⟨false, rfl, by simp⟩
    | true =>
      cases hselect : settings.scope.select conditions.site conditions.size with
      | error obstacle =>
        -- something below the root is in the way
        refine iff_of_false (Settings.not_endsRightly_hindered rfl) ?_
        rintro ⟨answer, hanswer, hselected⟩
        obtain ⟨selection, hselection⟩ := hselected (Except.ok.inj hanswer).symm
        exact absurd hselection (by simp)
      | ok selection =>
        exact iff_of_true ⟨.sealed, .sealed (Site.isDir_eq_true_iff.1 hroot), rfl⟩
          ⟨true, rfl, fun _ => ⟨selection, rfl⟩⟩

/-! ### One sweep after the other -/

/-- What the sweeps leave that are made one after the other, each in the state that the one before
has left. -/
def sweeps (state : SweepState) (settings : Settings) :
    List (Conditions × (List Job → List Move)) → List Sweep
  | [] => []
  | (conditions, schedule) :: rest =>
    let sweep := state.scanBy settings conditions schedule
    sweep :: sweep.state.sweeps settings rest

/-- Once the register is sealed, every sweep is refused. -/
theorem sweeps_of_sealed (hsealed : state.register.sealed = true)
    (rounds : List (Conditions × (List Job → List Move))) :
    List.Forall₂ (fun round sweep => settings.Untouched round.1 state sweep ∧
        (settings.EndsRightly round.1 sweep ↔ settings.scope.Answers round.1.site))
      rounds (state.sweeps settings rounds) := by
  -- no round changes the state, so the register stays sealed
  induction rounds with
  | nil => exact .nil
  | cons round rest ih =>
    obtain ⟨conditions, schedule⟩ := round
    have huntouched : settings.Untouched conditions state
        (state.scanBy settings conditions schedule) := untouched_of_refused (.inr hsealed)
    refine .cons ⟨huntouched, endsRightly_iff (.inr hsealed)⟩ ?_
    rw [huntouched.kept]
    exact ih

/-- With a sealed register, a sweep would have been refused. -/
theorem open_of_ok (hok : (state.scanBy settings conditions schedule).outcome = .ok ()) :
    state.register.sealed = false := by
  by_contra hsealed
  rw [Bool.not_eq_false] at hsealed
  rw [scanBy_of_refused (.inr hsealed)] at hok
  exact (refused_kept _ _ _ _).2.2 hok

theorem sealed_of_ok (hok : (state.scanBy settings conditions schedule).outcome = .ok ()) :
    (state.scanBy settings conditions schedule).state.register.sealed = true := by
  obtain ⟨selection, -, -, -, hstate⟩ := scanBy_ok (open_of_ok hok) hok
  rw [hstate]
  rfl

/-- **A sweep that refuses to start changes nothing.** Whatever the state before, where the root is
no directory that exists or the register is sealed, a sweep leaves the state as it is, reads no file
and shows no progress bar; it ends with the fault that it is meant to end with exactly if the system
answers its questions and no directory is too deep. After a sweep that has come to its end, the same
holds of every sweep that follows, whatever has become of the tree. -/
theorem refuses_iff (state : SweepState) (settings : Settings) (conditions : Conditions)
    (schedule : List Job → List Move) :
    let sweep := state.scanBy settings conditions schedule
    (¬ conditions.site.HasDirectory settings.scope.root ∨ state.register.sealed = true →
      settings.Untouched conditions state sweep ∧
        (settings.EndsRightly conditions sweep ↔ settings.scope.Answers conditions.site)) ∧
    (sweep.outcome = .ok () → ∀ rounds,
      List.Forall₂ (fun round later => settings.Untouched round.1 sweep.state later ∧
          (settings.EndsRightly round.1 later ↔ settings.scope.Answers round.1.site))
        rounds (sweep.state.sweeps settings rounds)) := by
  intro sweep
  refine ⟨fun hrefused => ?_, fun hok rounds => ?_⟩
  · exact ⟨untouched_of_refused hrefused, endsRightly_iff hrefused⟩
  · exact sweeps_of_sealed (sealed_of_ok hok) rounds

end SweepState

/-! ### A tree that is gone, and a root that cannot be asked about -/

/-- The sweeps after one that has come to its end: the tree is gone, and then it is back. -/
def laterRounds : List (Conditions × (List Job → List Move)) :=
  [({ twins with site := ⟨.empty, [], standardLevels⟩ }, inOrder 2), (twins, inOrder 2)]

/-- **The tree is gone, and then it is back.** Both sweeps are refused, for different reasons, and
the findings of the first one stay. -/
theorem refuses_laterRounds :
    let sweep := SweepState.fresh.scan twinSettings twins
    let emptied : Conditions := { twins with site := ⟨.empty, [], standardLevels⟩ }
    sweep.outcome = .ok () ∧
      (sweep.state.sweeps twinSettings laterRounds).map (·.outcome) =
        [.error (.rootMissing ⟨.here, ["d"]⟩), .error .sealed] ∧
      sweep.state.register.findings.count = 2 ∧
      List.Forall₂ (fun round later => twinSettings.Untouched round.1 sweep.state later)
        laterRounds (sweep.state.sweeps twinSettings laterRounds) ∧
      ¬ emptied.site.HasDirectory twinSettings.scope.root ∧
      twinSettings.Untouched emptied .fresh (SweepState.fresh.scan twinSettings emptied) := by
  have hok : (SweepState.fresh.scan twinSettings twins).outcome = .ok () := by cbv
  have hmissing : ¬ (⟨.empty, [], standardLevels⟩ : Site).HasDirectory twinSettings.scope.root := by
    rw [← Site.isDir_eq_true_iff]
    have hdir : (⟨.empty, [], standardLevels⟩ : Site).isDir twinSettings.scope.root =
        .ok false := by cbv
    rw [hdir]
    simp
  have hrounds := (SweepState.refuses_iff .fresh twinSettings twins (inOrder 2)).2 hok laterRounds
  have hemptied := (SweepState.refuses_iff .fresh twinSettings
    { twins with site := ⟨.empty, [], standardLevels⟩ } (inOrder 2)).1 (.inl hmissing)
  exact ⟨hok, by cbv, by cbv, hrounds.imp fun _ _ h => h.1, hmissing, hemptied.1⟩

/-- A name that is too long. -/
def longName : Text := Text.ofChars (List.replicate 256 'a')

/-- A sweep of a directory of that name. -/
def longSettings : Settings :=
  { twinSettings with scope := ⟨⟨.here, [longName]⟩, [Glob.parse "*.cs"], [], none⟩ }

set_option maxRecDepth 2000 in
/-- **A root whose name is too long.** No such directory exists, but that is not what the sweep
ends with. -/
theorem not_endsRightly_longName :
    ¬ twins.site.HasDirectory longSettings.scope.root ∧
      ¬ longSettings.EndsRightly twins (SweepState.fresh.scan longSettings twins) := by
  have hdir : twins.site.isDir longSettings.scope.root = .error ⟨.nameTooLong, longName⟩ := by cbv
  have houtcome : (SweepState.fresh.scan longSettings twins).outcome =
      .error (.hindered (.os ⟨.nameTooLong, longName⟩)) := by cbv
  refine ⟨?_, Settings.not_endsRightly_hindered houtcome⟩
  rw [← Site.isDir_eq_true_iff, hdir]
  simp

end HangulLint
