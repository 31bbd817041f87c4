import HangulLint.Proofs.ExactSelection
import HangulLint.Proofs.OrderIndependence
import HangulLint.Proofs.StandardRun
import HangulLint.Proofs.Tally

/-!
# Files with keys of their own

Everything that is kept of a file is kept under its key: the findings, the entries of the report,
the message if it cannot be read. This is meant to tell files apart. It does as long as no two files
of a selection share a key, and then a key stands for one file: what is under it are the findings of
this file and of no other, and there are as many messages as files that cannot be read.

A key is the text of a path with slashes in the place of backslashes. So the key forgets whether two
names stood next to each other in a path, or in one name with a backslash between them, and it
forgets nothing else (`Path.key_below_eq_iff`). Where no name has a backslash, every file has its
own key (`Scope.toldApart_of_plain`).

* `Path.cutNames` — what a key tells of the names below a root;
* `Failures.keys_put`, `Course.nodup_failures` — no key has two messages;
* `Settings.OwnKeys` — what keys are meant for;
* `SweepState.ownKeys_iff` — when they serve that end.
-/

namespace HangulLint

/-! ### What a key tells -/

namespace Path

/-- The sign that a key has a slash for. -/
def backslash : Glyph := .scalar '\\'

/-- Names, cut at their backslashes. -/
def cutNames (names : List Text) : List Text := names.flatMap (pieces backslash)

theorem slashed_append (s t : Text) : slashed (s ++ t) = slashed s ++ slashed t :=
  List.map_append

theorem slashed_joined (names : List Text) :
    slashed (joined [slash] names) = joined [slash] (names.map slashed) := by
  induction names with
  | nil => rfl
  | cons name more ih =>
    cases more with
    | nil => rfl
    | cons next more =>
      rw [joined, slashed_append, slashed_append, ih]
      rfl

/-- A name without slashes is cut at its backslashes once they are slashes. -/
theorem pieces_slashed {name : Text} (h : slash ∉ name) :
    pieces slash (slashed name) = pieces backslash name := by
  induction name with
  | nil => rfl
  | cons g name ih =>
    rw [List.mem_cons, not_or] at h
    have ihname := ih h.2
    by_cases hg : g = backslash
    · subst hg
      exact (pieces_cons_sep slash (slashed name)).trans (by rw [ihname, pieces_cons_sep])
    · have hslashed : slashed (g :: name) = g :: slashed name := by
        rw [slashed, List.map_cons]
        exact congrArg (· :: slashed name) (if_neg hg)
      rw [hslashed, pieces_cons_of_ne (Ne.symm h.1), pieces_cons_of_ne hg, ihname]

theorem joined_append (sep : Text) {first second : List Text} (h : first ≠ []) (h' : second ≠ []) :
    joined sep (first ++ second) = joined sep first ++ sep ++ joined sep second := by
  induction first with
  | nil => exact absurd rfl h
  | cons name more ih =>
    cases more with
    | nil =>
      obtain ⟨next, rest, rfl⟩ := List.exists_cons_of_ne_nil h'
      rfl
    | cons next more =>
      rw [List.cons_append, List.cons_append, joined, joined, ← List.cons_append, ih (by simp)]
      simp only [List.append_assoc]

/-- The text of a path below a directory: what stands before the names depends on the directory
alone. -/
theorem exists_text_below (directory : Path) : ∃ front, ∀ names, names ≠ [] →
    (directory.below names).text = front ++ joined [slash] names := by
  have htext : ∀ names, names ≠ [] → (directory.below names).text =
      directory.origin.text ++ joined [slash] (directory.names ++ names) := by
    intro names hproper
    rw [text, if_neg]
    · rfl
    · intro h
      exact hproper (List.append_eq_nil_iff.1 (congrArg Path.names h)).2
  by_cases hnames : directory.names = []
  · refine ⟨directory.origin.text, fun names hproper => ?_⟩
    rw [htext names hproper, hnames, List.nil_append]
  · refine ⟨directory.origin.text ++ (joined [slash] directory.names ++ [slash]),
      fun names hproper => ?_⟩
    rw [htext names hproper, joined_append [slash] hnames hproper, ← List.append_assoc]

/-- The key of a path below a directory begins in the same way. -/
theorem exists_key_below (directory : Path) : ∃ front, ∀ names, names ≠ [] →
    (directory.below names).key = front ++ slashed (joined [slash] names) := by
  obtain ⟨front, hfront⟩ := exists_text_below directory
  refine ⟨slashed front, fun names hproper => ?_⟩
  rw [key, hfront names hproper, slashed_append]

/-- Names are what is between the slashes of their key, cut at their backslashes. -/
theorem pieces_slashed_joined {names : List Text} (h : names ≠ [])
    (hslash : ∀ name ∈ names, slash ∉ name) :
    pieces slash (slashed (joined [slash] names)) = cutNames names := by
  have hproper : names.map slashed ≠ [] := by simpa using h
  rw [slashed_joined, pieces_joined slash hproper, List.flatMap_map, cutNames]
  exact List.flatMap_congr fun name hname => pieces_slashed (hslash name hname)

/-- **What a key tells.** Two paths below a directory have one key exactly if their names are the
same once they are cut at their backslashes. -/
theorem key_below_eq_iff {directory : Path} {names names' : List Text} (h : names ≠ [])
    (h' : names' ≠ []) (hslash : ∀ name ∈ names, slash ∉ name)
    (hslash' : ∀ name ∈ names', slash ∉ name) :
    (directory.below names).key = (directory.below names').key ↔
      cutNames names = cutNames names' := by
  obtain ⟨front, hfront⟩ := exists_key_below directory
  rw [hfront names h, hfront names' h', List.append_cancel_left_eq,
    ← pieces_slashed_joined h hslash, ← pieces_slashed_joined h' hslash']
  constructor
  · exact congrArg (pieces slash)
  · intro hpieces
    calc slashed (joined [slash] names)
        = joined [slash] (pieces slash (slashed (joined [slash] names))) :=
          (joined_pieces ..).symm
      _ = joined [slash] (pieces slash (slashed (joined [slash] names'))) := by rw [hpieces]
      _ = slashed (joined [slash] names') := joined_pieces ..

/-- Names without backslashes are told by what their key tells. -/
theorem cutNames_of_plain {names : List Text} (h : ∀ name ∈ names, backslash ∉ name) :
    cutNames names = names := by
  have hpieces : names.flatMap (pieces backslash) = names.flatMap fun name => [name] :=
    List.flatMap_congr fun name hname => pieces_of_notMem (h name hname)
  rw [cutNames, hpieces, List.flatMap_singleton']

end Path

/-! ### One message for each key -/

/-- The keys that a message leaves: a new key comes last. -/
theorem Failures.keys_put (key message : Text) (failures : Failures) :
    (failures.put key message).map (·.1) =
      if key ∈ failures.map (·.1) then failures.map (·.1) else failures.map (·.1) ++ [key] := by
  induction failures with
  | nil => simp [put]
  | cons entry rest ih =>
    obtain ⟨k, m⟩ := entry
    by_cases hk : k = key
    · simp [put, hk]
    · have hne : key ≠ k := Ne.symm hk
      simp only [put, hk, if_false, List.map_cons, ih, List.mem_cons, hne, false_or]
      split <;> simp

theorem Failures.mem_keys_iff {failures : Failures} {key : Text} :
    key ∈ failures.map (·.1) ↔ failures.lookup key ≠ none := by
  rw [ne_eq, List.lookup_eq_none_iff]
  constructor
  · intro hkey hnone
    obtain ⟨entry, hentry, rfl⟩ := List.mem_map.1 hkey
    simpa using hnone entry hentry
  · intro hsome
    by_contra hkey
    refine hsome fun entry hentry => ?_
    have hne : key ≠ entry.1 := fun h => hkey (h ▸ List.mem_map_of_mem hentry)
    simpa using hne

theorem Failures.nodup_put {failures : Failures} (h : (failures.map (·.1)).Nodup)
    (key message : Text) : ((failures.put key message).map (·.1)).Nodup := by
  rw [keys_put]
  split
  · exact h
  · next hkey =>
    -- a new key comes last, and it was not there
    refine List.nodup_append.2 ⟨h, by simp, fun a ha b hb hab => hkey ?_⟩
    rw [← List.mem_singleton.1 hb, ← hab]
    exact ha

namespace Course

/-- No key has two messages. -/
theorem nodup_failures {jobs : List Job} (verbose : Bool) (moves : List Move) :
    ((((Course.start .empty jobs).run verbose moves).failures).map (·.1)).Nodup := by
  refine run_induction (P := fun course => (course.failures.map (·.1)).Nodup)
    (fun course next move _ t h => ?_) moves
    (Sound.start rfl .nil jobs : Sound jobs (Course.start .empty jobs)) List.nodup_nil
  -- one rule leaves a message, and the others touch none
  cases t with
  | miss entry running other => exact Failures.nodup_put h _ _
  | _ => simpa using h

end Course

namespace Settings

variable {settings : Settings} {conditions : Conditions} {selection : Scope.Selection}

/-- Whether the file of a target cannot be inspected. -/
def fails (settings : Settings) (conditions : Conditions) (target : Target) : Bool :=
  !(inspect conditions.site conditions.library (conditions.guesser target.2) settings.rule
    target.2).isOk

theorem complaint?_job_eq_none (target : Target) :
    (settings.job conditions target).complaint? = none ↔
      settings.fails conditions target = false := by
  obtain ⟨key, path⟩ := target
  rw [Job.complaint?, job, fails]
  cases inspect conditions.site conditions.library (conditions.guesser path) settings.rule path <;>
    simp [Except.isOk, Except.toBool]

/-- There is a message under a key exactly if a file with that key cannot be inspected. -/
theorem mem_keys_failures {state : SweepState}
    (hsummary : Summary (settings.jobs conditions selection) state) {key : Text} :
    key ∈ state.failures.map (·.1) ↔
      ∃ target ∈ selection.targets, settings.fails conditions target = true ∧ target.1 = key := by
  rw [Failures.mem_keys_iff]
  constructor
  · intro hne
    obtain ⟨message, hmessage⟩ := Option.ne_none_iff_exists'.1 hne
    obtain ⟨job, hjob, hkey, hcomplaint⟩ := hsummary.source key message hmessage
    obtain ⟨target, htarget, rfl⟩ := List.mem_map.1 hjob
    refine ⟨target, htarget, ?_, hkey⟩
    rw [← Bool.not_eq_false, ← complaint?_job_eq_none, hcomplaint]
    simp
  · rintro ⟨target, htarget, hfails, rfl⟩ hnone
    have hquiet := hsummary.silent _ hnone _ (List.mem_map_of_mem htarget) rfl
    rw [complaint?_job_eq_none, hfails] at hquiet
    exact absurd hquiet (by simp)

/-- As many messages as files that cannot be inspected, if no two files share a key. -/
theorem length_failures {state : SweepState} (hnodup : (state.failures.map (·.1)).Nodup)
    (hsummary : Summary (settings.jobs conditions selection) state)
    (hkeys : (selection.targets.map (·.1)).Nodup) :
    state.failures.length = (selection.targets.filter (settings.fails conditions)).length := by
  have hperm : (state.failures.map (·.1)).Perm
      ((selection.targets.filter (settings.fails conditions)).map (·.1)) := by
    refine (List.perm_ext_iff_of_nodup hnodup
      (hkeys.sublist (List.filter_sublist.map _))).2 fun key => ?_
    rw [mem_keys_failures hsummary]
    simp only [List.mem_map, List.mem_filter, and_assoc]
  simpa using hperm.length_eq

/-! ### What keys are meant for -/

/-- **Every file has its own key.** What a sweep leaves of a file is told apart from what it leaves
of the others. -/
structure OwnKeys (settings : Settings) (conditions : Conditions) (targets : List Target)
    (state : SweepState) : Prop where
  /-- No two files share a key. -/
  distinct : (targets.map (·.1)).Nodup
  /-- What is under a key are the findings of one file, which no other shares the key with. -/
  unmixed : ∀ entry ∈ state.register.findings, ∃ path,
    targets.filter (·.1 = entry.1) = [(entry.1, path)] ∧
      entry.2 = settings.found conditions (entry.1, path)
  /-- There are as many messages as files that cannot be inspected. -/
  failed : state.failures.length = (targets.filter (settings.fails conditions)).length

end Settings

namespace Scope

variable {scope : Scope} {site : Site} {size : Path → Except OsError Nat} {selection : Selection}

/-- The files among some targets are told apart by their names below the root, cut at their
backslashes. -/
def ToldApart (scope : Scope) (targets : List Target) : Prop :=
  ∀ names names', target (scope.root.below names) ∈ targets →
    target (scope.root.below names') ∈ targets →
    Path.cutNames names = Path.cutNames names' → names = names'

/-- Names without backslashes tell files apart. -/
theorem toldApart_of_plain {targets : List Target}
    (h : ∀ names, target (scope.root.below names) ∈ targets →
      ∀ name ∈ names, Path.backslash ∉ name) : scope.ToldApart targets := by
  intro names names' hnames hnames' hcut
  rwa [Path.cutNames_of_plain (h names hnames), Path.cutNames_of_plain (h names' hnames')] at hcut

/-- What is selected has names below the root, as files can have them. -/
theorem names_of_mem_select (hroot : site.isDir scope.root = .ok true)
    (h : scope.select site size = .ok selection) {found : Target}
    (hfound : found ∈ selection.targets) :
    ∃ names, names ≠ [] ∧ (∀ name ∈ names, Path.slash ∉ name) ∧
      found = target (scope.root.below names) := by
  obtain ⟨-, location, hland⟩ := land_of_isDir hroot
  obtain ⟨names, node, hproper, hentry, -, rfl⟩ := (mem_select hroot hland h).1 hfound
  refine ⟨names, hproper, fun name hname => ?_, rfl⟩
  have hnamed := site.tree.named _ hentry name (List.mem_append_right _ hname)
  simp only [isFileName, Bool.and_eq_true, Bool.not_eq_true'] at hnamed
  simpa using hnamed.1.1.2

/-- **When no two files share a key.** -/
theorem nodup_keys_iff (h : scope.select site size = .ok selection) :
    (selection.targets.map (·.1)).Nodup ↔ scope.ToldApart selection.targets := by
  by_cases hroot : site.isDir scope.root = .ok true
  · obtain ⟨-, location, hland⟩ := land_of_isDir hroot
    have hbelow : ∀ names names', target (scope.root.below names) =
        target (scope.root.below names') → names = names' := fun names names' heq =>
      List.append_cancel_left (Path.mk.inj (Prod.mk.inj heq).2).2
    -- the same names under the same root make for the same key, once they are cut
    have hkey : ∀ names names', target (scope.root.below names) ∈ selection.targets →
        target (scope.root.below names') ∈ selection.targets →
        ((scope.root.below names).key = (scope.root.below names').key ↔
          Path.cutNames names = Path.cutNames names') := by
      intro names names' hnames hnames'
      obtain ⟨own, hproper, hslash, heq⟩ := names_of_mem_select hroot h hnames
      obtain ⟨own', hproper', hslash', heq'⟩ := names_of_mem_select hroot h hnames'
      obtain rfl := hbelow names own heq
      obtain rfl := hbelow names' own' heq'
      exact Path.key_below_eq_iff hproper hproper' hslash hslash'
    constructor
    · intro hnodup names names' hnames hnames' hcut
      have hsame : (scope.root.below names).key = (scope.root.below names').key :=
        (hkey names names' hnames hnames').2 hcut
      exact hbelow names names' (List.inj_on_of_nodup_map hnodup hnames hnames' hsame)
    · intro hapart
      refine List.Nodup.map_on (fun found hfound found' hfound' hsame => ?_)
        (nodup_select hroot hland h)
      obtain ⟨names, -, -, rfl⟩ := names_of_mem_select hroot h hfound
      obtain ⟨names', -, -, rfl⟩ := names_of_mem_select hroot h hfound'
      rw [hapart names names' hfound hfound' ((hkey names names' hfound hfound').1 hsame)]
  · -- nothing is selected where the root is no directory
    have hnone : selection.targets = [] := by
      rw [select_of_missing hroot] at h
      cases hanswer : site.isDir scope.root with
      | error error => simp [hanswer, Except.map, Except.mapError] at h
      | ok answer =>
        rw [hanswer] at h
        obtain rfl := Except.ok.inj h
        rfl
    simp [hnone, ToldApart]

end Scope

namespace SweepState

variable {settings : Settings} {conditions : Conditions} {selection : Scope.Selection}

/-- **When every file has its own key.** Of the files of a selection, no two share a key exactly if
they are told apart by their names below the root once these are cut at their backslashes. A sweep
that comes to its end, under whatever schedule, then leaves the findings of each file under a key
that no other file has, and as many messages as files that cannot be inspected. -/
theorem ownKeys_iff
    (hselect : settings.scope.select conditions.site conditions.size = .ok selection) :
    ((selection.targets.map (·.1)).Nodup ↔ settings.scope.ToldApart selection.targets) ∧
    ∀ (state : SweepState) (schedule : List Job → List Move),
      settings.Exhausts conditions schedule →
      (state.scanBy settings conditions schedule).outcome = .ok () →
      (settings.OwnKeys conditions selection.targets
          (state.scanBy settings conditions schedule).state ↔
        settings.scope.ToldApart selection.targets) := by
  refine ⟨Scope.nodup_keys_iff hselect, fun state schedule hexhausts hok => ?_⟩
  rw [← Scope.nodup_keys_iff hselect]
  refine ⟨fun h => h.distinct, fun hkeys => ⟨hkeys, ?_, ?_⟩⟩
  · rintro ⟨key, found⟩ hentry
    obtain ⟨-, horderly, hshuffle⟩ := register_of_scanBy (open_of_ok hok) hselect hexhausts hok
    -- something is under the key, so a file has it that can be read, and no other file has it
    obtain ⟨hunder, hne⟩ := horderly.mem_iff.1 hentry
    obtain ⟨finding, hfinding⟩ := List.exists_mem_of_ne_nil _ hne
    obtain ⟨path, content, htarget, hread, -⟩ :=
      (Settings.exists_target hshuffle).1 (hunder ▸ hfinding)
    have honly := Options.filter_key_eq hkeys htarget
    refine ⟨path, honly, ?_⟩
    rw [← hunder, Settings.under_eq_findingsIn hshuffle honly hread, Settings.found, inspect, hread]
    rfl
  · obtain ⟨selection', hselect', -, hrunning, hstate⟩ := scanBy_ok (open_of_ok hok) hok
    obtain rfl : selection = selection' := Except.ok.inj (hselect.symm.trans hselect')
    rw [hstate]
    exact Settings.length_failures (Course.nodup_failures settings.verbose _)
      (Settings.summary_of_course (hexhausts selection hselect) hrunning) hkeys

end SweepState

/-- Two files in one directory, and neither name has a backslash: each has its own key, and there is
a message for the one that is binary. -/
theorem ownKeys_pair :
    let conditions := (pairLaunch (.file [0])).conditions
    let state := (SweepState.fresh.scan twinSettings conditions).state
    ∃ selection, twinSettings.scope.select conditions.site conditions.size = .ok selection ∧
      selection.targets.length = 2 ∧ state.failures.length = 1 ∧
      twinSettings.OwnKeys conditions selection.targets state := by
  intro conditions state
  have hselect : twinSettings.scope.select conditions.site conditions.size =
      .ok ⟨[("d/a.cs", ⟨.here, ["d", "a.cs"]⟩), ("d/x.cs", ⟨.here, ["d", "x.cs"]⟩)], []⟩ := by cbv
  have hok : (SweepState.fresh.scan twinSettings conditions).outcome = .ok () := by cbv
  have hfailures : (SweepState.fresh.scan twinSettings
      (pairLaunch (.file [0])).conditions).state.failures.length = 1 := by cbv
  obtain ⟨hkeys, hown⟩ := SweepState.ownKeys_iff hselect
  exact ⟨_, hselect, rfl, hfailures,
    (hown .fresh (inOrder 2) (twinSettings.exhausts_inOrder conditions 2) hok).2
      (hkeys.1 (by decide))⟩

/-- **A backslash in a name.** Two files share a key, so that their findings are mixed. -/
theorem not_ownKeys_twins :
    let sweep := SweepState.fresh.scan twinSettings twins
    sweep.outcome = .ok () ∧
      twinSettings.scope.select twins.site twins.size = .ok ⟨twinTargets, []⟩ ∧
      ¬ (twinTargets.map (·.1)).Nodup ∧
      ¬ twinSettings.OwnKeys twins twinTargets sweep.state := by
  refine ⟨by cbv, select_twins, by decide, fun h => ?_⟩
  exact absurd h.distinct (by decide)

end HangulLint
