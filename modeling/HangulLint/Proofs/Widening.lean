import HangulLint.Proofs.Grouping
import HangulLint.Proofs.Isolation
import Mathlib

/-!
# Sweeps that look for more

A sweep looks for more if it takes more name patterns, passes over fewer directories and lines, and
lets larger files through. Each of these filters is a test on its own, so what passes the narrower
ones passes the wider ones: a file that the narrower sweep selects is selected by the wider one
(`Scope.Narrower.targets_sublist`), and a line that it reports is reported
(`Rule.Stricter.findingsIn_sublist`). Whether a file can be read is no matter of the filters. So the
wider sweep finds whatever the narrower one finds, as often, and fails on whatever it fails on.

There is one way in which looking for more can bring less. The wider sweep asks about more paths,
and where the system refuses to answer about one of them, the sweep ends before it has read a file.
The narrower sweep may never have asked about that path (`SweepState.scanBy_covers_iff`).

* `Settings.Narrower` — one sweep looks for less than another;
* `Settings.Covers` — what the wider sweep is meant to leave;
* `SweepState.scanBy_covers_iff` — when it does, and that order, repetition and superfluous words
  make no difference at all.
-/

namespace HangulLint

section Sublists

variable {α β : Type} {f g : α → Option (List β)}

/-- Where one function gives parts of what another gives, the same holds of all together. -/
theorem flatten_filterMap_sublist
    (h : ∀ a part, f a = some part → ∃ whole, g a = some whole ∧ part.Sublist whole) (s : List α) :
    (s.filterMap f).flatten.Sublist (s.filterMap g).flatten := by
  induction s with
  | nil => exact List.Sublist.refl _
  | cons a s ih =>
    cases hf : f a with
    | none =>
      -- the other function may give something where this one gives nothing
      rw [List.filterMap_cons_none hf]
      cases hg : g a with
      | none =>
        rw [List.filterMap_cons_none hg]
        exact ih
      | some whole =>
        rw [List.filterMap_cons_some hg, List.flatten_cons]
        exact ih.trans (List.sublist_append_right _ _)
    | some part =>
      obtain ⟨whole, hg, hpart⟩ := h a part hf
      rw [List.filterMap_cons_some hf, List.filterMap_cons_some hg, List.flatten_cons,
        List.flatten_cons]
      exact hpart.append ih

end Sublists

/-! ### Lines -/

namespace Rule

/-- **A stricter rule.** The target is the same, and every word that the laxer rule excludes holds
one that the stricter rule excludes. -/
structure Stricter (strict lax : Rule) : Prop where
  target : strict.target = lax.target
  excluded : ∀ word ∈ lax.excluded, ∃ part ∈ strict.excluded, part <:+: word

variable {strict lax : Rule} {text line : List Char}

theorem Stricter.excludes (h : strict.Stricter lax) (hlax : lax.excludes text = true) :
    strict.excludes text = true := by
  obtain ⟨word, hword, hoccurs⟩ := List.any_eq_true.1 hlax
  obtain ⟨part, hpart, hwithin⟩ := h.excluded word hword
  -- a part of a word occurs where the word does
  have hpartOccurs : part <:+: text := List.IsInfix.trans hwithin (occursIn_iff.1 hoccurs)
  exact List.any_eq_true.2 ⟨part, hpart, occursIn_iff.2 hpartOccurs⟩

theorem Stricter.report?_eq (h : strict.Stricter lax) {reported : List Char}
    (hstrict : strict.report? line = some reported) : lax.report? line = some reported := by
  simp only [report?, flags, Option.ite_none_right_eq_some, Bool.and_eq_true,
    Bool.not_eq_true'] at hstrict ⊢
  obtain ⟨⟨⟨hplain, hquoted⟩, htarget⟩, hreported⟩ := hstrict
  have hplainLax : lax.excludes (trimLine line) = false := by
    refine Bool.eq_false_iff.2 fun hlax => ?_
    rw [h.excludes hlax] at hplain
    exact absurd hplain (by simp)
  exact ⟨⟨⟨hplainLax, hquoted⟩, h.target ▸ htarget⟩, hreported⟩

theorem Stricter.findingsIn_sublist (h : strict.Stricter lax) (content : List Char) :
    (findingsIn strict content).Sublist (findingsIn lax content) := by
  rw [findingsIn, findingsIn, findingsFrom, findingsFrom]
  induction (lines content).zipIdx 1 with
  | nil => exact List.Sublist.refl _
  | cons numbered rest ih =>
    obtain ⟨line, number⟩ := numbered
    cases hstrict : strict.report? line with
    | none =>
      rw [List.filterMap_cons_none (by simp [hstrict])]
      exact ih.trans ((List.sublist_cons_self _ _).filterMap _)
    | some reported =>
      -- the same finding comes of the line under both rules
      have hlax : lax.report? line = some reported := h.report?_eq hstrict
      simpa only [List.filterMap_cons, hstrict, hlax, Option.map_some] using ih.cons_cons _

end Rule

/-! ### Files -/

namespace Scope

/-- **A narrower scope.** Below the same root, it takes fewer name patterns, passes over more
directories, and does not let larger files through. -/
structure Narrower (narrow wide : Scope) : Prop where
  root : narrow.root = wide.root
  globs : narrow.globs ⊆ wide.globs
  excludedDirs : wide.excludedDirs ⊆ narrow.excludedDirs
  sizeLimit : ∀ limit, wide.sizeLimit = some limit →
    ∃ limit', narrow.sizeLimit = some limit' ∧ limit' ≤ limit

variable {narrow wide : Scope} {site : Site} {size : Path → Except OsError Nat} {path : Path}

theorem Narrower.wants (h : narrow.Narrower wide) {name : Text}
    (hnarrow : narrow.globs.any (Glob.admits · name) = true) :
    wide.globs.any (Glob.admits · name) = true := by
  obtain ⟨glob, hglob, hadmits⟩ := List.any_eq_true.1 hnarrow
  exact List.any_eq_true.2 ⟨glob, h.globs hglob, hadmits⟩

theorem Narrower.excludesDir (h : narrow.Narrower wide)
    (hnarrow : narrow.excludesDir path = false) : wide.excludesDir path = false := by
  rw [Scope.excludesDir, List.any_eq_false] at hnarrow ⊢
  intro name hname hwide
  rw [directoriesOf, ← h.root] at hname
  refine hnarrow name hname (List.contains_iff_mem.2 (h.excludedDirs ?_))
  exact List.contains_iff_mem.1 hwide

theorem Narrower.picks (h : narrow.Narrower wide) (hnarrow : narrow.picks site size path = true) :
    wide.picks site size path = true := by
  obtain ⟨hwanted, hfile, hdirs, hsmall⟩ := picks_iff.1 hnarrow
  refine picks_iff.2 ⟨h.wants hwanted, hfile, h.excludesDir hdirs, fun limit hlimit => ?_⟩
  -- the narrower scope has a limit too, and one that is no larger
  obtain ⟨limit', hlimit', hle⟩ := h.sizeLimit limit hlimit
  obtain ⟨bytes, hsize, hbytes⟩ := hsmall limit' hlimit'
  exact ⟨bytes, hsize, by omega⟩

/-- What a directory shows depends on the root alone. -/
theorem Narrower.lists_eq (h : narrow.Narrower wide) :
    narrow.lists site path = wide.lists site path := by
  rw [Bool.eq_iff_iff, lists_eq_true_iff, lists_eq_true_iff, depth, depth, h.root]

/-- The wider selection goes through the files of the narrower one in the same order. -/
theorem Narrower.targets_sublist (h : narrow.Narrower wide) {selection selection' : Selection}
    (hroot : site.isDir narrow.root = .ok true)
    (hselect : narrow.select site size = .ok selection)
    (hselect' : wide.select site size = .ok selection') :
    selection.targets.Sublist selection'.targets := by
  obtain ⟨-, location, hland⟩ := land_of_isDir hroot
  -- what is looked at is told by the root alone
  have hfound : narrow.found site location = wide.found site location := by
    simp only [found, h.root, h.lists_eq]
  have htargets := (select_ok hroot hland hselect).1
  have htargets' := (select_ok (h.root ▸ hroot) (h.root ▸ hland) hselect').1
  rw [htargets, htargets', hfound]
  refine (List.monotone_filter_right _ fun path hnarrow => ?_).map _
  exact h.picks hnarrow

/-- The narrower scope asks about fewer paths. -/
theorem Narrower.reaches (h : narrow.Narrower wide) (hwide : wide.Reaches site) :
    narrow.Reaches site := by
  intro location hroot hland names node hproper hentry
  obtain ⟨hdepth, hshort⟩ :=
    hwide location (h.root ▸ hroot) (h.root ▸ hland) names node hproper hentry
  refine ⟨hdepth, fun hasked => ?_⟩
  rw [h.root] at hasked ⊢
  exact hshort (hasked.imp_right h.wants)

end Scope

/-! ### Sweeps -/

namespace Settings

/-- **A sweep that looks for less.** How many files are inspected at once, what the journal tells,
and whether a progress bar is shown may differ in any way. -/
structure Narrower (narrow wide : Settings) : Prop where
  scope : narrow.scope.Narrower wide.scope
  rule : narrow.rule.Stricter wide.rule

/-- The root is a directory, and this is what is selected below it. -/
def Selects (settings : Settings) (conditions : Conditions) (selection : Scope.Selection) : Prop :=
  conditions.site.isDir settings.scope.root = .ok true ∧
    settings.scope.select conditions.site conditions.size = .ok selection

/-- A file is selected, and there is a fault that keeps it from being inspected. -/
def FailsOn (settings : Settings) (conditions : Conditions) (target : Target) (fault : FileFault) :
    Prop :=
  ∃ selection, settings.Selects conditions selection ∧ target ∈ selection.targets ∧
    (settings.job conditions target).outcome = .error fault

/-- **Looking for more brings no less.** What a sweep leaves that looks for more than another. -/
structure Covers (narrow wide : Settings) (conditions : Conditions) (sweep sweep' : Sweep) :
    Prop where
  /-- Every file on which the narrower sweep fails is selected by the wider one, which fails on it
  for the same reason. -/
  failed : ∀ target fault, narrow.FailsOn conditions target fault →
    wide.FailsOn conditions target fault
  /-- Every key that has a message has one. -/
  messages : ∀ key, sweep.state.failures.lookup key ≠ none →
    sweep'.state.failures.lookup key ≠ none
  /-- Every finding, with its key, is there at least as often. -/
  findings : sweep.state.register.findings.entries.Subperm
    sweep'.state.register.findings.entries

variable {settings narrow wide : Settings} {conditions : Conditions}
  {selection selection' : Scope.Selection}

theorem exists_selects_iff : (∃ selection, settings.Selects conditions selection) ↔
    conditions.site.isDir settings.scope.root = .ok true ∧
      settings.scope.Reaches conditions.site := by
  constructor
  · rintro ⟨selection, hroot, hselect⟩
    exact ⟨hroot, (Scope.exists_select_iff_reaches hroot).1 ⟨selection, hselect⟩⟩
  · rintro ⟨hroot, hreaches⟩
    have hselect : ∃ selection, settings.scope.select conditions.site conditions.size =
        .ok selection := (Scope.exists_select_iff_reaches hroot).2 hreaches
    exact hselect.imp fun selection hselect => ⟨hroot, hselect⟩

theorem Narrower.exists_selects (h : narrow.Narrower wide)
    (hreaches : wide.scope.Reaches conditions.site)
    (hselects : narrow.Selects conditions selection) :
    ∃ selection', wide.Selects conditions selection' :=
  exists_selects_iff.2 ⟨h.scope.root ▸ hselects.1, hreaches⟩

theorem outcome_job_error {target : Target} {fault : FileFault} :
    (settings.job conditions target).outcome = .error fault ↔
      readSource conditions.site conditions.library (conditions.guesser target.2) target.2 =
        .error fault := by
  rw [outcome_job]
  cases readSource conditions.site conditions.library (conditions.guesser target.2) target.2 <;>
    simp [Except.map]

theorem Narrower.failsOn (h : narrow.Narrower wide)
    (hreaches : wide.scope.Reaches conditions.site) {target : Target} {fault : FileFault}
    (hfails : narrow.FailsOn conditions target fault) : wide.FailsOn conditions target fault := by
  obtain ⟨selection, hselects, htarget, houtcome⟩ := hfails
  obtain ⟨selection', hselects'⟩ := h.exists_selects hreaches hselects
  have hsublist := h.scope.targets_sublist hselects.1 hselects.2 hselects'.2
  -- the file cannot be read, whichever rule would have been applied to it
  have hread := outcome_job_error.1 houtcome
  exact ⟨selection', hselects', hsublist.subset htarget, outcome_job_error.2 hread⟩

theorem Narrower.shares_sublist (h : narrow.Narrower wide)
    (hselects : narrow.Selects conditions selection)
    (hselects' : wide.Selects conditions selection') (key : Text) :
    (selection.targets.filterMap (narrow.share conditions key)).flatten.Sublist
      (selection'.targets.filterMap (wide.share conditions key)).flatten := by
  have hfiles : selection.targets.Sublist selection'.targets :=
    h.scope.targets_sublist hselects.1 hselects.2 hselects'.2
  have hshares : ∀ target found, narrow.share conditions key target = some found →
      ∃ found', wide.share conditions key target = some found' ∧ found.Sublist found' := by
    -- both read the same from the file, and the stricter rule finds less in it
    intro target found hshare
    obtain ⟨hkey, content, hread, rfl⟩ := share_eq_some.1 hshare
    exact ⟨_, share_eq_some.2 ⟨hkey, content, hread, rfl⟩, h.rule.findingsIn_sublist content⟩
  exact (hfiles.filterMap _).flatten.trans (flatten_filterMap_sublist hshares _)

end Settings

namespace SweepState

section One

variable {state : SweepState} {settings : Settings} {conditions : Conditions}
  {schedule : List Job → List Move} {selection : Scope.Selection}

/-- A sweep that cannot select its files leaves the state as it is. -/
theorem state_of_unselected (h : ¬ ∃ selection, settings.Selects conditions selection) :
    (state.scanBy settings conditions schedule).state = state := by
  cases hroot : conditions.site.isDir settings.scope.root with
  | error error => simp only [scanBy, hroot]
  | ok isDirectory =>
    cases isDirectory with
    | false => simp only [scanBy, hroot]
    | true =>
      cases hselect : settings.scope.select conditions.site conditions.size with
      | error error => simp only [scanBy, hroot, hselect]
      | ok selection => exact absurd ⟨selection, hroot, hselect⟩ h

theorem isolates_of_selects (hundisturbed : conditions.Undisturbed)
    (hexhausts : settings.Exhausts conditions schedule)
    (hmoves : ∀ jobs, Move.interrupt ∉ schedule jobs)
    (hselects : settings.Selects conditions selection) :
    settings.Isolates conditions selection (fresh.scanBy settings conditions schedule) := by
  obtain ⟨hroot, hselect⟩ := hselects
  obtain ⟨-, location, hland⟩ := Scope.land_of_isDir hroot
  exact isolates_of_select rfl hroot hland hundisturbed hexhausts hmoves hselect

/-- What a sweep from the first state leaves is in order, whether it selects its files or not. -/
theorem orderly_scanBy (hundisturbed : conditions.Undisturbed)
    (hexhausts : settings.Exhausts conditions schedule)
    (hmoves : ∀ jobs, Move.interrupt ∉ schedule jobs) :
    (fresh.scanBy settings conditions schedule).state.register.findings.Orderly := by
  by_cases hselects : ∃ selection, settings.Selects conditions selection
  · obtain ⟨selection, hselects⟩ := hselects
    have hok := (isolates_of_selects hundisturbed hexhausts hmoves hselects).returns
    exact (register_of_scanBy rfl hselects.2 hexhausts hok).2.1
  · rw [state_of_unselected hselects]
    exact .nil

end One

section Two

variable {narrow wide : Settings} {conditions : Conditions}
  {schedule schedule' : List Job → List Move}
  (hundisturbed : conditions.Undisturbed) (hexhausts : narrow.Exhausts conditions schedule)
  (hexhausts' : wide.Exhausts conditions schedule')
  (hmoves : ∀ jobs, Move.interrupt ∉ schedule jobs)
  (hmoves' : ∀ jobs, Move.interrupt ∉ schedule' jobs)
include hundisturbed hexhausts hmoves

/-- Where the narrower sweep leaves nothing, there is nothing to cover. -/
theorem covers_of_empty
    (hfindings : (fresh.scanBy narrow conditions schedule).state.register.findings = [])
    (hfailures : (fresh.scanBy narrow conditions schedule).state.failures = []) :
    narrow.Covers wide conditions (fresh.scanBy narrow conditions schedule)
      (fresh.scanBy wide conditions schedule') where
  failed := by
    rintro ⟨key, path⟩ fault ⟨selection, hselects, htarget, houtcome⟩
    -- a file that cannot be read would have left a message
    have hmessage := ((isolates_of_selects hundisturbed hexhausts hmoves hselects).failed
      key).2 ⟨path, fault, htarget, Settings.outcome_job_error.1 houtcome⟩
    rw [hfailures] at hmessage
    exact absurd rfl hmessage
  messages := by
    intro key hmessage
    rw [hfailures] at hmessage
    exact absurd rfl hmessage
  findings := by
    rw [hfindings]
    exact List.nil_subperm

/-- A sweep that is covered by one that cannot select its files leaves nothing. -/
theorem empty_of_covers (hreaches : ¬ wide.scope.Reaches conditions.site)
    (hcovers : narrow.Covers wide conditions (fresh.scanBy narrow conditions schedule)
      (fresh.scanBy wide conditions schedule')) :
    (fresh.scanBy narrow conditions schedule).state.register.findings = [] ∧
      (fresh.scanBy narrow conditions schedule).state.failures = [] := by
  have hstate : (fresh.scanBy wide conditions schedule').state = fresh :=
    state_of_unselected fun hselects => hreaches (Settings.exists_selects_iff.1 hselects).2
  obtain ⟨-, hmessages, hfindings⟩ := hcovers
  rw [hstate] at hmessages hfindings
  constructor
  · -- findings in order are told by their entries, and there are none
    have horderly := orderly_scanBy hundisturbed hexhausts hmoves
    rw [← Findings.grouped_entries horderly, List.subperm_nil.1 hfindings]
    rfl
  · refine List.eq_nil_iff_forall_not_mem.2 fun entry hentry => hmessages entry.1 ?_ rfl
    rw [ne_eq, List.lookup_eq_none_iff]
    intro hnone
    simpa using hnone entry hentry

include hexhausts' hmoves'

theorem findings_subperm (h : narrow.Narrower wide)
    (hreaches : wide.scope.Reaches conditions.site) :
    (fresh.scanBy narrow conditions schedule).state.register.findings.entries.Subperm
      (fresh.scanBy wide conditions schedule').state.register.findings.entries := by
  by_cases hselects : ∃ selection, narrow.Selects conditions selection
  · obtain ⟨selection, hselects⟩ := hselects
    obtain ⟨selection', hselects'⟩ := h.exists_selects hreaches hselects
    have hleft := isolates_of_selects hundisturbed hexhausts hmoves hselects
    have hright := isolates_of_selects hundisturbed hexhausts' hmoves' hselects'
    refine Findings.subperm_entries
      (orderly_scanBy hundisturbed hexhausts hmoves).nodup
      (orderly_scanBy hundisturbed hexhausts' hmoves').nodup fun key => ?_
    -- under each key, both are shuffles of what is found in the files
    have hshares := (h.shares_sublist hselects hselects' key).subperm
    exact ((hleft.findings key).perm.subperm.trans hshares).trans
      (hright.findings key).perm.symm.subperm
  · rw [state_of_unselected hselects]
    exact List.nil_subperm

theorem covers_of_reaches (h : narrow.Narrower wide)
    (hreaches : wide.scope.Reaches conditions.site) :
    narrow.Covers wide conditions (fresh.scanBy narrow conditions schedule)
      (fresh.scanBy wide conditions schedule') where
  failed := fun _ _ => h.failsOn hreaches
  findings := findings_subperm hundisturbed hexhausts hexhausts' hmoves hmoves' h hreaches
  messages := by
    intro key hmessage
    by_cases hselects : ∃ selection, narrow.Selects conditions selection
    · obtain ⟨selection, hselects⟩ := hselects
      obtain ⟨selection', hselects'⟩ := h.exists_selects hreaches hselects
      have hleft := isolates_of_selects hundisturbed hexhausts hmoves hselects
      have hright := isolates_of_selects hundisturbed hexhausts' hmoves' hselects'
      obtain ⟨path, fault, htarget, hread⟩ := (hleft.failed key).1 hmessage
      have hfiles := h.scope.targets_sublist hselects.1 hselects.2 hselects'.2
      exact (hright.failed key).2 ⟨path, fault, hfiles.subset htarget, hread⟩
    · rw [state_of_unselected hselects] at hmessage
      exact absurd rfl hmessage

/-- Sweeps of which each looks for less than the other find the same. -/
theorem entries_perm (h : narrow.Narrower wide) (hback : wide.Narrower narrow) :
    (fresh.scanBy narrow conditions schedule).state.register.findings.entries.Perm
      (fresh.scanBy wide conditions schedule').state.register.findings.entries := by
  by_cases hreaches : wide.scope.Reaches conditions.site
  · have hleft := findings_subperm hundisturbed hexhausts hexhausts' hmoves hmoves' h hreaches
    have hright := findings_subperm hundisturbed hexhausts' hexhausts hmoves' hmoves hback
      (h.scope.reaches hreaches)
    exact hleft.antisymm hright
  · -- both ask the same questions, so neither selects its files
    have hreaches' : ¬ narrow.scope.Reaches conditions.site :=
      fun hnarrow => hreaches (hback.scope.reaches hnarrow)
    rw [state_of_unselected fun hselects => hreaches' (Settings.exists_selects_iff.1 hselects).2,
      state_of_unselected fun hselects => hreaches (Settings.exists_selects_iff.1 hselects).2]

end Two

/-- **When looking for more brings no less.** Of two sweeps from the first state, under whatever
conditions short of an interruption and in whatever order the workers get along, the wider one finds
and fails on whatever the narrower one does, exactly if the system refuses no question that it asks,
or if the narrower sweep leaves nothing anyway. Sweeps of which each looks for less than the other,
since they differ in the order or the repetition of what they list, or in words that hold another
listed word, find the same without any condition. -/
theorem scanBy_covers_iff {narrow wide : Settings} {conditions : Conditions}
    {schedule schedule' : List Job → List Move} (h : narrow.Narrower wide)
    (hundisturbed : conditions.Undisturbed) (hexhausts : narrow.Exhausts conditions schedule)
    (hexhausts' : wide.Exhausts conditions schedule')
    (hmoves : ∀ jobs, Move.interrupt ∉ schedule jobs)
    (hmoves' : ∀ jobs, Move.interrupt ∉ schedule' jobs) :
    let sweep := fresh.scanBy narrow conditions schedule
    let sweep' := fresh.scanBy wide conditions schedule'
    (narrow.Covers wide conditions sweep sweep' ↔
      wide.scope.Reaches conditions.site ∨
        sweep.state.register.findings = [] ∧ sweep.state.failures = []) ∧
    (wide.Narrower narrow →
      sweep.state.register.findings.entries.Perm sweep'.state.register.findings.entries) := by
  intro sweep sweep'
  refine ⟨⟨fun hcovers => ?_, ?_⟩, fun hback => ?_⟩
  · by_cases hreaches : wide.scope.Reaches conditions.site
    · exact .inl hreaches
    · -- the wider sweep has ended before its first file, so that it covers nothing only
      exact .inr (empty_of_covers hundisturbed hexhausts hmoves hreaches hcovers)
  · rintro (hreaches | ⟨hfindings, hfailures⟩)
    · exact covers_of_reaches hundisturbed hexhausts hexhausts' hmoves hmoves' h hreaches
    · exact covers_of_empty hundisturbed hexhausts hmoves hfindings hfailures
  · exact entries_perm hundisturbed hexhausts hexhausts' hmoves hmoves' h hback

end SweepState

/-! ### A sweep that brings more, and one that brings less -/

/-- A sweep of the directory with two sources, for names like these and lines without these
words. -/
def pairSettings (globs words : List String) : Settings := { twinSettings with
  scope := ⟨⟨.here, ["d"]⟩, globs.map fun glob : String => Glob.parse glob, [], none⟩
  rule := ⟨words.map String.toList, Rule.standardTarget⟩ }

theorem narrower_pairSettings {globs globs' words words' : List String} (hglobs : globs ⊆ globs')
    (hwords : ∀ word ∈ words', ∃ part ∈ words, part.toList <:+: word.toList) :
    (pairSettings globs words).Narrower (pairSettings globs' words') where
  scope :=
    { root := rfl
      globs := List.map_subset _ hglobs
      excludedDirs := List.Subset.refl _
      sizeLimit := fun limit hlimit => absurd hlimit (by simp [pairSettings]) }
  rule :=
    { target := rfl
      excluded := by
        intro letters hletters
        obtain ⟨word, hword, rfl⟩ := List.mem_map.1 hletters
        obtain ⟨part, hpart, hwithin⟩ := hwords word hword
        exact ⟨part.toList, List.mem_map_of_mem hpart, hwithin⟩ }

/-- **Looking for more brings more.** A sweep for all sources that passes over less finds a line
more, and fails on a file that the narrower sweep does not look at. -/
theorem covers_pair :
    let conditions := (pairLaunch (.file [0])).conditions
    let narrow := pairSettings ["a.cs", "a.cs"] ["//", "Debug."]
    let wide := pairSettings ["*.cs", "a.cs"] ["// TODO"]
    let sweep := SweepState.fresh.scan narrow conditions
    let sweep' := SweepState.fresh.scan wide conditions
    sweep.state = ⟨⟨[("d/a.cs", [⟨2, "x \"나\""⟩])], true⟩, []⟩ ∧
      sweep'.state = ⟨⟨[("d/a.cs", [⟨1, "// \"가\""⟩, ⟨2, "x \"나\""⟩])], true⟩,
        [("d/x.cs", "Unable to read d/x.cs: file looks binary")]⟩ ∧
      narrow.Narrower wide ∧ conditions.Undisturbed ∧
      narrow.Covers wide conditions sweep sweep' := by
  have hnarrower : (pairSettings ["a.cs", "a.cs"] ["//", "Debug."]).Narrower
      (pairSettings ["*.cs", "a.cs"] ["// TODO"]) :=
    narrower_pairSettings (by decide) (by decide)
  have hundisturbed : (pairLaunch (.file [0])).conditions.Undisturbed := undisturbed_twins
  have hselects : (pairSettings ["*.cs", "a.cs"] ["// TODO"]).Selects
      (pairLaunch (.file [0])).conditions
      ⟨[("d/a.cs", ⟨.here, ["d", "a.cs"]⟩), ("d/x.cs", ⟨.here, ["d", "x.cs"]⟩)], []⟩ :=
    ⟨by cbv, by cbv⟩
  refine ⟨by cbv, by cbv, hnarrower, hundisturbed, ?_⟩
  exact (SweepState.scanBy_covers_iff hnarrower hundisturbed (Settings.exhausts_inOrder _ _ _)
    (Settings.exhausts_inOrder _ _ _) (fun _ => thorough_inOrder.uninterrupted _ _)
    (fun _ => thorough_inOrder.uninterrupted _ _)).1.2
    (.inl (Settings.exists_selects_iff.1 ⟨_, hselects⟩).2)

set_option maxRecDepth 2000 in
/-- **Looking for more brings less.** The narrower sweep finds a line. The wider one asks about a
link to a name that is too long, and ends there. -/
theorem not_covers_link :
    let conditions := (pairLaunch farLink).conditions
    let narrow := pairSettings ["a.cs"] ["//"]
    let wide := pairSettings ["a.cs", "x.cs"] ["//"]
    narrow.Narrower wide ∧ conditions.Undisturbed ∧
      ¬ narrow.Covers wide conditions (SweepState.fresh.scan narrow conditions)
        (SweepState.fresh.scan wide conditions) := by
  have hfound : (SweepState.fresh.scan (pairSettings ["a.cs"] ["//"])
      (pairLaunch farLink).conditions).state.register.findings =
        ([("d/a.cs", [⟨2, "x \"나\""⟩])] : Findings) := by cbv
  have hnone : (SweepState.fresh.scan (pairSettings ["a.cs", "x.cs"] ["//"])
      (pairLaunch farLink).conditions).state.register.findings = [] := by cbv
  refine ⟨narrower_pairSettings (by decide) (by decide), undisturbed_twins, fun h => ?_⟩
  have hsubperm := h.findings
  rw [hfound, hnone] at hsubperm
  exact absurd (List.subperm_nil.1 hsubperm) (by simp [Findings.entries])

end HangulLint
