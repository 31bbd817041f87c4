import HangulLint.Proofs.Refusal
import HangulLint.Proofs.StandardRun

/-!
# Which files are selected

Below the root lies whatever real directories lead to; a link to a directory leads to nothing more.
Of that, exactly those files are meant to be selected whose own name one of the patterns describes
as a whole, which are files once links are followed, which are not too large, and which no directory
with an excluded name leads to. The directories that count are those below the root. So the names
that the root is written with do not, even if they are excluded ones, and nor does the file's own.
However many patterns describe a name, the file is selected once.

This is what a selection comes to, for every root and every tree, unless the system refuses to
answer about the root or about a path that is looked at, or a directory lies too deep for the
program: either takes the whole selection down (`Scope.exact_iff`).

* `Glob.Describes`, `Glob.admits_iff` — what a name pattern stands for, part by part;
* `Scope.Wanted`, `Scope.Exact` — what is meant to be selected, and a selection of just that;
* `Scope.exact_of_select` — a selection is exact;
* `Scope.exact_iff` — there is one exactly if nothing is in the way.
-/

namespace HangulLint

/-! ### Name patterns -/

namespace Glob

/-- **What a name pattern stands for.** A run stands for any glyphs, every other part for one that
it accepts; together the parts stand for the whole name. -/
inductive Describes : Glob → Text → Prop where
  | nil : Describes [] []
  | run {parts : Glob} {name : Text} (glyphs : Text) (rest : Describes parts name) :
      Describes (.run :: parts) (glyphs ++ name)
  | glyph {part : Part} {parts : Glob} {g : Glyph} {name : Text} (accepts : part.accepts g = true)
      (rest : Describes parts name) : Describes (part :: parts) (g :: name)

/-- A part other than a run takes one glyph. -/
theorem admits_cons {part : Part} (hpart : part ≠ .run) (parts : Glob) (name : Text) :
    admits (part :: parts) name = true ↔
      ∃ g rest, name = g :: rest ∧ part.accepts g = true ∧ admits parts rest = true := by
  cases part with
  | run => exact absurd rfl hpart
  | _ => cases name <;> simp [admits]

theorem admits_iff {glob : Glob} {name : Text} :
    glob.admits name = true ↔ glob.Describes name := by
  constructor
  · intro h
    induction glob generalizing name with
    | nil =>
      obtain rfl : name = [] := by simpa [admits] using h
      exact .nil
    | cons part parts ih =>
      by_cases hpart : part = .run
      · -- what the run does not take is left to the other parts
        subst hpart
        rw [admits, anySuffix_iff] at h
        obtain ⟨rest, ⟨glyphs, rfl⟩, hrest⟩ := h
        exact .run glyphs (ih hrest)
      · obtain ⟨g, rest, rfl, haccepts, hrest⟩ := (admits_cons hpart parts name).1 h
        exact .glyph haccepts (ih hrest)
  · intro h
    induction h with
    | nil => rfl
    | @run parts name glyphs _ ih =>
      rw [admits, anySuffix_iff]
      exact ⟨name, List.suffix_append glyphs name, ih⟩
    | @glyph part parts g name accepts _ ih =>
      -- a run accepts no single glyph
      have hpart : part ≠ .run := by
        rintro rfl
        simp [Part.accepts] at accepts
      exact (admits_cons hpart parts _).2 ⟨g, name, rfl, accepts, ih⟩

end Glob

namespace Site

variable {site : Site} {path : Path}

theorem isFile_eq_true_iff (hnul : path.hasNul = false) : site.isFile path = .ok true ↔
    ∃ location bytes, site.land path = .ok (.file location bytes) := by
  refine ⟨land_of_isFile, ?_⟩
  rintro ⟨location, bytes, hland⟩
  rw [isFile, hnul, hland]
  rfl

theorem size_of_land {location : Location} {bytes : List UInt8}
    (hland : site.land path = .ok (.file location bytes)) : site.size path = .ok bytes.length := by
  rw [size, hland]

end Site

namespace Scope

variable {scope : Scope} {site : Site} {location : Location}

/-! ### What is meant to be selected -/

/-- **A file that is wanted.** The root leads to a location, and some names lead on from there. -/
structure Wanted (scope : Scope) (site : Site) (location : Location) (names : List Text) :
    Prop where
  /-- Real directories lead to it, so it is in the tree below the location of the root. -/
  below : ∃ node, (location ++ names, node) ∈ site.tree.entries
  /-- One of the patterns describes its own name. -/
  named : ∃ name glob, names.getLast? = some name ∧ glob ∈ scope.globs ∧ glob.Describes name
  /-- It is a file once links are followed, and the limit may be reached, but not passed. -/
  regular : ∃ place bytes, site.land (scope.root.below names) = .ok (.file place bytes) ∧
    ∀ limit, scope.sizeLimit = some limit → (bytes.length : Int) ≤ limit
  /-- No directory between the root and it has an excluded name. -/
  apart : ∀ name ∈ names.dropLast, name ∉ scope.excludedDirs

/-- **A selection of what is wanted.** -/
structure Exact (scope : Scope) (site : Site) (targets : List Target) : Prop where
  /-- Nothing is selected twice. -/
  nodup : targets.Nodup
  /-- What is wanted below the root is selected, and nothing else. A file comes with its path and
  the text of this, every backslash written as a slash. -/
  mem_iff : ∀ found, found ∈ targets ↔ ∃ location names, scope.root.hasNul = false ∧
    site.land scope.root = .ok (.directory location) ∧ scope.Wanted site location names ∧
    found = (Path.slashed (scope.root.below names).text, scope.root.below names)

/-- What is picked below the root is what is wanted there. -/
theorem picks_below (hroot : site.isDir scope.root = .ok true) {names : List Text} {node : Node}
    (hproper : names ≠ []) (hentry : (location ++ names, node) ∈ site.tree.entries) :
    scope.picks site site.size (scope.root.below names) = true ↔
      scope.Wanted site location names := by
  have hname := scope.root.name_below hproper
  have hnul : (scope.root.below names).hasNul = false := hasNul_below hroot hentry
  rw [picks_iff, Site.isFile_eq_true_iff hnul, excludesDir_below, List.any_eq_true]
  constructor
  · rintro ⟨⟨glob, hglob, hadmits⟩, ⟨place, bytes, hland⟩, hapart, hsize⟩
    refine ⟨⟨node, hentry⟩, ⟨_, glob, hname, hglob, Glob.admits_iff.1 hadmits⟩,
      ⟨place, bytes, hland, fun limit hlimit => ?_⟩, hapart⟩
    obtain ⟨size, hbytes, hsmall⟩ := hsize limit hlimit
    obtain rfl : bytes.length = size :=
      Except.ok.inj ((Site.size_of_land hland).symm.trans hbytes)
    exact Int.not_lt.1 hsmall
  · rintro ⟨-, ⟨name, glob, hlast, hglob, hdescribes⟩, ⟨place, bytes, hland, hsmall⟩, hapart⟩
    obtain rfl : (scope.root.below names).name = name :=
      Option.some.inj (hname.symm.trans hlast)
    exact ⟨⟨glob, hglob, Glob.admits_iff.2 hdescribes⟩, ⟨place, bytes, hland⟩, hapart,
      fun limit hlimit => ⟨_, Site.size_of_land hland, Int.not_lt.2 (hsmall limit hlimit)⟩⟩

/-! ### What is selected -/

/-- **Nothing is selected where the root is no directory.** -/
theorem exact_nil (hroot : ¬ site.HasDirectory scope.root) : scope.Exact site [] where
  nodup := .nil
  mem_iff := by
    intro found
    refine ⟨fun h => absurd h List.not_mem_nil, ?_⟩
    rintro ⟨location, names, hnul, hland, -⟩
    exact absurd ⟨hnul, location, hland⟩ hroot

/-- **A selection below a directory is exact.** -/
theorem exact_of_select (hroot : site.isDir scope.root = .ok true) {selection : Selection}
    (h : scope.select site site.size = .ok selection) : scope.Exact site selection.targets := by
  obtain ⟨hnul, location, hland⟩ := land_of_isDir hroot
  refine ⟨nodup_select hroot hland h, fun found => ?_⟩
  rw [mem_select hroot hland h]
  constructor
  · rintro ⟨names, node, hproper, hentry, hpicks, rfl⟩
    exact ⟨location, names, hnul, hland, (picks_below hroot hproper hentry).1 hpicks, rfl⟩
  · rintro ⟨location', names, -, hland', hwanted, rfl⟩
    -- the root leads to one directory only
    obtain rfl : location = location' :=
      Landing.directory.inj (Except.ok.inj (hland.symm.trans hland'))
    obtain ⟨name, glob, hlast, -⟩ := hwanted.named
    obtain ⟨node, hentry⟩ := hwanted.below
    have hproper : names ≠ [] := by
      rintro rfl
      simp at hlast
    exact ⟨names, node, hproper, hentry, (picks_below hroot hproper hentry).2 hwanted, rfl⟩

/-- Where the root is no directory, nothing is looked at, if the system answers so much. -/
theorem candidates_of_missing (hroot : site.isDir scope.root ≠ .ok true) :
    scope.candidates site = (site.isDir scope.root).map fun _ => [] := by
  rw [candidates]
  rw [Site.isDir] at hroot ⊢
  split
  · rfl
  · next hnul =>
    rw [if_neg hnul] at hroot
    cases hland : site.land scope.root with
    | ok landing =>
      cases landing with
      | directory location => exact absurd (by rw [hland]) hroot
      | _ => rfl
    | error cause => rfl

theorem select_of_missing (hroot : site.isDir scope.root ≠ .ok true)
    (size : Path → Except OsError Nat) :
    scope.select site size = ((site.isDir scope.root).map fun _ => ⟨[], []⟩).mapError .os := by
  rw [select, candidates_of_missing hroot]
  cases site.isDir scope.root <;> rfl

/-- **When a selection is exact.** For every root, every tree and whatever is asked for: just what
is wanted is selected, each file once, exactly if the system refuses to answer neither about the
root nor about a directory or a wanted name below it, and no directory there is too deep. -/
theorem exact_iff (scope : Scope) (site : Site) :
    (∃ selection, scope.select site site.size = .ok selection ∧
      scope.Exact site selection.targets) ↔ scope.Answers site := by
  rw [answers_iff]
  constructor
  · rintro ⟨selection, hselect, -⟩
    cases hroot : site.isDir scope.root with
    | ok answer => exact ⟨answer, rfl, fun _ => ⟨selection, hselect⟩⟩
    | error error =>
      -- the first question is that about the root, so there is no selection
      rw [select_of_missing (by simp [hroot]), hroot] at hselect
      simp [Except.map, Except.mapError] at hselect
  · rintro ⟨answer, hroot, hselect⟩
    cases answer with
    | true =>
      obtain ⟨selection, hselect⟩ := hselect rfl
      exact ⟨selection, hselect, exact_of_select hroot hselect⟩
    | false =>
      have hmissing : site.isDir scope.root ≠ .ok true := by simp [hroot]
      refine ⟨⟨[], []⟩, ?_, exact_nil fun h => hmissing (Site.isDir_eq_true_iff.2 h)⟩
      rw [select_of_missing hmissing, hroot]
      rfl

end Scope

set_option maxRecDepth 2000 in
/-- A link to a name that is too long takes the selection down, and with it the file beside it. -/
theorem not_exact_link :
    let site := (pairLaunch farLink).conditions.site
    twinSettings.scope.Wanted site ["d"] ["a.cs"] ∧
      ¬ ∃ selection, twinSettings.scope.select site site.size = .ok selection ∧
        twinSettings.scope.Exact site selection.targets := by
  intro site
  have hland : site.land ⟨.here, ["d", "a.cs"]⟩ = .ok (.file ["d", "a.cs"]
      "// \"가\"\n x \"나\"\r\n".toUTF8.data.toList) := by cbv
  have hwanted : twinSettings.scope.Wanted site ["d"] ["a.cs"] := {
    below := ⟨_, .tail _ (.head _)⟩
    named := ⟨"a.cs", Glob.parse "*.cs", rfl, .head _, Glob.admits_iff.1 (by cbv)⟩
    regular := ⟨_, _, hland, by simp [twinSettings]⟩
    apart := by simp }
  refine ⟨hwanted, ?_⟩
  rintro ⟨selection, hselect, -⟩
  -- whether the link is a file is a question that is refused
  have hrefused : twinSettings.scope.select site site.size =
      .error (.os ⟨.nameTooLong, "d/x.cs"⟩) := by cbv
  exact absurd (hselect.symm.trans hrefused) (by simp)

end HangulLint
