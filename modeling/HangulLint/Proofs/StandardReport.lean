import HangulLint.Proofs.Arrangement
import HangulLint.Proofs.Content
import HangulLint.Proofs.StandardRule

/-!
# What a report on some files says

A sorted report under the standard rule can be told from the files alone: file by file in the order
of the keys, line by line, it says of every line that is wanted where it is and how it reads. The
register that the report is made from has only the keys of files with findings, in the order in
which these came up; a file without findings has an empty part in the report.

* `Report.Sorted` — files in the order of their keys;
* `Report.ofFiles` — what the report says of them;
* `Report.render_eq_flatMap` — a report, file by file;
* `Report.render_eq_ofFiles` — the same under the standard rule.
-/

namespace HangulLint

namespace Report

/-- Files, as keys and characters, in the order of their keys and without two of one key. -/
def Sorted (files : List (Text × List Char)) : Prop :=
  files.Pairwise fun a b => Text.le a.1 b.1 = true ∧ a.1 ≠ b.1

/-- What is said of the line with some number in the file with some key. -/
def ofLine (key : Text) (line : List Char) (number : Nat) : Text :=
  if Rule.Noted (strip line) then
    key ++ " (" ++ Text.ofNat number ++ "): " ++ Text.ofChars (strip line) ++ "\n"
  else []

/-- What is said of a file: of its lines, numbered from 1. -/
def ofFile (file : Text × List Char) : Text :=
  ((lines file.2).zipIdx 1).flatMap fun (line, number) => ofLine file.1 line number

/-- **What is said of files.** -/
def ofFiles (files : List (Text × List Char)) : Text := files.flatMap ofFile

/-! ### File by file -/

variable {rule : Rule} {findings : Findings} {files : List (Text × List Char)}

/-- What is said of a file is what its findings come to. -/
theorem flatMap_line_findingsIn (file : Text × List Char) :
    (findingsIn Rule.standard file.2).flatMap (line file.1) = ofFile file := by
  rw [findingsIn, findingsFrom, ofFile, List.filterMap_eq_flatMap_toList, List.flatMap_assoc]
  refine congrArg (List.flatMap · _) (funext fun numbered => ?_)
  obtain ⟨text, number⟩ := numbered
  simp only [Rule.report?_standard]
  by_cases hnoted : Rule.Noted (strip text)
  · have hnumber : Text.ofInt number = Text.ofNat number := rfl
    simp [ofLine, hnoted, line, hnumber]
  · simp [ofLine, hnoted]

/-- What has findings in it, of files in the order of their keys. -/
def withFindings (rule : Rule) (files : List (Text × List Char)) : List (Text × List Char) :=
  files.filter fun file => !(findingsIn rule file.2).isEmpty

theorem mem_withFindings {file : Text × List Char} :
    file ∈ withFindings rule files ↔ file ∈ files ∧ findingsIn rule file.2 ≠ [] := by
  simp [withFindings]

theorem flatMap_withFindings (rule : Rule) {f : Text × List Char → Text}
    (h : ∀ file ∈ files, findingsIn rule file.2 = [] → f file = []) :
    (withFindings rule files).flatMap f = files.flatMap f := by
  induction files with
  | nil => rfl
  | cons file files ih =>
    have hrest := ih fun file' hfile' => h file' (List.mem_cons_of_mem _ hfile')
    rw [withFindings] at hrest ⊢
    by_cases hempty : findingsIn rule file.2 = []
    · rw [List.filter_cons_of_neg (by simp [hempty]), hrest, List.flatMap_cons,
        h file List.mem_cons_self hempty, List.nil_append]
    · rw [List.filter_cons_of_pos (by simp [hempty]), List.flatMap_cons, List.flatMap_cons, hrest]

/-- The keys of findings are those of the files that these are found in. -/
theorem keys_eq (horderly : findings.Orderly) (hsorted : Sorted files)
    (hunder : ∀ file ∈ files, findings.under file.1 = findingsIn rule file.2)
    (hkeys : ∀ key, findings.under key ≠ [] → ∃ content, (key, content) ∈ files) :
    keys findings = (withFindings rule files).map (·.1) := by
  have hwith : Sorted (withFindings rule files) := List.Pairwise.filter _ hsorted
  have hnodup : ((withFindings rule files).map (·.1)).Nodup :=
    List.pairwise_map.2 (hwith.imp And.right)
  -- both lists hold the keys with findings, once each and in order
  have hmem : ∀ key, key ∈ findings.map (·.1) ↔ key ∈ (withFindings rule files).map (·.1) := by
    intro key
    rw [horderly.key_mem_iff, List.mem_map]
    constructor
    · intro hne
      obtain ⟨content, hfile⟩ := hkeys key hne
      exact ⟨_, mem_withFindings.2 ⟨hfile, hunder _ hfile ▸ hne⟩, rfl⟩
    · rintro ⟨file, hfile, rfl⟩
      obtain ⟨hfile, hne⟩ := mem_withFindings.1 hfile
      rwa [hunder file hfile]
  refine List.Perm.eq_of_pairwise (fun _ _ _ _ => Text.le_antisymm)
    (List.pairwise_mergeSort Text.le_trans Text.le_total _)
    (List.pairwise_map.2 (hwith.imp And.left)) ?_
  exact (List.mergeSort_perm ..).trans
    ((List.perm_ext_iff_of_nodup horderly.nodup hnodup).2 hmem)

/-- **A report, file by file.** Of findings that were found in some files, each with a key of its
own, the report says what is found in one file after the other. -/
theorem render_eq_flatMap (horderly : findings.Orderly) (hsorted : Sorted files)
    (hunder : ∀ file ∈ files, findings.under file.1 = findingsIn rule file.2)
    (hkeys : ∀ key, findings.under key ≠ [] → ∃ content, (key, content) ∈ files) :
    render true findings =
      files.flatMap fun file => (findingsIn rule file.2).flatMap (line file.1) := by
  have hparts : ∀ file ∈ withFindings rule files,
      (byLine (findings.under file.1)).flatMap (line file.1) =
        (findingsIn rule file.2).flatMap (line file.1) := by
    intro file hfile
    -- the findings in one file come by line
    have hline : byLine (findingsIn rule file.2) = findingsIn rule file.2 :=
      List.mergeSort_of_pairwise ((pairwise_findingsFrom rule 1 file.2).imp fun hlt =>
        decide_eq_true (Int.le_of_lt hlt))
    rw [hunder file (mem_withFindings.1 hfile).1, hline]
  rw [render_eq horderly, keys_eq horderly hsorted hunder hkeys, List.flatMap_map,
    List.flatMap_congr hparts]
  -- files without findings have an empty part
  refine flatMap_withFindings rule fun file _ hempty => ?_
  rw [hempty, List.flatMap_nil]

/-- The report under the standard rule. -/
theorem render_eq_ofFiles (horderly : findings.Orderly) (hsorted : Sorted files)
    (hunder : ∀ file ∈ files, findings.under file.1 = findingsIn Rule.standard file.2)
    (hkeys : ∀ key, findings.under key ≠ [] → ∃ content, (key, content) ∈ files) :
    render true findings = ofFiles files := by
  rw [render_eq_flatMap horderly hsorted hunder hkeys, ofFiles]
  exact List.flatMap_congr fun file _ => flatMap_line_findingsIn file

end Report

end HangulLint
