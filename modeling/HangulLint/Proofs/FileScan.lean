import HangulLint.Proofs.Ledger
import HangulLint.Proofs.LineByLine
import Mathlib

/-!
# What the scan of one file does

A file is read before anything is recorded. So what cannot be read leaves the register and the
journal alone. What can be read has lines, the pieces between its line feeds, and of each of them
that the rule reports there is one finding, with the number of the line and its trimmed text. An
open register takes these in order behind what it has under the key, and the journal tells them in
the same order. A sealed register refuses the first of them, before anything is told of it, so that
all stays as it is; where nothing is found, nothing is refused.

* `AreLines`, `FoundIn` — the lines of a text and the findings in them, told without computing
  either; there is one list of each (`areLines_iff`, `FoundIn.unique`);
* `Findings.Gains` — what changes where findings are recorded under a key, and what does not;
* `FileScan.line`, `scanFile_eq_foldl_line` — a scan goes line by line, and stops at a refusal;
* `scanFile_exact` — what the scan of a file returns and leaves, in all cases.
-/

namespace HangulLint

/-! ### Lines -/

/-- **The lines of a text:** the pieces between its line feeds, empty ones and the last one
included. -/
structure AreLines (content : List Char) (ls : List (List Char)) : Prop where
  /-- With a line feed between any two, they are the text. -/
  text : joined ['\n'] ls = content
  /-- None goes on over a line feed. -/
  whole : ∀ line ∈ ls, '\n' ∉ line
  /-- There is one more than there are line feeds. -/
  number : ls.length = content.count '\n' + 1

variable {content : List Char} {ls : List (List Char)} {rule : Rule} {found found' : List Finding}

theorem areLines_lines (content : List Char) : AreLines content (lines content) where
  text := joined_pieces '\n' content
  whole := fun _ hline => sep_notMem_of_mem_pieces hline
  number := length_pieces '\n' content

/-- A text has its lines in one way. -/
theorem areLines_iff : AreLines content ls ↔ ls = lines content := by
  constructor
  · intro h
    have hne : ls ≠ [] := by
      rintro rfl
      exact absurd h.number (by simp)
    have hwhole : ls.flatMap (pieces '\n') = ls.flatMap fun line => [line] :=
      List.flatMap_congr fun line hline => pieces_of_notMem (h.whole line hline)
    calc ls = ls.flatMap fun line => [line] := (List.flatMap_singleton' ls).symm
      _ = pieces '\n' (joined ['\n'] ls) := by rw [pieces_joined '\n' hne, hwhole]
      _ = lines content := by rw [h.text, lines]
  · rintro rfl
    exact areLines_lines content

/-! ### Findings -/

/-- **What is found in lines** that are numbered from 1. -/
structure FoundIn (rule : Rule) (ls : List (List Char)) (found : List Finding) : Prop where
  /-- Line numbers go up. -/
  ascending : found.Pairwise (·.line < ·.line)
  /-- There is a finding for every line that the rule reports, and no other. -/
  mem_iff : ∀ finding, finding ∈ found ↔ ∃ (i : Nat) (line : List Char),
    ls[i]? = some line ∧ rule.reports line = true ∧ finding = ⟨i + 1, Text.ofChars (trimLine line)⟩

/-- The same is found in the same lines. -/
theorem FoundIn.unique (h : FoundIn rule ls found) (h' : FoundIn rule ls found') :
    found = found' := by
  have hnodup : ∀ {found : List Finding}, found.Pairwise (·.line < ·.line) → found.Nodup := by
    intro found h
    refine h.imp fun hlt heq => ?_
    rw [heq] at hlt
    exact Int.lt_irrefl _ hlt
  have hperm : found.Perm found' :=
    (List.perm_ext_iff_of_nodup (hnodup h.ascending) (hnodup h'.ascending)).2 fun finding =>
      (h.mem_iff finding).trans (h'.mem_iff finding).symm
  refine hperm.eq_of_pairwise (fun a b _ _ hab hba => ?_) h.ascending h'.ascending
  exact absurd (Int.lt_trans hab hba) (Int.lt_irrefl _)

theorem Rule.reports_iff {line : List Char} :
    rule.reports line = true ↔ rule.report? line = some (trimLine line) := by
  rw [reports, report?]
  cases rule.flags (trimLine line) <;> simp

theorem foundIn_findingsIn (rule : Rule) (content : List Char) :
    FoundIn rule (lines content) (findingsIn rule content) where
  ascending := pairwise_findingsFrom rule 1 content
  mem_iff := by
    intro finding
    rw [findingsIn, mem_findingsFrom]
    constructor
    · rintro ⟨line, number, text, hline, hreport, rfl⟩
      obtain ⟨rfl, -⟩ := Rule.eq_trimLine_of_report? hreport
      -- the number is one more than the place of the line
      obtain ⟨hle, hplace⟩ := List.mk_mem_zipIdx_iff_le_and_getElem?_sub.1 hline
      have hnumber : (number : Int) = ((number - 1 : Nat) : Int) + 1 := by omega
      refine ⟨number - 1, line, hplace, Rule.reports_iff.2 hreport, ?_⟩
      rw [← hnumber]
    · rintro ⟨i, line, hline, hreport, rfl⟩
      refine ⟨line, i + 1, trimLine line, ?_, Rule.reports_iff.1 hreport, rfl⟩
      refine List.mk_mem_zipIdx_iff_le_and_getElem?_sub.2 ⟨Nat.le_add_left 1 i, ?_⟩
      rwa [Nat.add_sub_cancel]

/-- There are as many findings as lines that are reported. -/
theorem length_findingsFrom (rule : Rule) (first : Nat) (content : List Char) :
    (findingsFrom rule first content).length = (lines content).countP rule.reports := by
  unfold findingsFrom
  generalize lines content = ls
  induction ls generalizing first with
  | nil => rfl
  | cons line ls ih =>
    rw [List.zipIdx_cons, List.countP_cons, ← ih (first + 1)]
    cases hreport : rule.report? line <;> simp [Rule.reports, hreport]

/-! ### Recording -/

namespace Findings

/-- **What is gained under a key,** and what stays. -/
structure Gains (findings : Findings) (key : Text) (found : List Finding) (after : Findings) :
    Prop where
  /-- What is found comes behind what was there. -/
  under : after.under key = findings.under key ++ found
  /-- The entries of other keys are the same, in the same order. -/
  others : after.filter (·.1 ≠ key) = findings.filter (·.1 ≠ key)
  /-- A new key comes last, and none comes without a finding. -/
  keys : after.map (·.1) = if found = [] ∨ key ∈ findings.map (·.1) then findings.map (·.1)
    else findings.map (·.1) ++ [key]

variable {findings after : Findings} {key : Text}

theorem filter_record (key : Text) (finding : Finding) (findings : Findings) :
    (findings.record key finding).filter (·.1 ≠ key) = findings.filter (·.1 ≠ key) := by
  induction findings with
  | nil => simp [record]
  | cons entry rest ih =>
    obtain ⟨k, found⟩ := entry
    by_cases hk : k = key
    · simp [record, hk]
    · simpa [record, hk] using ih

theorem Gains.nil (findings : Findings) (key : Text) : findings.Gains key [] findings where
  under := (List.append_nil _).symm
  others := rfl
  keys := (if_pos (.inl rfl)).symm

/-- One finding more is gained. -/
theorem Gains.record (h : findings.Gains key found after) (finding : Finding) :
    findings.Gains key (found ++ [finding]) (after.record key finding) where
  under := by
    rw [under_record, if_pos rfl, h.under, List.append_assoc]
  others := (filter_record key finding after).trans h.others
  keys := by
    have hne : found ++ [finding] ≠ [] := by simp
    rw [keys_record, h.keys]
    by_cases hkey : key ∈ findings.map (·.1)
    · simp only [hkey, hne, or_true, if_true]
    · -- the key has come with the first finding, or it comes now
      by_cases hfound : found = []
      · simp only [hfound, hkey, true_or, if_true, if_false]
        rfl
      · simp [hfound, hkey]

/-- Findings that are recorded one after the other are gained. -/
theorem gains_foldl (findings : Findings) (key : Text) (found : List Finding) :
    findings.Gains key found (found.foldl (·.record key ·) findings) := by
  induction found using List.reverseRecOn with
  | nil => exact .nil findings key
  | append_singleton found finding ih =>
    rw [List.foldl_append]
    exact ih.record finding

end Findings

/-! ### Line by line -/

namespace FileScan

variable {rule : Rule} {key : Text} {path : Path} {numbered rest : List (List Char × Nat)}
  {entry : List Char × Nat} {text : List Char}

/-- **What a line adds to a scan:** if it is reported, the finding is recorded, counted and told.
When a finding has been refused, the lines that are left are not looked at. -/
def line (rule : Rule) (key : Text) (path : Path) (scan : FileScan) (numbered : List Char × Nat) :
    FileScan :=
  match scan.outcome, rule.report? numbered.1 with
  | .ok count, some text =>
    let finding : Finding := ⟨numbered.2, Text.ofChars text⟩
    match scan.register.record key finding with
    | .ok register => ⟨.ok (count + 1), register, scan.journal ++ [findingRecord path finding]⟩
    | .error .sealed => { scan with outcome := .error .sealed }
  | _, _ => scan

/-- The findings on numbered lines. -/
def findingsOn (rule : Rule) (numbered : List (List Char × Nat)) : List Finding :=
  numbered.filterMap fun (line, number) =>
    (rule.report? line).map fun text => ⟨number, Text.ofChars text⟩

theorem line_of_none (h : rule.report? entry.1 = none) (scan : FileScan) :
    line rule key path scan entry = scan := by
  rw [line, h]
  cases scan.outcome <;> rfl

theorem line_of_error {scan : FileScan} {fault : FileFault} (h : scan.outcome = .error fault)
    (entry : List Char × Nat) : line rule key path scan entry = scan := by
  rw [line, h]

theorem findingsOn_of_none (h : rule.report? entry.1 = none) :
    findingsOn rule (entry :: rest) = findingsOn rule rest :=
  List.filterMap_cons_none (Option.map_eq_none_iff.2 h)

theorem findingsOn_of_some (h : rule.report? entry.1 = some text) :
    findingsOn rule (entry :: rest) = ⟨entry.2, Text.ofChars text⟩ :: findingsOn rule rest :=
  List.filterMap_cons_some (Option.map_eq_some_iff.2 ⟨text, h, rfl⟩)

theorem foldl_line_of_error {scan : FileScan} {fault : FileFault}
    (h : scan.outcome = .error fault) :
    numbered.foldl (line rule key path) scan = scan := by
  induction numbered with
  | nil => rfl
  | cons entry rest ih => rw [List.foldl_cons, line_of_error h, ih]

/-- While the register is open, every finding is taken. -/
theorem foldl_line_of_open (count : Nat) (held : Findings) (journal : List (Record FileFault)) :
    numbered.foldl (line rule key path) ⟨.ok count, ⟨held, false⟩, journal⟩ =
      ⟨.ok (count + (findingsOn rule numbered).length),
        ⟨(findingsOn rule numbered).foldl (·.record key ·) held, false⟩,
        journal ++ (findingsOn rule numbered).map (findingRecord path)⟩ := by
  induction numbered generalizing count held journal with
  | nil => simp [findingsOn]
  | cons entry rest ih =>
    cases hreport : rule.report? entry.1 with
    | none => rw [List.foldl_cons, line_of_none hreport, ih, findingsOn_of_none hreport]
    | some text =>
      have hentry : line rule key path ⟨.ok count, ⟨held, false⟩, journal⟩ entry =
          ⟨.ok (count + 1), ⟨held.record key ⟨entry.2, Text.ofChars text⟩, false⟩,
            journal ++ [findingRecord path ⟨entry.2, Text.ofChars text⟩]⟩ := by
        rw [line, hreport]
        rfl
      rw [List.foldl_cons, hentry, ih, findingsOn_of_some hreport, List.length_cons,
        List.foldl_cons, List.map_cons, List.append_assoc, Nat.add_assoc, Nat.add_comm 1]
      rfl

/-- A sealed register stops the scan at the first finding. -/
theorem foldl_line_of_sealed (count : Nat) (held : Findings) (journal : List (Record FileFault)) :
    numbered.foldl (line rule key path) ⟨.ok count, ⟨held, true⟩, journal⟩ =
      ⟨if findingsOn rule numbered = [] then .ok count else .error .sealed, ⟨held, true⟩,
        journal⟩ := by
  induction numbered with
  | nil => rfl
  | cons entry rest ih =>
    cases hreport : rule.report? entry.1 with
    | none => rw [List.foldl_cons, line_of_none hreport, ih, findingsOn_of_none hreport]
    | some text =>
      have hentry : line rule key path ⟨.ok count, ⟨held, true⟩, journal⟩ entry =
          ⟨.error .sealed, ⟨held, true⟩, journal⟩ := by
        rw [line, hreport]
        rfl
      rw [List.foldl_cons, hentry, foldl_line_of_error rfl, findingsOn_of_some hreport,
        if_neg (List.cons_ne_nil _ _)]

end FileScan

/-! ### The scan of a file -/

section Scan

variable {site : Site} {library : Source.Library} {guesser : Guesser} {path : Path}
  {fault : FileFault}

theorem scanFile_of_error (h : readSource site library guesser path = .error fault) (rule : Rule)
    (key : Text) (register : Register) :
    scanFile site library guesser rule key path register = ⟨.error fault, register, []⟩ := by
  rw [scanFile, inspect, h]
  rfl

theorem scanFile_of_open (h : readSource site library guesser path = .ok content)
    {register : Register} (hopen : register.sealed = false) (rule : Rule) (key : Text) :
    scanFile site library guesser rule key path register =
      ⟨.ok (findingsIn rule content).length,
        { register with
          findings := (findingsIn rule content).foldl (·.record key ·) register.findings },
        (findingsIn rule content).map (findingRecord path)⟩ := by
  have hinspect : inspect site library guesser rule path = .ok (findingsIn rule content) := by
    rw [inspect, h]
    rfl
  rw [scanFile, hinspect]
  dsimp only
  rw [recordAll_of_open hopen]

theorem scanFile_of_sealed (h : readSource site library guesser path = .ok content)
    {register : Register} (hsealed : register.sealed = true) (rule : Rule) (key : Text) :
    scanFile site library guesser rule key path register =
      ⟨if findingsIn rule content = [] then .ok 0 else .error .sealed, register, []⟩ := by
  have hinspect : inspect site library guesser rule path = .ok (findingsIn rule content) := by
    rw [inspect, h]
    rfl
  rw [scanFile, hinspect]
  dsimp only
  rw [recordAll_of_sealed hsealed]
  by_cases hnil : findingsIn rule content = []
  · rw [if_pos hnil, if_pos hnil, hnil]
    rfl
  · rw [if_neg hnil, if_neg hnil]

/-- **A file is scanned line by line.** That its findings are all known before any is recorded does
not show. -/
theorem scanFile_eq_foldl_line (h : readSource site library guesser path = .ok content)
    (rule : Rule) (key : Text) (register : Register) :
    scanFile site library guesser rule key path register =
      ((lines content).zipIdx 1).foldl (FileScan.line rule key path) ⟨.ok 0, register, []⟩ := by
  have hfindings : FileScan.findingsOn rule ((lines content).zipIdx 1) = findingsIn rule content :=
    rfl
  obtain ⟨held, closed⟩ := register
  cases closed with
  | false =>
    rw [scanFile_of_open h rfl, FileScan.foldl_line_of_open, hfindings, Nat.zero_add,
      List.nil_append]
  | true => rw [scanFile_of_sealed h rfl, FileScan.foldl_line_of_sealed, hfindings]

/-- **The scan of a file is exact, and all or nothing,** whatever codecs there are and whatever is
guessed. A file that cannot be read leaves register and journal as they are. One that can be read is
scanned line by line: an open register gains exactly one finding for each line that the rule
reports, under the key and behind what is there, in the order of the lines and of the journal, and
their number is returned. A sealed register refuses if there is something to record, and nothing has
changed then. -/
theorem scanFile_exact (site : Site) (library : Source.Library) (guesser : Guesser) (rule : Rule)
    (key : Text) (path : Path) (register : Register) :
    (∀ fault, readSource site library guesser path = .error fault →
      scanFile site library guesser rule key path register = ⟨.error fault, register, []⟩) ∧
    ∀ content, readSource site library guesser path = .ok content →
      scanFile site library guesser rule key path register =
        ((lines content).zipIdx 1).foldl (FileScan.line rule key path) ⟨.ok 0, register, []⟩ ∧
      ∃ ls found, AreLines content ls ∧ FoundIn rule ls found ∧
        (register.sealed = false → ∃ after, register.findings.Gains key found after ∧
          scanFile site library guesser rule key path register =
            ⟨.ok (ls.countP rule.reports), { register with findings := after },
              found.map (findingRecord path)⟩) ∧
        (register.sealed = true →
          scanFile site library guesser rule key path register =
            ⟨if ls.any rule.reports then .error .sealed else .ok 0, register, []⟩) := by
  refine ⟨fun fault hfault => scanFile_of_error hfault rule key register,
    fun content hcontent => ⟨scanFile_eq_foldl_line hcontent rule key register, lines content,
      findingsIn rule content, areLines_lines content, foundIn_findingsIn rule content,
      fun hopen => ?_, fun hsealed => ?_⟩⟩
  · refine ⟨_, Findings.gains_foldl register.findings key (findingsIn rule content), ?_⟩
    rw [scanFile_of_open hcontent hopen, ← length_findingsFrom rule 1 content]
    rfl
  · rw [scanFile_of_sealed hcontent hsealed]
    -- nothing is found exactly if no line is reported
    have hany : (lines content).any rule.reports = true ↔ findingsIn rule content ≠ [] := by
      rw [← List.length_pos_iff, findingsIn, length_findingsFrom, List.countP_pos_iff,
        List.any_eq_true]
    by_cases hnil : findingsIn rule content = []
    · rw [if_pos hnil, if_neg fun h => hany.1 h hnil]
    · rw [if_neg hnil, if_pos (hany.2 hnil)]

end Scan

/-! ### One file, scanned three times -/

/-- A file with these bytes, and nothing else. -/
def soleFile (bytes : List UInt8) : Site where
  tree := {
    entries := [(["a.cs"], .file bytes)]
    nodup := by simp
    housed := by simp
    named := by
      have hname : ∀ name ∈ [("a.cs" : Text)], isFileName name = true := by decide
      simpa using hname }
  cwd := []
  levels := standardLevels

/-- Two quotes, with a line between them that is empty but for its carriage return. -/
def twoQuotes : List Char := "\t\"가\" \r\n\r\n\"나\"".toList

/-- What an open register gains comes behind what it has, a sealed one refuses it, and a file that
is not there is not read. -/
theorem scanFile_exact_twoQuotes :
    let site := soleFile (Utf8.encode twoQuotes)
    let library : Source.Library := fun _ _ => .refused
    let guesser : Guesser := fun _ => .interrupted
    let held : Findings := [("k", [⟨7, "z"⟩]), ("l", [⟨1, "y"⟩])]
    readSource site library guesser ⟨.root, ["a.cs"]⟩ = .ok twoQuotes ∧
      (∃ found after, found.length = 2 ∧ Findings.Gains held "k" found after ∧
        scanFile site library guesser .standard "k" ⟨.root, ["a.cs"]⟩ ⟨held, false⟩ =
          ⟨.ok 2, ⟨after, false⟩, found.map (findingRecord ⟨.root, ["a.cs"]⟩)⟩) ∧
      scanFile site library guesser .standard "k" ⟨.root, ["a.cs"]⟩ ⟨held, true⟩ =
        ⟨.error .sealed, ⟨held, true⟩, []⟩ ∧
      readSource site library guesser ⟨.root, ["b.cs"]⟩ =
        .error (.unreadable ⟨.root, ["b.cs"]⟩ (.os .notFound)) ∧
      scanFile site library guesser .standard "k" ⟨.root, ["b.cs"]⟩ ⟨held, false⟩ =
        ⟨.error (.unreadable ⟨.root, ["b.cs"]⟩ (.os .notFound)), ⟨held, false⟩, []⟩ := by
  intro site library guesser held
  have hread : readSource site library guesser ⟨.root, ["a.cs"]⟩ = .ok twoQuotes := by cbv
  have hmissing : readSource site library guesser ⟨.root, ["b.cs"]⟩ =
      .error (.unreadable ⟨.root, ["b.cs"]⟩ (.os .notFound)) := by cbv
  have hcount : (lines twoQuotes).countP Rule.standard.reports = 2 := by decide +kernel
  have hany : (lines twoQuotes).any Rule.standard.reports = true := by decide +kernel
  refine ⟨hread, ?_, ?_, hmissing,
    (scanFile_exact site library guesser .standard "k" _ _).1 _ hmissing⟩
  · obtain ⟨-, ls, found, hls, hfound, hopen, -⟩ :=
      (scanFile_exact site library guesser .standard "k" ⟨.root, ["a.cs"]⟩ ⟨held, false⟩).2 _ hread
    obtain ⟨after, hgains, hscan⟩ := hopen rfl
    obtain rfl := areLines_iff.1 hls
    obtain rfl := hfound.unique (foundIn_findingsIn .standard twoQuotes)
    have hlength : (findingsIn .standard twoQuotes).length = 2 :=
      (length_findingsFrom .standard 1 twoQuotes).trans hcount
    refine ⟨findingsIn .standard twoQuotes, after, hlength, hgains, ?_⟩
    rw [hscan, hcount]
  · obtain ⟨-, ls, found, hls, -, -, hsealed⟩ :=
      (scanFile_exact site library guesser .standard "k" ⟨.root, ["a.cs"]⟩ ⟨held, true⟩).2 _ hread
    obtain rfl := areLines_iff.1 hls
    rw [hsealed rfl, if_pos hany]

end HangulLint
