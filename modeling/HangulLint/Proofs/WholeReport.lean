import HangulLint.Proofs.ReportFile
import Mathlib

/-!
# Reports that are there as a whole

A report is meant to be in its file as a whole, with nothing else changed, or not to be there at
all, with nothing changed. The directory is asked for first, and the file is opened in it; if
either is refused, nothing has changed so far. Where the file can be opened it lies in the
directory, unless it is a link, and both writes are to the one place (`Site.write_twice`).

The file is emptied before the text is expressed in bytes. So one case is left in which a report
is torn: the text has no UTF-8 form, the file can be opened, and it was not there as an empty file
already (`ReportPlan.Tears`). What was in the file is then lost.

* `Site.LeadsTo.child` — what is made at a path is in the directory that the path goes through last;
* `Site.write_twice` — two writes at one path;
* `ReportPlan.Whole` — a report as a whole, or no change;
* `ReportPlan.whole_iff` — reports are whole or not there, unless they are torn.
-/

namespace HangulLint

namespace FileTree

variable {tree : FileTree} {links : Nat} {place location : Location} {names : List Text}
  {name : Text} {landing : Landing}

/-- A last name that leads to a place for a file leads to it in the directory, if it is no link. -/
theorem walk_single (hlink : ∀ target, (place ++ [name], Node.link target) ∉ tree.entries)
    (h : tree.LeadsTo links place [name] location) : location = place ++ [name] := by
  unfold LeadsTo at h
  by_cases hstep : (!Path.isStep name) = true
  · rw [walk, if_pos hstep, walk] at h
    simp at h
  by_cases hparent : name = Path.parentName
  · rw [walk, if_neg hstep, if_pos hparent, walk] at h
    simp at h
  by_cases hlength : maxNameBytes < (Utf8.bytesOfName name).length
  · rw [walk, if_neg hstep, if_neg hparent, if_pos hlength] at h
    simp at h
  rw [walk_name hstep hparent hlength] at h
  cases hnode : tree.node? (place ++ [name]) with
  | none => simpa [hnode, eq_comm] using h
  | some node =>
    cases node with
    | file bytes => simpa [hnode, eq_comm] using h
    | directory => simp [hnode, walk] at h
    | link target => exact absurd ((node?_eq_some (by simp)).1 hnode) (hlink target)

/-- A file that is given the bytes it has. -/
theorem setBytes_self {bytes : List UInt8} (h : tree.node? location = some (.file bytes)) :
    tree.setBytes location bytes = tree := by
  have hentries : (tree.setBytes location bytes).entries = tree.entries := by
    refine (List.map_congr_left fun entry hentry => ?_).trans (List.map_id _)
    by_cases hlocation : entry.1 = location
    · -- the entry is the one that holds the bytes
      have hne : location ≠ [] := by
        rw [← hlocation]
        exact (tree.housed entry hentry).1
      have hsome := (node?_eq_some hne).1 h
      have heq := List.inj_on_of_nodup_map tree.nodup hentry hsome hlocation
      simp [heq, Node.setBytes]
    · simp [hlocation]
  cases tree
  simpa [setBytes] using hentries

end FileTree

namespace Site

variable {site site' site'' : Site} {path directory : Path} {name : Text} {location : Location}
  {landing : Landing} {bytes more : List UInt8}

/-- What leads to a place for a file leads there from the directory that it goes through last. -/
theorem LeadsTo.walk_child (h : site.LeadsTo (directory.child name) location) :
    ∃ place, site.land directory = .ok (.directory place) ∧
      ∃ links, site.tree.LeadsTo links place [name] location := by
  rcases h with hland | ⟨old, hland⟩
  · obtain ⟨place, hplace, links, hwalk⟩ := land_of_child hland
    exact ⟨place, hplace, links, .inl hwalk⟩
  · obtain ⟨place, hplace, links, hwalk⟩ := land_of_child hland
    exact ⟨place, hplace, links, .inr ⟨old, hwalk⟩⟩

/-- What is made at a path is in the directory that the path goes through last, if it is no link
that leads elsewhere. -/
theorem LeadsTo.child (hlink : ∀ place target, (place ++ [name], Node.link target) ∉
      site.tree.entries) (h : site.LeadsTo (directory.child name) location) :
    ∃ place, site.land directory = .ok (.directory place) ∧ location = place ++ [name] := by
  obtain ⟨place, hplace, links, hleads⟩ := h.walk_child
  exact ⟨place, hplace, FileTree.walk_single (hlink place) hleads⟩

theorem LeadsTo.unique {location' : Location} (h : site.LeadsTo path location)
    (h' : site.LeadsTo path location') : location = location' := by
  rcases h with hland | ⟨old, hland⟩ <;> rcases h' with hland' | ⟨old', hland'⟩
  · exact Landing.vacant.inj (Except.ok.inj (hland.symm.trans hland'))
  · exact absurd (hland.symm.trans hland') (by simp)
  · exact absurd (hland.symm.trans hland') (by simp)
  · exact (Landing.file.inj (Except.ok.inj (hland.symm.trans hland'))).1

/-- **Two writes at one path.** The second is to the place of the first, and nothing else has
changed after both. -/
theorem write_twice (h : site.write path bytes = .ok site')
    (h' : site'.write path more = .ok site'') :
    site''.cwd = site.cwd ∧ site''.levels = site.levels ∧
      ∃ location, site.LeadsTo path location ∧
        site''.tree.node? location = some (.file more) ∧
        ∀ other, other ≠ location → site''.tree.node? other = site.tree.node? other := by
  obtain ⟨-, hcwd, hlevels, location, hleads, -, hsame⟩ := write_ok h
  obtain ⟨-, hcwd', hlevels', location', hleads', hfile, hsame'⟩ := write_ok h'
  -- after the first write, the path leads to the file that it has made
  obtain ⟨there, hthere, hland⟩ := land_of_write h
  have hthere' : site'.LeadsTo path there := .inr ⟨bytes, hland⟩
  obtain rfl : location = there := hleads.unique hthere
  obtain rfl : location' = location := hleads'.unique hthere'
  exact ⟨hcwd'.trans hcwd, hlevels'.trans hlevels, location', hleads, hfile,
    fun other hother => (hsame' other hother).trans (hsame other hother)⟩

/-- Writing what is in a file changes nothing. -/
theorem write_of_read (h : site.read path = .ok bytes) : site.write path bytes = .ok site := by
  unfold read at h
  split at h
  · exact absurd h (by simp)
  · next hnul =>
    split at h
    · next location old hland =>
      obtain rfl := Except.ok.inj h
      rw [write, if_neg hnul, hland]
      simp only [FileTree.setBytes_self (FileTree.node?_of_walk (land_ok hland).2)]
    · exact absurd h (by simp)
    · exact absurd h (by simp)
    · exact absurd h (by simp)

end Site

namespace ReportPlan

variable {plan : ReportPlan} {site : Site} {now : Timestamp} {findings : Findings}

/-- **All or nothing.** -/
inductive Whole (plan : ReportPlan) (site : Site) (now : Timestamp) (findings : Findings) :
    Prop where
  /-- The report is in its file, in the directory where it is to go, whatever was there before;
  nothing else has changed. -/
  | written {directory : Path} {journal : List (Record FileFault)} {place : Location}
      {bytes : List UInt8}
      (hdirectory : plan.directory site = .ok (directory, journal))
      (hplace : site.land directory = .ok (.directory place))
      (houtcome : (plan.write site now findings).outcome =
        .ok (directory.child (Report.nameAt now)))
      (hbytes : Utf8.encodeText (Report.render plan.arranged findings) = .ok bytes)
      (hread : (plan.write site now findings).site.read (directory.child (Report.nameAt now)) =
        .ok bytes)
      (hfile : (plan.write site now findings).site.tree.node? (place ++ [Report.nameAt now]) =
        some (.file bytes))
      (hsame : ∀ other, other ≠ place ++ [Report.nameAt now] →
        (plan.write site now findings).site.tree.node? other = site.tree.node? other)
      (hcwd : (plan.write site now findings).site.cwd = site.cwd)
  /-- The report could not be written, and nothing has changed. -/
  | refused {fault : ReportFault} (houtcome : (plan.write site now findings).outcome = .error fault)
      (hsite : (plan.write site now findings).site = site)

/-- **Torn reports.** The text has no UTF-8 form, the file can be opened, and it is not there as an
empty file. -/
def Tears (plan : ReportPlan) (site : Site) (now : Timestamp) (findings : Findings) : Prop :=
  (∃ b, Glyph.stray b ∈ Report.render plan.arranged findings) ∧
    ∃ directory journal emptied, plan.directory site = .ok (directory, journal) ∧
      site.write (directory.child (Report.nameAt now)) [] = .ok emptied ∧
      site.read (directory.child (Report.nameAt now)) ≠ .ok []

/-- A report whose file can be opened, and whose text has a UTF-8 form. -/
theorem whole_of_written
    (hlink : ∀ place target, (place ++ [Report.nameAt now], Node.link target) ∉ site.tree.entries)
    {directory : Path} {journal : List (Record FileFault)} {emptied : Site} {bytes : List UInt8}
    (hdirectory : plan.directory site = .ok (directory, journal))
    (hemptied : site.write (directory.child (Report.nameAt now)) [] = .ok emptied)
    (hbytes : Utf8.encodeText (Report.render plan.arranged findings) = .ok bytes) :
    plan.Whole site now findings := by
  obtain ⟨houtcome, hread⟩ := write_ok hdirectory hemptied hbytes
  obtain ⟨filled, hfilled⟩ := Site.exists_write_again hemptied bytes
  have hsite : (plan.write site now findings).site = filled := by
    rw [write, hdirectory]
    simp only [fill, hemptied, hbytes, hfilled]
  obtain ⟨hcwd, -, location, hleads, hfile, hsame⟩ := Site.write_twice hemptied hfilled
  obtain ⟨place, hplace, rfl⟩ := hleads.child hlink
  rw [← hsite] at hcwd hfile hsame
  exact .written hdirectory hplace houtcome hbytes hread hfile hsame hcwd

/-- A report that is torn is neither there nor refused. -/
theorem not_whole_of_tears (h : plan.Tears site now findings) :
    ¬ plan.Whole site now findings := by
  obtain ⟨⟨b, hb⟩, directory, journal, emptied, hdirectory, hemptied, hread⟩ := h
  intro hwhole
  cases hencode : Utf8.encodeText (Report.render plan.arranged findings) with
  | ok bytes => exact Utf8.encodeText_eq_ok.1 ⟨bytes, hencode⟩ b hb
  | error fault =>
    -- the file has been emptied, and the site is not as it was
    have hwriting : plan.write site now findings = ⟨.error (.text fault), emptied, journal⟩ :=
      write_error hdirectory hemptied hencode
    cases hwhole with
    | written _ _ hok =>
      rw [hwriting] at hok
      exact absurd hok (by simp)
    | refused _ hsame =>
      rw [hwriting] at hsame
      obtain rfl : emptied = site := hsame
      exact hread (Site.read_of_write hemptied)

/-- A report without a UTF-8 form changes nothing if its file was there already, and empty. -/
theorem whole_of_stray {directory : Path} {journal : List (Record FileFault)} {emptied : Site}
    {fault : Utf8.EncodeFault} (hdirectory : plan.directory site = .ok (directory, journal))
    (hemptied : site.write (directory.child (Report.nameAt now)) [] = .ok emptied)
    (hfault : Utf8.encodeText (Report.render plan.arranged findings) = .error fault)
    (hread : site.read (directory.child (Report.nameAt now)) = .ok []) :
    plan.Whole site now findings := by
  obtain rfl : site = emptied := Except.ok.inj ((Site.write_of_read hread).symm.trans hemptied)
  have hwriting := write_error hdirectory hemptied hfault
  exact .refused (congrArg _ hwriting) (congrArg _ hwriting)

/-- A report that is not torn is there as a whole, or refused. -/
theorem whole_of_not_tears
    (hlink : ∀ place target, (place ++ [Report.nameAt now], Node.link target) ∉ site.tree.entries)
    (h : ¬ plan.Tears site now findings) : plan.Whole site now findings := by
  cases hdirectory : plan.directory site with
  | error error =>
    have hwriting : plan.write site now findings = ⟨.error (.directory error), site, []⟩ :=
      write_undirected hdirectory
    exact .refused (congrArg _ hwriting) (congrArg _ hwriting)
  | ok found =>
    obtain ⟨directory, journal⟩ := found
    cases hemptied : site.write (directory.child (Report.nameAt now)) [] with
    | error fault =>
      have hwriting : plan.write site now findings = ⟨.error (.file fault), site, journal⟩ :=
        write_unopened hdirectory hemptied
      exact .refused (congrArg _ hwriting) (congrArg _ hwriting)
    | ok emptied =>
      cases hencode : Utf8.encodeText (Report.render plan.arranged findings) with
      | ok bytes => exact whole_of_written hlink hdirectory hemptied hencode
      | error fault =>
        -- the text holds a stray byte, so the file must have been empty before
        have hstray : ∃ b, Glyph.stray b ∈ Report.render plan.arranged findings := by
          by_contra hnone
          obtain ⟨bytes, hbytes⟩ := Utf8.encodeText_eq_ok.2 fun b hb => hnone ⟨b, hb⟩
          exact absurd (hencode.symm.trans hbytes) (by simp)
        refine whole_of_stray hdirectory hemptied hencode ?_
        by_contra hread
        exact h ⟨hstray, directory, journal, emptied, hdirectory, hemptied, hread⟩

/-- **When reports are whole or not there.** Where no link has the name of the report, a report is
in its file as a whole and nothing else has changed, or it is refused and nothing at all has
changed; only reports that are torn are neither. -/
theorem whole_iff
    (hlink : ∀ place target, (place ++ [Report.nameAt now], Node.link target) ∉ site.tree.entries) :
    plan.Whole site now findings ↔ ¬ plan.Tears site now findings :=
  ⟨fun h htears => not_whole_of_tears htears h, whole_of_not_tears hlink⟩

end ReportPlan

/-! ### An earlier report of the same name -/

/-- A directory with a report in it. -/
def shelfTree : FileTree where
  entries := [(["HangulDetector_2024-11-30_090807.txt"], .file "old".toUTF8.data.toList)]
  nodup := by decide
  housed := by decide
  named := by decide

/-- A program that runs in that directory. -/
def shelf : Site := ⟨shelfTree, [], standardLevels⟩

/-- The second in which that report was written. -/
def shelfTime : Timestamp :=
  { year := 2024, month := 11, day := 30, hour := 9, minute := 8, second := 7 }

/-- A report that goes to the directory in which the program runs. -/
def shelfPlan : ReportPlan := ⟨none, none, true⟩

theorem link_notMem_shelf (place : Location) (target : Text) :
    (place ++ [Report.nameAt shelfTime], Node.link target) ∉ shelf.tree.entries := by
  simp [shelf, shelfTree]

/-- The earlier report is replaced as a whole. -/
theorem whole_shelf :
    shelfPlan.Whole shelf shelfTime [("d/a.cs", [⟨1, "x \"가\""⟩])] := by
  refine (ReportPlan.whole_iff link_notMem_shelf).2 ?_
  rintro ⟨⟨b, hb⟩, -⟩
  have hbytes : Utf8.encodeText (Report.render shelfPlan.arranged
      [("d/a.cs", [⟨1, "x \"가\""⟩])]) = .ok "d/a.cs (1): x \"가\"\n".toUTF8.data.toList := by cbv
  exact Utf8.encodeText_eq_ok.1 ⟨_, hbytes⟩ b hb

/-- **An earlier report is lost.** No link has the name of the report, and the report on a finding
in a file whose name is no UTF-8 is neither there nor has nothing changed. -/
theorem not_whole_stray :
    (∀ place target, (place ++ [Report.nameAt shelfTime], Node.link target) ∉
      shelf.tree.entries) ∧
    ¬ shelfPlan.Whole shelf shelfTime [([.stray 0xFF], [⟨1, "x \"가\""⟩])] := by
  refine ⟨link_notMem_shelf, fun h => ?_⟩
  cases h with
  | written _ _ _ hbytes _ _ _ _ =>
    have hfault : Utf8.encodeText (Report.render shelfPlan.arranged
        [([.stray 0xFF], [⟨1, "x \"가\""⟩])]) = .error ⟨0, 0, 0xFF⟩ := by cbv
    exact absurd (hfault.symm.trans hbytes) (by simp)
  | refused _ hsite =>
    -- the file is empty now, and was not before
    have hafter : (shelfPlan.write shelf shelfTime
        [([.stray 0xFF], [⟨1, "x \"가\""⟩])]).site.read
          ⟨.here, ["HangulDetector_2024-11-30_090807.txt"]⟩ = .ok [] := by cbv
    have hbefore : shelf.read ⟨.here, ["HangulDetector_2024-11-30_090807.txt"]⟩ =
        .ok "old".toUTF8.data.toList := by cbv
    rw [hsite, hbefore] at hafter
    exact absurd hafter (by decide)

end HangulLint
