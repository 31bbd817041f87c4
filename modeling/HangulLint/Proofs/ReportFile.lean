import HangulLint.Proofs.Arrangement
import HangulLint.Proofs.Following

/-!
# The report in its file

What is written at a path is there when the path is read again: a write changes what is at one
place only, and the path leads to that place afterwards, as it did before. A report is first
emptied and then filled; where the first works, the second does, unless the text has no UTF-8 form.
A text has one exactly if it holds no stray byte of a file name.

* `FileTree.walk_put` — where names lead once a file is put somewhere;
* `Site.read_of_write` — what is written can be read;
* `Utf8.encodeText_eq_ok` — the texts with a UTF-8 form;
* `Report.mem_render`, `Report.stray_mem_line` — where the stray bytes in a report come from;
* `ReportPlan.fill_ok` — what is in the file.
-/

namespace HangulLint

namespace FileTree

variable {tree tree' : FileTree} {links : Nat} {place location there : Location}
  {names : List Text} {bytes : List UInt8}

/-- A place for a file: a file is there, or nothing is. -/
def Free (tree : FileTree) (location : Location) : Prop :=
  tree.node? location = none ∨ ∃ bytes, tree.node? location = some (.file bytes)

theorem Free.ne_of_node? (hfree : tree.Free location) {node : Node}
    (hnode : tree.node? there = some node) (hfile : ∀ bytes, node ≠ .file bytes) :
    there ≠ location := by
  rintro rfl
  rcases hfree with hnone | ⟨bytes, hbytes⟩
  · exact absurd (hnode.symm.trans hnone) (by simp)
  · exact hfile bytes (Option.some.inj (hnode.symm.trans hbytes))

theorem node?_of_walk (h : tree.walk links place names = .ok (.file location bytes)) :
    tree.node? location = some (.file bytes) := by
  fun_induction walk tree links place names with
  | case2 links place name rest hstep ih => exact ih h
  | case3 links place rest hstep ih => exact ih h
  | case7 links place name rest hstep hparent hlength hnode ih => exact ih h
  | case8 links place name rest hstep hparent hlength old hnode hrest =>
    obtain ⟨rfl, rfl⟩ := Landing.file.inj (Except.ok.inj h)
    exact hnode
  | case11 place name rest hstep hparent hlength target hnode links ih => exact ih h
  | _ => simp at h

theorem node?_of_walk_vacant (h : tree.walk links place names = .ok (.vacant location)) :
    tree.node? location = none := by
  fun_induction walk tree links place names with
  | case2 links place name rest hstep ih => exact ih h
  | case3 links place rest hstep ih => exact ih h
  | case5 links place name rest hstep hparent hlength hnode hrest =>
    obtain rfl := Landing.vacant.inj (Except.ok.inj h)
    exact hnode
  | case7 links place name rest hstep hparent hlength hnode ih => exact ih h
  | case11 place name rest hstep hparent hlength target hnode links ih => exact ih h
  | _ => simp at h

/-- Where names lead to a place for a file. -/
def LeadsTo (tree : FileTree) (links : Nat) (place : Location) (names : List Text)
    (location : Location) : Prop :=
  tree.walk links place names = .ok (.vacant location) ∨
    ∃ old, tree.walk links place names = .ok (.file location old)

theorem LeadsTo.free (h : tree.LeadsTo links place names location) : tree.Free location := by
  rcases h with hvacant | ⟨bytes, hfile⟩
  · exact .inl (node?_of_walk_vacant hvacant)
  · exact .inr ⟨bytes, node?_of_walk hfile⟩

/-- **Where names lead once a file is put somewhere.** Where they led before, or to the file, or
they are still refused behind its place. -/
theorem walk_put (hsame : ∀ other, other ≠ location → tree'.node? other = tree.node? other)
    (hfile : tree'.node? location = some (.file bytes)) (hfree : tree.Free location) :
    tree'.walk links place names = tree.walk links place names ∨
      (tree.LeadsTo links place names location ∧
        tree'.walk links place names = .ok (.file location bytes)) ∨
      (tree.walk links place names = .error .notFound ∧
        tree'.walk links place names = .error .notDirectory) := by
  unfold LeadsTo
  fun_induction walk tree links place names with
  | case1 => exact .inl (by rw [walk])
  | case2 links place name rest hstep ih =>
    rw [walk, if_pos hstep]
    exact ih
  | case3 links place rest hstep ih =>
    rw [walk, if_neg hstep, if_pos rfl]
    exact ih
  | case4 links place name rest hstep hparent hlength =>
    exact .inl (by rw [walk, if_neg hstep, if_neg hparent, if_pos hlength])
  | case5 links place name rest hstep hparent hlength hnode hrest =>
    rw [walk_name hstep hparent hlength]
    by_cases hplace : place ++ [name] = location
    · -- nothing was there, and now the file is
      subst hplace
      exact .inr (.inl ⟨.inl rfl, by simp [hfile, hrest]⟩)
    · exact .inl (by simp [hsame _ hplace, hnode, hrest])
  | case6 links place name rest hstep hparent hlength hnode hrest =>
    rw [walk_name hstep hparent hlength]
    by_cases hplace : place ++ [name] = location
    · subst hplace
      exact .inr (.inr ⟨rfl, by simp [hfile, hrest]⟩)
    · exact .inl (by simp [hsame _ hplace, hnode, hrest])
  | case7 links place name rest hstep hparent hlength hnode ih =>
    -- directories and links on the way are at other places, which have not changed
    rw [walk_name hstep hparent hlength, hsame _ (hfree.ne_of_node? hnode (by simp)), hnode]
    exact ih
  | case8 links place name rest hstep hparent hlength old hnode hrest =>
    rw [walk_name hstep hparent hlength]
    by_cases hplace : place ++ [name] = location
    · subst hplace
      exact .inr (.inl ⟨.inr ⟨old, rfl⟩, by simp [hfile, hrest]⟩)
    · exact .inl (by simp [hsame _ hplace, hnode, hrest])
  | case9 links place name rest hstep hparent hlength old hnode hrest =>
    rw [walk_name hstep hparent hlength]
    by_cases hplace : place ++ [name] = location
    · subst hplace
      exact .inl (by simp [hfile, hrest])
    · exact .inl (by simp [hsame _ hplace, hnode, hrest])
  | case10 place name rest hstep hparent hlength target hnode =>
    rw [walk_name hstep hparent hlength, hsame _ (hfree.ne_of_node? hnode (by simp)), hnode]
    exact .inl rfl
  | case11 place name rest hstep hparent hlength target hnode links ih =>
    rw [walk_name hstep hparent hlength, hsame _ (hfree.ne_of_node? hnode (by simp)), hnode]
    exact ih

/-- Names that lead to a place for a file lead to the file once it is there. -/
theorem LeadsTo.walk_put (h : tree.LeadsTo links place names location)
    (hsame : ∀ other, other ≠ location → tree'.node? other = tree.node? other)
    (hfile : tree'.node? location = some (.file bytes)) :
    tree'.walk links place names = .ok (.file location bytes) := by
  obtain heq | ⟨-, hwalk⟩ | ⟨hnowhere, -⟩ := FileTree.walk_put hsame hfile h.free
  · -- what the names lead to is what is there now
    obtain hvacant | ⟨old, hold⟩ := h
    · have hnone := node?_of_walk_vacant (heq.trans hvacant)
      exact absurd (hfile.symm.trans hnone) (by simp)
    · have hnode := node?_of_walk (heq.trans hold)
      rw [heq, hold, Node.file.inj (Option.some.inj (hfile.symm.trans hnode))]
  · exact hwalk
  · obtain hvacant | ⟨old, hold⟩ := h
    · exact absurd (hnowhere.symm.trans hvacant) (by simp)
    · exact absurd (hnowhere.symm.trans hold) (by simp)

/-! ### What a write changes -/

theorem node?_insert {node : Node} (h : tree.Admits location) :
    (tree.insert location node h).node? location = some node ∧
      ∀ other, other ≠ location →
        (tree.insert location node h).node? other = tree.node? other := by
  refine ⟨(node?_eq_some h.1).2 (List.mem_append_right _ (by simp)), fun other hother => ?_⟩
  by_cases hne : other = []
  · simp [node?, hne]
  · refine Option.ext fun found => ?_
    rw [node?_eq_some hne, node?_eq_some hne]
    simp [insert, hother]

theorem node?_setBytes {old : List UInt8} (h : tree.node? location = some (.file old)) :
    (tree.setBytes location bytes).node? location = some (.file bytes) ∧
      ∀ other, other ≠ location →
        (tree.setBytes location bytes).node? other = tree.node? other := by
  have hroot : location ≠ [] := by
    rintro rfl
    simp [node?] at h
  refine ⟨(node?_eq_some hroot).2 ?_, fun other hother => ?_⟩
  · refine List.mem_map.2 ⟨_, (node?_eq_some hroot).1 h, ?_⟩
    simp [Node.setBytes]
  · by_cases hne : other = []
    · simp [node?, hne]
    · refine Option.ext fun found => ?_
      rw [node?_eq_some hne, node?_eq_some hne, setBytes, List.mem_map]
      -- entries at other places are mapped to themselves
      constructor
      · rintro ⟨entry, hentry, heq⟩
        obtain ⟨rfl, rfl⟩ := Prod.mk.inj heq
        rwa [if_neg hother]
      · exact fun hentry => ⟨_, hentry, by simp [hother]⟩

end FileTree

namespace Site

variable {site site' : Site} {path : Path} {bytes : List UInt8}

/-- The path leads to a place where nothing is yet, or to a file. -/
def LeadsTo (site : Site) (path : Path) (location : Location) : Prop :=
  site.land path = .ok (.vacant location) ∨ ∃ old, site.land path = .ok (.file location old)

theorem LeadsTo.walk {location : Location} (h : site.LeadsTo path location) :
    ¬ pathBytesLimit ≤ (Utf8.bytesOfName path.text).length ∧
      site.tree.LeadsTo maxLinks (site.start path.origin) path.names location := by
  rcases h with hland | ⟨old, hland⟩
  · exact ⟨(land_ok hland).1, .inl (land_ok hland).2⟩
  · exact ⟨(land_ok hland).1, .inr ⟨old, (land_ok hland).2⟩⟩

/-- **A write.** It makes a file at the place that the path leads to, and changes nothing else. -/
theorem write_ok (h : site.write path bytes = .ok site') :
    path.hasNul = false ∧ site'.cwd = site.cwd ∧ site'.levels = site.levels ∧
      ∃ location, site.LeadsTo path location ∧
        site'.tree.node? location = some (.file bytes) ∧
        ∀ other, other ≠ location → site'.tree.node? other = site.tree.node? other := by
  unfold write at h
  split at h
  · exact absurd h (by simp)
  · next hnul =>
    refine ⟨by simpa using hnul, ?_⟩
    split at h
    · next location old hland =>
      -- the file that is there gets other bytes
      obtain rfl := Except.ok.inj h
      have hnode : site.tree.node? location = some (.file old) :=
        FileTree.node?_of_walk (land_ok hland).2
      exact ⟨rfl, rfl, location, .inr ⟨old, hland⟩, FileTree.node?_setBytes hnode⟩
    · next location hland =>
      -- a new file is made, where one can be
      split at h
      · next hadmits =>
        obtain rfl := Except.ok.inj h
        exact ⟨rfl, rfl, location, .inl hland, FileTree.node?_insert hadmits⟩
      · exact absurd h (by simp)
    · exact absurd h (by simp)
    · exact absurd h (by simp)

/-- A write is in the tree alone. -/
theorem land_of_write (h : site.write path bytes = .ok site') :
    ∃ location, site.LeadsTo path location ∧ site'.land path = .ok (.file location bytes) := by
  obtain ⟨-, hcwd, -, location, hleads, hfile, hsame⟩ := write_ok h
  obtain ⟨hlength, hwalk⟩ := hleads.walk
  have hstart : site'.start path.origin = site.start path.origin := by
    cases path.origin <;> simp [start, hcwd]
  refine ⟨location, hleads, ?_⟩
  rw [land, if_neg hlength, hstart]
  exact hwalk.walk_put hsame hfile

/-- **What is written can be read.** -/
theorem read_of_write (h : site.write path bytes = .ok site') : site'.read path = .ok bytes := by
  obtain ⟨location, -, hland⟩ := land_of_write h
  rw [read, if_neg (by simp [(write_ok h).1]), hland]

/-- Where a path leads to a place at which something new can be put, a file can be made. -/
theorem exists_write_of_vacant {location : Location} (hnul : path.hasNul = false)
    (hland : site.land path = .ok (.vacant location)) (hadmits : site.tree.Admits location) :
    ∃ site', site.write path bytes = .ok site' := by
  rw [write, if_neg (by simp [hnul]), hland]
  exact ⟨_, dif_pos hadmits⟩

theorem exists_write_again (h : site.write path bytes = .ok site') (more : List UInt8) :
    ∃ site'', site'.write path more = .ok site'' := by
  obtain ⟨location, -, hland⟩ := land_of_write h
  rw [write, if_neg (by simp [(write_ok h).1]), hland]
  exact ⟨_, rfl⟩

end Site

/-! ### Texts with a UTF-8 form -/

namespace Utf8

theorem encodeTextFrom_eq_ok {position : Nat} {before : List (List UInt8)} {t : Text} :
    (∃ bytes, encodeTextFrom position before t = .ok bytes) ↔ ∀ b, Glyph.stray b ∉ t := by
  induction t generalizing position before with
  | nil => simp [encodeTextFrom]
  | cons g t ih =>
    cases g with
    | scalar c => simp [encodeTextFrom, ih]
    | stray b =>
      simp only [encodeTextFrom, reduceCtorEq, exists_false, false_iff, not_forall, not_not]
      exact ⟨b, List.mem_cons_self⟩

/-- The texts with a UTF-8 form are those without stray bytes. -/
theorem encodeText_eq_ok {t : Text} :
    (∃ bytes, encodeText t = .ok bytes) ↔ ∀ b, Glyph.stray b ∉ t :=
  encodeTextFrom_eq_ok

end Utf8

/-! ### Stray bytes in a report -/

namespace Report

/-- A report is told by its lines, in whatever order. -/
theorem mem_render {arranged : Bool} {findings : Findings} (h : findings.Orderly) {g : Glyph} :
    g ∈ render arranged findings ↔
      ∃ key, ∃ finding ∈ findings.under key, g ∈ line key finding := by
  have htext : g ∈ text findings ↔ ∃ key, ∃ finding ∈ findings.under key, g ∈ line key finding := by
    simp only [text, List.mem_flatMap, Prod.exists]
    constructor
    · rintro ⟨key, found, hentry, finding, hfinding, hg⟩
      obtain ⟨rfl, -⟩ := h.mem_iff.1 hentry
      exact ⟨key, finding, hfinding, hg⟩
    · rintro ⟨key, finding, hfinding, hg⟩
      exact ⟨key, _, h.mem_iff.2 ⟨rfl, List.ne_nil_of_mem hfinding⟩, finding, hfinding, hg⟩
  cases arranged with
  | false => exact htext
  | true =>
    -- the keys and the lines come in another order, and none is left out
    rw [render_eq h, ← htext]
    simp only [List.mem_flatMap, mem_keys h, (byLine_perm _).mem_iff]
    rw [htext]
    constructor
    · rintro ⟨key, -, finding, hfinding, hg⟩
      exact ⟨key, finding, hfinding, hg⟩
    · rintro ⟨key, finding, hfinding, hg⟩
      exact ⟨key, List.ne_nil_of_mem hfinding, finding, hfinding, hg⟩

theorem stray_notMem_ofString (s : String) (b : UInt8) : Glyph.stray b ∉ Text.ofString s := by
  simp [Text.ofString, Text.ofChars]

/-- The stray bytes in a line are those of the key and of the text. -/
theorem stray_mem_line {key : Text} {finding : Finding} {b : UInt8} :
    Glyph.stray b ∈ line key finding ↔ Glyph.stray b ∈ key ∨ Glyph.stray b ∈ finding.text := by
  simp [line, Text.ofInt, stray_notMem_ofString]

theorem infix_flatMap {α β : Type} (f : α → List β) {a : α} {s : List α} (h : a ∈ s) :
    f a <:+: s.flatMap f :=
  List.infix_of_mem_flatten (List.mem_map_of_mem h)

/-- Every line of a report is in it. -/
theorem line_infix_render {arranged : Bool} {findings : Findings} (h : findings.Orderly)
    {key : Text} {finding : Finding} (hfinding : finding ∈ findings.under key) :
    line key finding <:+: render arranged findings := by
  have hkey := List.ne_nil_of_mem hfinding
  cases arranged with
  | false =>
    exact (infix_flatMap (line key) hfinding).trans
      (infix_flatMap (fun entry : Text × List Finding => entry.2.flatMap (line entry.1))
        (h.mem_iff.2 ⟨rfl, hkey⟩))
  | true =>
    rw [render_eq h]
    exact (infix_flatMap (line key) ((byLine_perm _).mem_iff.2 hfinding)).trans
      (infix_flatMap (fun key => (byLine (findings.under key)).flatMap (line key))
        ((mem_keys h).2 hkey))

end Report

/-! ### The file -/

namespace ReportPlan

variable {site emptied : Site} {path : Path} {text : Text}

theorem fill_ok (h : site.write path [] = .ok emptied) {bytes : List UInt8}
    (hbytes : Utf8.encodeText text = .ok bytes) :
    ∃ filled, fill site path text = (.ok (), filled) ∧ filled.read path = .ok bytes := by
  obtain ⟨filled, hfilled⟩ := Site.exists_write_again h bytes
  refine ⟨filled, ?_, Site.read_of_write hfilled⟩
  rw [fill, h]
  simp only [hbytes, hfilled]

theorem fill_error (h : site.write path [] = .ok emptied) {fault : Utf8.EncodeFault}
    (hfault : Utf8.encodeText text = .error fault) :
    fill site path text = (.error (.text fault), emptied) := by
  rw [fill, h]
  simp only [hfault]

variable {plan : ReportPlan} {now : Timestamp} {directory : Path}
  {journal : List (Record FileFault)} {findings : Findings}

/-- A report whose file can be made, and whose text has a UTF-8 form. -/
theorem write_ok (hdirectory : plan.directory site = .ok (directory, journal))
    (hwrite : site.write (directory.child (Report.nameAt now)) [] = .ok emptied)
    {bytes : List UInt8}
    (hbytes : Utf8.encodeText (Report.render plan.arranged findings) = .ok bytes) :
    (plan.write site now findings).outcome = .ok (directory.child (Report.nameAt now)) ∧
      (plan.write site now findings).site.read (directory.child (Report.nameAt now)) =
        .ok bytes := by
  obtain ⟨filled, hfill, hread⟩ := fill_ok hwrite hbytes
  rw [write, hdirectory]
  simp only [hfill, true_and]
  exact hread

/-- A report that has no directory to go to. -/
theorem write_undirected {error : OsError} (hdirectory : plan.directory site = .error error) :
    plan.write site now findings = ⟨.error (.directory error), site, []⟩ := by
  rw [write, hdirectory]

/-- A report whose file cannot be made. -/
theorem write_unopened (hdirectory : plan.directory site = .ok (directory, journal))
    {fault : OpenFault}
    (hfault : site.write (directory.child (Report.nameAt now)) [] = .error fault) :
    plan.write site now findings = ⟨.error (.file fault), site, journal⟩ := by
  rw [write, hdirectory]
  simp only [fill, hfault]

/-- A report whose file can be made, and whose text has no UTF-8 form. -/
theorem write_error (hdirectory : plan.directory site = .ok (directory, journal))
    (hwrite : site.write (directory.child (Report.nameAt now)) [] = .ok emptied)
    {fault : Utf8.EncodeFault}
    (hfault : Utf8.encodeText (Report.render plan.arranged findings) = .error fault) :
    plan.write site now findings = ⟨.error (.text fault), emptied, journal⟩ := by
  rw [write, hdirectory]
  simp only [fill_error hwrite hfault]

/-- A report that has been written. -/
theorem of_write_ok {path : Path} (h : (plan.write site now findings).outcome = .ok path) :
    ∃ directory journal emptied bytes, plan.directory site = .ok (directory, journal) ∧
      site.write (directory.child (Report.nameAt now)) [] = .ok emptied ∧
      Utf8.encodeText (Report.render plan.arranged findings) = .ok bytes ∧
      emptied.write (directory.child (Report.nameAt now)) bytes =
        .ok (plan.write site now findings).site := by
  cases hdirectory : plan.directory site with
  | error error => simp [write_undirected hdirectory] at h
  | ok found =>
    obtain ⟨directory, journal⟩ := found
    cases hemptied : site.write (directory.child (Report.nameAt now)) [] with
    | error fault => simp [write_unopened hdirectory hemptied] at h
    | ok emptied =>
      cases hbytes : Utf8.encodeText (Report.render plan.arranged findings) with
      | error fault => simp [write_error hdirectory hemptied hbytes] at h
      | ok bytes =>
        obtain ⟨filled, hfilled⟩ := Site.exists_write_again hemptied bytes
        refine ⟨directory, journal, emptied, bytes, rfl, hemptied, rfl, ?_⟩
        rw [write, hdirectory]
        simp only [fill, hemptied, hbytes, hfilled]

end ReportPlan

end HangulLint
