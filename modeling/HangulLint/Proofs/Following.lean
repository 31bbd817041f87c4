import HangulLint.Proofs.Selection

/-!
# Following names

Where names lead depends on little. The number of links that may be followed matters only where it
does not suffice; names behind a file, or behind a fault, change nothing of the fault; and through
real directories names lead without any link. So a path leads somewhere only through a directory,
and what lies below a directory is reached through its last name.

* `FileTree.walk_links` — the number of links;
* `FileTree.walk_append_of_error`, `FileTree.walk_append_of_file` — more names behind a fault, and
  behind a file;
* `FileTree.exists_directory_of_walk`, `Site.land_of_child` — a path goes through a directory last;
* `FileTree.walk_entry` — what is in the tree is reached through its last name.
-/

namespace HangulLint

namespace FileTree

variable {tree : FileTree} {links links' : Nat} {place location : Location}
  {names more : List Text} {name : Text} {landing : Landing} {cause : OsCause}
  {bytes : List UInt8} {node : Node}

/-- More links change nothing, unless there were too few. -/
theorem walk_links (h : links ≤ links') :
    tree.walk links place names = .error .tooManyLinks ∨
      tree.walk links' place names = tree.walk links place names := by
  -- along the walk: only a link makes use of the number
  fun_induction walk tree links place names generalizing links' with
  | case1 => exact .inr (by rw [walk])
  | case2 links place name rest hstep ih =>
    rw [walk, if_pos hstep]
    exact ih h
  | case3 links place rest hstep ih =>
    rw [walk, if_neg hstep, if_pos rfl]
    exact ih h
  | case7 links place name rest hstep hparent hlength hnode ih =>
    rw [walk_name hstep hparent hlength, hnode]
    exact ih h
  | case10 =>
    -- a link, and none may be followed any more
    exact .inl rfl
  | case11 place name rest hstep hparent hlength target hnode links ih =>
    -- a link that is followed: one less is left for both
    obtain ⟨left, rfl⟩ : ∃ left, links' = left + 1 := ⟨links' - 1, by omega⟩
    rw [walk_name hstep hparent hlength, hnode]
    exact ih (Nat.le_of_succ_le_succ h)
  | _ =>
    right
    rw [walk]
    simp [*]

/-- Names behind a fault change nothing. -/
theorem walk_append_of_error (h : tree.walk links place names = .error cause)
    (more : List Text) : tree.walk links place (names ++ more) = .error cause := by
  fun_induction walk tree links place names with
  | case1 => simp at h
  | case2 links place name rest hstep ih =>
    rw [List.cons_append, walk, if_pos hstep, ih h]
  | case3 links place rest hstep ih =>
    rw [List.cons_append, walk, if_neg hstep, if_pos rfl, ih h]
  | case7 links place name rest hstep hparent hlength hnode ih =>
    rw [List.cons_append, walk_name hstep hparent hlength, hnode]
    exact ih h
  | case11 place name rest hstep hparent hlength target hnode links ih =>
    -- the names come behind those of the link's target
    rw [List.cons_append, walk_name hstep hparent hlength, hnode]
    simpa using ih h
  | case4 links place name rest hstep hparent hlength =>
    rw [List.cons_append, walk, if_neg hstep, if_neg hparent, if_pos hlength, h]
  | case5 | case8 => simp at h
  | case6 links place name rest hstep hparent hlength hnode hrest =>
    -- the fault is that names are left, and there are even more now
    have hne : rest ≠ [] := by simpa using hrest
    rw [List.cons_append, walk_name hstep hparent hlength, hnode, ← h]
    simp [hne]
  | case9 links place name rest hstep hparent hlength old hnode hrest =>
    have hne : rest ≠ [] := by simpa using hrest
    rw [List.cons_append, walk_name hstep hparent hlength, hnode, ← h]
    simp [hne]
  | case10 place name rest hstep hparent hlength target hnode =>
    rw [List.cons_append, walk_name hstep hparent hlength, hnode, h]

/-- No names lead on from a file. -/
theorem walk_append_of_file (h : tree.walk links place names = .ok (.file location bytes))
    (hmore : more ≠ []) : tree.walk links place (names ++ more) = .error .notDirectory := by
  fun_induction walk tree links place names with
  | case2 links place name rest hstep ih =>
    rw [List.cons_append, walk, if_pos hstep, ih h]
  | case3 links place rest hstep ih =>
    rw [List.cons_append, walk, if_neg hstep, if_pos rfl, ih h]
  | case7 links place name rest hstep hparent hlength hnode ih =>
    rw [List.cons_append, walk_name hstep hparent hlength, hnode]
    exact ih h
  | case8 links place name rest hstep hparent hlength old hnode hrest =>
    -- the file is where the names end, and now they go on
    rw [List.cons_append, walk_name hstep hparent hlength, hnode]
    simp [hmore]
  | case11 place name rest hstep hparent hlength target hnode links ih =>
    rw [List.cons_append, walk_name hstep hparent hlength, hnode]
    simpa using ih h
  | _ => simp at h

/-- Names are followed beyond a directory only. -/
theorem exists_directory_of_walk (h : tree.walk links place (names ++ [name]) = .ok landing) :
    ∃ directory, tree.walk links place names = .ok (.directory directory) := by
  fun_induction walk tree links place names with
  | case1 links place => exact ⟨place, rfl⟩
  | case2 links place other rest hstep ih =>
    rw [List.cons_append, walk, if_pos hstep] at h
    exact ih h
  | case3 links place rest hstep ih =>
    rw [List.cons_append, walk, if_neg hstep, if_pos rfl] at h
    exact ih h
  | case7 links place other rest hstep hparent hlength hnode ih =>
    rw [List.cons_append, walk_name hstep hparent hlength, hnode] at h
    exact ih h
  | case11 place other rest hstep hparent hlength target hnode links ih =>
    -- the last name stays the last one when the link is replaced by its target
    rw [List.cons_append, walk_name hstep hparent hlength, hnode] at h
    exact ih (by simpa using h)
  | _ =>
    -- nothing is followed beyond a file, or where nothing is
    rw [List.cons_append, walk] at h
    simp [*] at h

/-- What is in the tree is reached through its last name, from the directory that it lies in. -/
theorem walk_entry (hentry : (location ++ (names ++ [name]), node) ∈ tree.entries) (links : Nat) :
    tree.walk links location (names ++ [name]) = tree.walk links (location ++ names) [name] :=
  walk_directories_append links (directory_of_parent hentry) [name]

/-- The name of a file leads to it. -/
theorem walk_file (hentry : (place ++ [name], Node.file bytes) ∈ tree.entries) (links : Nat) :
    tree.walk links place [name] = .ok (.file (place ++ [name]) bytes) := by
  obtain ⟨hstep, hparent, hlength⟩ := isStep_of_isFileName (tree.named _ hentry name (by simp))
  rw [walk_name hstep hparent hlength, (node?_eq_some (by simp)).2 hentry]
  simp

/-- The name of a link leads where its target leads, with one link less. -/
theorem walk_link {target : Text} (hentry : (place ++ [name], Node.link target) ∈ tree.entries)
    (links : Nat) : tree.walk (links + 1) place [name] =
      tree.walk links (linkStart target place) (pieces Path.slash target) := by
  obtain ⟨hstep, hparent, hlength⟩ := isStep_of_isFileName (tree.named _ hentry name (by simp))
  rw [walk_name hstep hparent hlength, (node?_eq_some (by simp)).2 hentry]
  simp

end FileTree

/-- Joined pieces begin with what fewer of them make. -/
theorem joined_isPrefix (sep : Text) (names more : List Text) :
    joined sep names <+: joined sep (names ++ more) := by
  induction names with
  | nil => exact List.nil_prefix
  | cons name rest ih =>
    cases rest with
    | nil =>
      cases more with
      | nil => exact List.prefix_refl _
      | cons next more => exact (List.prefix_append _ _).trans (List.prefix_append _ _)
    | cons next rest => exact (List.prefix_append_right_inj _).2 ih

namespace Site

variable {site : Site} {path directory : Path} {name : Text} {landing : Landing}

/-- A directory's path is not too long, if the path of something in it is not. -/
theorem length_text_child
    (h : ¬ pathBytesLimit ≤ (Utf8.bytesOfName (directory.child name).text).length) :
    ¬ pathBytesLimit ≤ (Utf8.bytesOfName directory.text).length := by
  by_cases hhere : directory = Path.here
  · subst hhere
    decide
  · have hchild : directory.child name ≠ Path.here := by
      simp [Path.child, Path.below, Path.here]
    have hprefix : directory.text <+: (directory.child name).text := by
      rw [Path.text, Path.text, if_neg hhere, if_neg hchild]
      exact (List.prefix_append_right_inj _).2 (joined_isPrefix _ _ _)
    obtain ⟨rest, hrest⟩ := hprefix
    rw [← hrest, Utf8.bytesOfName, List.flatMap_append, List.length_append] at h
    rw [Utf8.bytesOfName]
    omega

/-- Where a path leads somewhere, it goes through a directory last. -/
theorem land_of_child (h : site.land (directory.child name) = .ok landing) :
    ∃ place, site.land directory = .ok (.directory place) ∧
      ∃ links, site.tree.walk links place [name] = .ok landing := by
  obtain ⟨hlength, hwalk⟩ := land_ok h
  obtain ⟨place, hplace⟩ := FileTree.exists_directory_of_walk hwalk
  obtain ⟨links, -, hrest⟩ := FileTree.walk_append hplace
  refine ⟨place, ?_, links, (hrest [name]).symm.trans hwalk⟩
  rw [land, if_neg (length_text_child hlength)]
  exact hplace

end Site

end HangulLint
