import HangulLint.Encoding.Utf8
import HangulLint.Path

/-!
# File trees

A file tree is a value: the files, directories and links below the root directory, each at its
location, in a fixed order. Links hold the text of their target and nothing lies below them. What
holds of every tree is part of the type: no location occurs twice, whatever lies in a directory
has that directory in the tree, and every name is one that a file can have.

* `FileTree.node?` — what is at a location;
* `FileTree.below` — what lies below one;
* `FileTree.empty`, `FileTree.insert`, `FileTree.setBytes`, `FileTree.remove` — the edits.
-/

namespace HangulLint

/-- The names that lead from the root directory to a place. -/
abbrev Location := List Text

/-- What can be at a location. -/
inductive Node where
  | file (bytes : List UInt8)
  | directory
  | link (target : Text)
deriving DecidableEq

/-- The most bytes that a name may have. -/
def maxNameBytes : Nat := 255

/-- Whether a file can have a name. -/
def isFileName (name : Text) : Bool :=
  !name.isEmpty && name != Path.selfName && name != Path.parentName
    && !name.contains Path.slash && !name.contains (.scalar '\x00')
    && (Utf8.bytesOfName name).length ≤ maxNameBytes

/-- Files, directories and links at their locations. -/
structure FileTree where
  entries : List (Location × Node)
  /-- No location occurs twice. -/
  nodup : (entries.map (·.1)).Nodup
  /-- Whatever is in the tree lies in a directory, the root directory or one of the tree. -/
  housed : ∀ e ∈ entries, e.1 ≠ [] ∧
    (e.1.dropLast = [] ∨ (e.1.dropLast, Node.directory) ∈ entries)
  /-- Every name is one that a file can have. -/
  named : ∀ e ∈ entries, ∀ name ∈ e.1, isFileName name = true

namespace FileTree

/-- The tree that holds nothing. -/
def empty : FileTree := ⟨[], by simp, by simp, by simp⟩

/-- What is at a location; the root directory always is. -/
def node? (tree : FileTree) (location : Location) : Option Node :=
  if location = [] then some .directory else tree.entries.lookup location

/-- What lies below a location, in the order of the tree: the names that lead there from the
location, and the node. -/
def below (tree : FileTree) (location : Location) : List (List Text × Node) :=
  tree.entries.filterMap fun entry =>
    if location.isPrefixOf entry.1 && entry.1.length > location.length then
      some (entry.1.drop location.length, entry.2)
    else none

/-- Whether something new can be put at a location: nothing is there, its name is one that a file
can have, and it would lie in a directory. -/
def Admits (tree : FileTree) (location : Location) : Prop :=
  location ≠ [] ∧ tree.node? location = none ∧ tree.node? location.dropLast = some .directory
    ∧ (∀ name ∈ location, isFileName name = true)

instance (tree : FileTree) (location : Location) : Decidable (tree.Admits location) :=
  inferInstanceAs (Decidable (_ ∧ _ ∧ _ ∧ _))

theorem mem_of_lookup {entries : List (Location × Node)} {location : Location} {node : Node}
    (h : entries.lookup location = some node) : (location, node) ∈ entries := by
  induction entries with
  | nil => simp at h
  | cons e entries ih =>
    obtain ⟨l, n⟩ := e
    by_cases hl : location = l
    · subst hl
      simp_all
    · have : (location == l) = false := by simpa using hl
      rw [List.lookup_cons, this] at h
      exact List.mem_cons_of_mem _ (ih h)

theorem lookup_eq_none {entries : List (Location × Node)} {location : Location} :
    entries.lookup location = none ↔ location ∉ entries.map (·.1) := by
  induction entries with
  | nil => simp
  | cons e entries ih =>
    obtain ⟨l, n⟩ := e
    by_cases hl : location = l
    · simp [hl]
    · have : (location == l) = false := by simpa using hl
      rw [List.lookup_cons, this, ih]
      simp [hl]

theorem mem_of_node? {tree : FileTree} {location : Location} {node : Node}
    (hne : location ≠ []) (h : tree.node? location = some node) :
    (location, node) ∈ tree.entries := by
  rw [node?, if_neg hne] at h
  exact mem_of_lookup h

/-- The tree with one more entry, as its last. -/
def insert (tree : FileTree) (location : Location) (node : Node) (h : tree.Admits location) :
    FileTree where
  entries := tree.entries ++ [(location, node)]
  nodup := by
    obtain ⟨hne, hnone, -, -⟩ := h
    rw [node?, if_neg hne, lookup_eq_none] at hnone
    rw [List.map_append, List.nodup_append]
    refine ⟨tree.nodup, by simp, ?_⟩
    intro a ha b hb
    simp only [List.map_cons, List.map_nil, List.mem_singleton] at hb
    subst hb
    exact fun hab => hnone (hab ▸ ha)
  housed := by
    obtain ⟨hne, -, hdir, -⟩ := h
    intro e he
    rw [List.mem_append, List.mem_singleton] at he
    rcases he with he | rfl
    · obtain ⟨h₁, h₂⟩ := tree.housed e he
      exact ⟨h₁, h₂.imp_right (List.mem_append_left _)⟩
    · refine ⟨hne, ?_⟩
      by_cases hroot : location.dropLast = []
      · exact .inl hroot
      · exact .inr (List.mem_append_left _ (mem_of_node? hroot hdir))
  named := by
    intro e he
    rw [List.mem_append, List.mem_singleton] at he
    rcases he with he | rfl
    · exact tree.named e he
    · exact h.2.2.2

/-- A node with other bytes, if it is a file. -/
def Node.setBytes (bytes : List UInt8) : Node → Node
  | .file _ => .file bytes
  | node => node

/-- The tree in which a file has other bytes. -/
def setBytes (tree : FileTree) (location : Location) (bytes : List UInt8) : FileTree where
  entries := tree.entries.map fun e =>
    (e.1, if e.1 = location then Node.setBytes bytes e.2 else e.2)
  nodup := by
    rw [List.map_map]
    exact tree.nodup
  housed := by
    intro e he
    obtain ⟨e', he', rfl⟩ := List.mem_map.1 he
    obtain ⟨h₁, h₂⟩ := tree.housed e' he'
    refine ⟨h₁, h₂.imp_right fun hd => List.mem_map.2 ⟨_, hd, ?_⟩⟩
    simp only [Prod.mk.injEq, true_and]
    split <;> rfl
  named := by
    intro e he
    obtain ⟨e', he', rfl⟩ := List.mem_map.1 he
    exact tree.named e' he'

/-- The tree without a location and all that lies below it. -/
def remove (tree : FileTree) (location : Location) : FileTree where
  entries := tree.entries.filter fun e => !location.isPrefixOf e.1
  nodup := (tree.nodup.sublist (List.filter_sublist.map _))
  housed := by
    intro e he
    rw [List.mem_filter] at he
    obtain ⟨h₁, h₂⟩ := tree.housed e he.1
    refine ⟨h₁, h₂.imp_right fun hd => List.mem_filter.2 ⟨hd, ?_⟩⟩
    have hn := he.2
    rw [Bool.not_eq_true', Bool.eq_false_iff, ne_eq, List.isPrefixOf_iff_prefix] at hn ⊢
    exact fun hp => hn (hp.trans (List.dropLast_prefix _))
  named := fun e he => tree.named e (List.mem_filter.1 he).1

end FileTree

end HangulLint
