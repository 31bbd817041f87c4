import HangulLint.Register
import HangulLint.Sweep.Course
import Mathlib.Data.List.Nodup

/-!
# Findings and failures by key

What is kept under a key is read back by one function of the key: `Findings.under` for findings,
`List.lookup` for the messages of failed files. A new entry changes that function at its own key
and nowhere else, so every fact about a run can be told key by key.

* `Findings.under_record`, `Failures.lookup_put` — what one entry changes;
* `Findings.Orderly` — no key comes twice, and none comes without findings. Every record keeps
  this (`Findings.Orderly.record`), and findings with it are those of `under`
  (`Findings.Orderly.mem_iff`).
-/

namespace HangulLint

namespace Findings

@[simp] theorem under_nil (key : Text) : under [] key = [] := rfl

theorem under_cons (k key : Text) (found : List Finding) (rest : Findings) :
    under ((k, found) :: rest) key = if k = key then found else under rest key := by
  unfold under
  by_cases h : k = key
  · subst h
    simp
  · have hne : (key == k) = false := by simpa using Ne.symm h
    rw [List.lookup_cons, hne, if_neg h]

/-- A record changes what is under its own key, at the end, and nothing else. -/
theorem under_record (key : Text) (finding : Finding) (findings : Findings) (other : Text) :
    under (findings.record key finding) other =
      if key = other then under findings other ++ [finding] else under findings other := by
  induction findings with
  | nil => by_cases h : key = other <;> simp [record, under_cons, h]
  | cons entry rest ih =>
    obtain ⟨k, found⟩ := entry
    by_cases hk : k = key
    · subst hk
      by_cases h : k = other <;> simp [record, under_cons, h]
    · -- the first entry stays, and the record goes on to the rest
      rw [record, if_neg hk, under_cons, under_cons, ih]
      by_cases h : k = other
      · subst h
        simp [Ne.symm hk]
      · simp [h]

/-- The keys that a record leaves: a new key comes last. -/
theorem keys_record (key : Text) (finding : Finding) (findings : Findings) :
    (findings.record key finding).map (·.1) =
      if key ∈ findings.map (·.1) then findings.map (·.1) else findings.map (·.1) ++ [key] := by
  induction findings with
  | nil => simp [record]
  | cons entry rest ih =>
    obtain ⟨k, found⟩ := entry
    by_cases hk : k = key
    · simp [record, hk]
    · have hne : key ≠ k := Ne.symm hk
      simp only [record, hk, if_false, List.map_cons, ih, List.mem_cons, hne, false_or]
      split <;> simp

theorem under_eq_of_mem {findings : Findings} (hnd : (findings.map (·.1)).Nodup) {key : Text}
    {found : List Finding} (h : (key, found) ∈ findings) : findings.under key = found := by
  induction findings with
  | nil => simp at h
  | cons entry rest ih =>
    obtain ⟨k, f⟩ := entry
    rw [List.map_cons, List.nodup_cons] at hnd
    rw [under_cons]
    rcases List.mem_cons.1 h with heq | hrest
    · obtain ⟨rfl, rfl⟩ := Prod.mk.inj heq
      simp
    · have hkey : k ≠ key := by
        rintro rfl
        exact hnd.1 (List.mem_map.2 ⟨_, hrest, rfl⟩)
      rw [if_neg hkey]
      exact ih hnd.2 hrest

theorem under_eq_nil_of_notMem {findings : Findings} {key : Text}
    (h : key ∉ findings.map (·.1)) : findings.under key = [] := by
  induction findings with
  | nil => rfl
  | cons entry rest ih =>
    obtain ⟨k, found⟩ := entry
    rw [List.map_cons, List.mem_cons, not_or] at h
    rw [under_cons, if_neg (Ne.symm h.1), ih h.2]

/-- **Order among the entries.** No key comes twice, and none comes without findings. -/
structure Orderly (findings : Findings) : Prop where
  /-- No key comes twice. -/
  nodup : (findings.map (·.1)).Nodup
  /-- A key comes with its first finding. -/
  found : ∀ entry ∈ findings, entry.2 ≠ []

namespace Orderly

theorem nil : Orderly [] := ⟨List.nodup_nil, by simp⟩

theorem record {findings : Findings} (h : findings.Orderly) (key : Text) (finding : Finding) :
    (findings.record key finding).Orderly where
  nodup := by
    rw [keys_record]
    split
    · exact h.nodup
    · next hkey =>
      -- a new key comes last, and it was not there
      refine List.nodup_append.2 ⟨h.nodup, by simp, fun a ha b hb hab => hkey ?_⟩
      rw [← List.mem_singleton.1 hb, ← hab]
      exact ha
  found := by
    have hfound := h.found
    clear h
    -- an entry that is extended keeps what it has, and a new one has the finding
    induction findings with
    | nil => simp [Findings.record]
    | cons entry rest ih =>
      obtain ⟨k, found⟩ := entry
      have hrest := ih fun e he => hfound e (List.mem_cons_of_mem _ he)
      unfold Findings.record
      split
      · intro e he
        rcases List.mem_cons.1 he with rfl | he
        · simp
        · exact hfound e (List.mem_cons_of_mem _ he)
      · intro e he
        rcases List.mem_cons.1 he with rfl | he
        · exact hfound _ List.mem_cons_self
        · exact hrest e he

theorem mem_iff {findings : Findings} (h : findings.Orderly) {key : Text} {found : List Finding} :
    (key, found) ∈ findings ↔ findings.under key = found ∧ found ≠ [] := by
  constructor
  · intro hmem
    exact ⟨under_eq_of_mem h.nodup hmem, h.found _ hmem⟩
  · rintro ⟨rfl, hne⟩
    by_cases hkey : key ∈ findings.map (·.1)
    · obtain ⟨⟨k, found⟩, hmem, rfl⟩ := List.mem_map.1 hkey
      rwa [under_eq_of_mem h.nodup hmem]
    · exact absurd (under_eq_nil_of_notMem hkey) hne

theorem key_mem_iff {findings : Findings} (h : findings.Orderly) {key : Text} :
    key ∈ findings.map (·.1) ↔ findings.under key ≠ [] := by
  constructor
  · intro hkey
    obtain ⟨⟨k, found⟩, hmem, rfl⟩ := List.mem_map.1 hkey
    rw [under_eq_of_mem h.nodup hmem]
    exact h.found _ hmem
  · intro hne
    by_contra hkey
    exact hne (under_eq_nil_of_notMem hkey)

end Orderly

end Findings

/-! ### Several findings under one key -/

section All

variable {register : Register}

/-- A register that is not sealed takes all findings. -/
theorem recordAll_of_open (h : register.sealed = false) (key : Text) (found : List Finding) :
    recordAll register key found =
      .ok { register with findings := found.foldl (·.record key ·) register.findings } := by
  induction found generalizing register with
  | nil => rfl
  | cons finding rest ih =>
    have hrecord : register.record key finding =
        .ok { register with findings := register.findings.record key finding } := by
      rw [Register.record, if_neg (by simp [h])]
    rw [recordAll, hrecord]
    exact ih h

/-- A sealed register refuses the first finding, if there is one. -/
theorem recordAll_of_sealed (h : register.sealed = true) (key : Text) (found : List Finding) :
    recordAll register key found = if found = [] then .ok register else .error .sealed := by
  cases found with
  | nil => rfl
  | cons finding rest =>
    rw [recordAll, Register.record, if_pos h]
    rfl

end All

/-! ### Failures -/

/-- A message is put under its own key, and nothing else changes. -/
theorem Failures.lookup_put (key message : Text) (failures : Failures) (other : Text) :
    (failures.put key message).lookup other =
      if key = other then some message else failures.lookup other := by
  -- the first entry of the key is replaced, and where there is none, one comes at the end
  induction failures with
  | nil =>
    by_cases h : key = other
    · simp [put, h]
    · have hne : (other == key) = false := by simpa using Ne.symm h
      simp [put, h, List.lookup_cons, hne]
  | cons entry rest ih =>
    obtain ⟨k, m⟩ := entry
    by_cases hk : k = key
    · subst hk
      by_cases h : k = other
      · simp [put, h]
      · have hne : (other == k) = false := by simpa using Ne.symm h
        simp [put, h, List.lookup_cons, hne]
    · rw [put, if_neg hk, List.lookup_cons, List.lookup_cons, ih]
      by_cases h : k = other
      · subst h
        simp [Ne.symm hk]
      · have hne : (other == k) = false := by simpa using Ne.symm h
        simp [hne]

end HangulLint
