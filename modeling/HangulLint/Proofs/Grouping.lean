import HangulLint.Proofs.Ledger
import Mathlib.Data.List.Count
import Mathlib.Data.List.Induction

/-!
# Findings as a log

Findings that are recorded one after the other make a log, whose entries say what was found under
which key. Findings by key are a log grouped: the keys in the order in which they first occur, and
under each key its findings in theirs. To record one more finding is to write one more entry behind
the log (`Findings.grouped_concat`), and the log that goes through the keys in turn groups to the
findings that it was taken from (`Findings.grouped_entries`).

* `Findings.entries`, `Findings.grouped` — from findings by key to a log, and back;
* `Findings.eq_of_under` — findings are told by their keys and by what is under each;
* `Findings.subperm_entries` — inclusion of logs is told key by key.
-/

namespace HangulLint

section First

variable {α : Type} [BEq α] [LawfulBEq α] {s : List α} {a : α}

theorem eraseDups_concat_of_mem (h : a ∈ s) : (s ++ [a]).eraseDups = s.eraseDups := by
  simp [List.eraseDups_append, List.removeAll, h]

theorem eraseDups_concat_of_notMem (h : a ∉ s) : (s ++ [a]).eraseDups = s.eraseDups ++ [a] := by
  simp [List.eraseDups_append, List.removeAll, h, List.eraseDups_cons]

theorem nodup_eraseDups (s : List α) : s.eraseDups.Nodup := by
  induction s using List.reverseRecOn with
  | nil => simp
  | append_singleton s a ih =>
    by_cases h : a ∈ s
    · rw [eraseDups_concat_of_mem h]
      exact ih
    · rw [eraseDups_concat_of_notMem h]
      refine List.nodup_append.2 ⟨ih, by simp, fun b hb c hc hbc => h ?_⟩
      rw [List.mem_singleton.1 hc] at hbc
      exact List.mem_eraseDups.1 (hbc ▸ hb)

end First

namespace Findings

/-- Findings by key as a log, one key after the other. -/
def entries (findings : Findings) : List (Text × Finding) :=
  findings.flatMap fun (key, found) => found.map (key, ·)

/-- A log by key: the keys in the order in which they first occur, and under each key its findings
in the order of the log. -/
def grouped (log : List (Text × Finding)) : Findings :=
  (log.map (·.1)).eraseDups.map fun key => (key, (log.filter (·.1 = key)).map (·.2))

variable {findings findings' : Findings} {log : List (Text × Finding)} {key : Text}
  {finding : Finding}

/-! ### Findings key by key -/

theorem eq_map_under (hnodup : (findings.map (·.1)).Nodup) :
    findings = (findings.map (·.1)).map fun key => (key, findings.under key) := by
  have hunder : ∀ entry ∈ findings, (entry.1, findings.under entry.1) = entry := by
    intro entry hentry
    rw [under_eq_of_mem hnodup hentry]
  rw [List.map_map]
  exact (List.map_id findings).symm.trans (List.map_congr_left fun e he => (hunder e he).symm)

/-- Where something is under a key, that is what the key comes with. -/
theorem mem_of_under_ne_nil (hnodup : (findings.map (·.1)).Nodup) (hne : findings.under key ≠ []) :
    (key, findings.under key) ∈ findings := by
  have hkey : key ∈ findings.map (·.1) := by
    by_contra hkey
    exact hne (under_eq_nil_of_notMem hkey)
  obtain ⟨⟨k, found⟩, hmem, rfl⟩ := List.mem_map.1 hkey
  rw [under_eq_of_mem hnodup hmem]
  exact hmem

/-- Findings are told by their keys and by what is under each. -/
theorem eq_of_under (hnodup : (findings.map (·.1)).Nodup)
    (hkeys : findings.map (·.1) = findings'.map (·.1))
    (h : ∀ key, findings.under key = findings'.under key) : findings = findings' := by
  have hnodup' : (findings'.map (·.1)).Nodup := hkeys ▸ hnodup
  calc findings = (findings.map (·.1)).map fun key => (key, findings.under key) :=
        eq_map_under hnodup
    _ = (findings'.map (·.1)).map fun key => (key, findings'.under key) := by simp only [hkeys, h]
    _ = findings' := (eq_map_under hnodup').symm

/-! ### From a log to findings by key -/

@[simp] theorem keys_grouped (log : List (Text × Finding)) :
    (grouped log).map (·.1) = (log.map (·.1)).eraseDups := by
  rw [grouped, List.map_map]
  exact List.map_id _

theorem nodup_grouped (log : List (Text × Finding)) : ((grouped log).map (·.1)).Nodup := by
  rw [keys_grouped]
  exact nodup_eraseDups _

theorem under_grouped (log : List (Text × Finding)) (key : Text) :
    (grouped log).under key = (log.filter (·.1 = key)).map (·.2) := by
  by_cases hkey : key ∈ log.map (·.1)
  · refine under_eq_of_mem (nodup_grouped log) ?_
    exact List.mem_map.2 ⟨key, List.mem_eraseDups.2 hkey, rfl⟩
  · -- no entry of the log has the key
    have hnone : log.filter (·.1 = key) = [] := by
      refine List.filter_eq_nil_iff.2 fun entry hentry hsame => hkey ?_
      exact List.mem_map.2 ⟨entry, hentry, of_decide_eq_true hsame⟩
    have hmissing : key ∉ (grouped log).map (·.1) := by
      rw [keys_grouped]
      exact fun h => hkey (List.mem_eraseDups.1 h)
    rw [under_eq_nil_of_notMem hmissing, hnone, List.map_nil]

/-- **One more entry is one more record.** -/
theorem grouped_concat (log : List (Text × Finding)) (key : Text) (finding : Finding) :
    grouped (log ++ [(key, finding)]) = (grouped log).record key finding := by
  refine eq_of_under (nodup_grouped _) ?_ fun other => ?_
  · -- a new key comes last, in the log and among the records
    rw [keys_record, keys_grouped, keys_grouped, List.map_append]
    split
    · next hkey => exact eraseDups_concat_of_mem (List.mem_eraseDups.1 hkey)
    · next hkey => exact eraseDups_concat_of_notMem fun h => hkey (List.mem_eraseDups.2 h)
  · rw [under_record, under_grouped, under_grouped, List.filter_append, List.map_append]
    by_cases h : key = other <;> simp [h]

theorem orderly_grouped (log : List (Text × Finding)) : (grouped log).Orderly := by
  induction log using List.reverseRecOn with
  | nil => exact .nil
  | append_singleton log entry ih =>
    rw [grouped_concat]
    exact ih.record entry.1 entry.2

theorem count_record (key : Text) (finding : Finding) (findings : Findings) :
    (findings.record key finding).count = findings.count + 1 := by
  induction findings with
  | nil => simp [record, count]
  | cons entry rest ih =>
    obtain ⟨k, found⟩ := entry
    rw [record]
    split
    · simp only [count, List.length_append, List.length_singleton]
      omega
    · simp only [count, ih]
      omega

theorem count_grouped (log : List (Text × Finding)) : (grouped log).count = log.length := by
  induction log using List.reverseRecOn with
  | nil => rfl
  | append_singleton log entry ih =>
    rw [grouped_concat, count_record, ih, List.length_append, List.length_singleton]

/-! ### From findings by key to a log -/

theorem entries_cons (k : Text) (found : List Finding) (rest : Findings) :
    entries ((k, found) :: rest) = found.map (k, ·) ++ entries rest := rfl

theorem mem_keys_of_mem_entries {entry : Text × Finding} (h : entry ∈ findings.entries) :
    entry.1 ∈ findings.map (·.1) := by
  obtain ⟨⟨k, found⟩, hmem, hentry⟩ := List.mem_flatMap.1 h
  obtain ⟨finding, -, rfl⟩ := List.mem_map.1 hentry
  exact List.mem_map.2 ⟨_, hmem, rfl⟩

/-- The entries of a key are what is under it. -/
theorem filter_entries (hnodup : (findings.map (·.1)).Nodup) (key : Text) :
    (findings.entries.filter (·.1 = key)).map (·.2) = findings.under key := by
  induction findings with
  | nil => rfl
  | cons entry rest ih =>
    obtain ⟨k, found⟩ := entry
    rw [List.map_cons, List.nodup_cons] at hnodup
    rw [entries_cons, List.filter_append, List.map_append, ih hnodup.2, under_cons]
    by_cases hk : k = key
    · -- the key comes here, and not again
      subst hk
      have hrest : under rest k = [] := under_eq_nil_of_notMem hnodup.1
      simp [List.filter_map, Function.comp_def, hrest]
    · simp [List.filter_map, Function.comp_def, hk]

theorem eraseDups_keys_entries (h : findings.Orderly) :
    (findings.entries.map (·.1)).eraseDups = findings.map (·.1) := by
  obtain ⟨hnodup, hfound⟩ := h
  induction findings with
  | nil => rfl
  | cons entry rest ih =>
    obtain ⟨k, found⟩ := entry
    rw [List.map_cons, List.nodup_cons] at hnodup
    have ihrest := ih hnodup.2 fun e he => hfound e (List.mem_cons_of_mem _ he)
    cases found with
    | nil => exact absurd rfl (hfound _ List.mem_cons_self)
    | cons first found =>
      -- behind its first entry, the key is passed over, and no other entry has it
      have hsame : (found.map fun _ => k).filter (fun other => !other == k) = [] := by simp
      have hother : ((entries rest).map (·.1)).filter (fun other => !other == k) =
          (entries rest).map (·.1) := by
        refine List.filter_eq_self.2 fun other hother => ?_
        obtain ⟨e, he, rfl⟩ := List.mem_map.1 hother
        have hne : e.1 ≠ k := fun heq => hnodup.1 (heq ▸ mem_keys_of_mem_entries he)
        simpa using hne
      rw [entries_cons, List.map_append, List.map_map, List.map_cons, List.cons_append,
        List.eraseDups_cons, List.filter_append]
      simp only [Function.comp_def, hsame, hother, List.nil_append, ihrest, List.map_cons]

/-- A log that goes through the keys in turn groups to the findings it was taken from. -/
theorem grouped_entries (h : findings.Orderly) : grouped findings.entries = findings := by
  refine eq_of_under (nodup_grouped _) ?_ fun key => ?_
  · rw [keys_grouped, eraseDups_keys_entries h]
  · rw [under_grouped, filter_entries h.nodup]

/-- The entries of a key are what is under it, with the key. -/
theorem filter_key_entries (hnodup : (findings.map (·.1)).Nodup) (key : Text) :
    findings.entries.filter (·.1 = key) = (findings.under key).map (key, ·) := by
  rw [← filter_entries hnodup, List.map_map]
  refine (List.map_id _).symm.trans (List.map_congr_left fun entry hentry => ?_)
  have hkey : entry.1 = key := by simpa using (List.mem_filter.1 hentry).2
  rw [← hkey]
  rfl

/-- How often an entry occurs is told under its key. -/
theorem count_entry (hnodup : (findings.map (·.1)).Nodup) (key : Text) (finding : Finding) :
    findings.entries.count (key, finding) = (findings.under key).count finding := by
  have hinjective : Function.Injective fun finding : Finding => (key, finding) :=
    fun _ _ heq => (Prod.mk.inj heq).2
  calc findings.entries.count (key, finding)
      = (findings.entries.filter (·.1 = key)).count (key, finding) :=
        (List.count_filter (by simp)).symm
    _ = ((findings.under key).map (key, ·)).count (key, finding) := by
        rw [filter_key_entries hnodup]
    _ = (findings.under key).count finding :=
        List.count_map_of_injective _ _ hinjective finding

/-- Inclusion of logs is told key by key. -/
theorem subperm_entries (hnodup : (findings.map (·.1)).Nodup)
    (hnodup' : (findings'.map (·.1)).Nodup)
    (h : ∀ key, (findings.under key).Subperm (findings'.under key)) :
    findings.entries.Subperm findings'.entries := by
  refine List.subperm_ext_iff.2 fun entry _ => ?_
  obtain ⟨key, finding⟩ := entry
  rw [count_entry hnodup, count_entry hnodup']
  exact (h key).count_le finding

/-- Logs with the same entries are told key by key. -/
theorem perm_entries (hnodup : (findings.map (·.1)).Nodup) (hnodup' : (findings'.map (·.1)).Nodup)
    (h : ∀ key, (findings.under key).Perm (findings'.under key)) :
    findings.entries.Perm findings'.entries :=
  (subperm_entries hnodup hnodup' fun key => (h key).subperm).antisymm
    (subperm_entries hnodup' hnodup fun key => (h key).symm.subperm)

end Findings

end HangulLint
