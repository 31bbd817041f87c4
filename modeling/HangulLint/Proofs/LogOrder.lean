import HangulLint.Proofs.ReportReading
import HangulLint.Proofs.Tally
import Mathlib

/-!
# The two orders of a report

A report that is not arranged lists the findings as they come. An arranged one lists the same
findings by key and by line, and where two of them share both, the one that came first comes first.
These words fix the order (`Report.Arranges.unique`), so that nothing is left for the order of the
keys in the register to decide: what is under each key decides alone. A key without findings has no
line in either report.

The keys are compared by code points, one after the other; a stray byte of a file name has a code
point between those of the characters (`Text.codes_lt_iff`).

* `Report.Arranges` — what it is for a log to be arranged;
* `Report.arranges_told`, `Report.Arranges.unique` — findings can be arranged in one way;
* `Report.render_orders` — what a report lists in either order.
-/

namespace HangulLint

/-! ### Code points -/

/-- The code points of a text. -/
def Text.codes (t : Text) : List Nat := t.map Glyph.code

/-- Texts are ordered by their code points, as lists of numbers are. -/
theorem Text.codes_lt_iff {a b : Text} : a.codes < b.codes ↔ Text.le a b = true ∧ a ≠ b := by
  -- both orders decide at the first place where the texts differ
  induction a generalizing b with
  | nil => cases b <;> simp [Text.codes, Text.le]
  | cons g a ih =>
    cases b with
    | nil => simp [Text.codes, Text.le]
    | cons g' b =>
      have hcons : Text.codes (g :: a) < Text.codes (g' :: b) ↔
          g.code < g'.code ∨ g = g' ∧ Text.codes a < Text.codes b := by
        rw [← Glyph.code_injective.eq_iff]
        exact List.cons_lt_cons_iff
      rw [hcons, ih, Text.le_cons_iff]
      constructor
      · rintro (hlt | ⟨rfl, hle, hne⟩)
        · refine ⟨.inl hlt, fun heq => ?_⟩
          rw [(List.cons.inj heq).1] at hlt
          exact Nat.lt_irrefl _ hlt
        · exact ⟨.inr ⟨rfl, hle⟩, fun heq => hne (List.cons.inj heq).2⟩
      · rintro ⟨hlt | ⟨rfl, hle⟩, hne⟩
        · exact .inl hlt
        · exact .inr ⟨rfl, hle, fun heq => hne (heq ▸ rfl)⟩

/-! ### Logs by key -/

namespace Findings

variable {findings : Findings} {key : Text}

/-- The entries of a key on a line are what is under the key on that line. -/
theorem filter_line_entries (hnodup : (findings.map (·.1)).Nodup) (key : Text) (number : Int) :
    findings.entries.filter (fun entry => entry.1 = key ∧ entry.2.line = number) =
      ((findings.under key).filter (·.line = number)).map (key, ·) := by
  have hboth : findings.entries.filter (fun entry => entry.1 = key ∧ entry.2.line = number) =
      (findings.entries.filter (·.1 = key)).filter (·.2.line = number) := by
    rw [List.filter_filter]
    simp [and_comm]
  rw [hboth, filter_key_entries hnodup, List.filter_map]
  rfl

/-- A key without findings has no entries. -/
theorem entries_filled (findings : Findings) :
    entries (findings.filter (!·.2.isEmpty)) = findings.entries := by
  induction findings with
  | nil => rfl
  | cons file rest ih =>
    obtain ⟨key, found⟩ := file
    cases found with
    | nil => exact ih
    | cons finding found =>
      show entries ((key, finding :: found) :: rest.filter (!·.2.isEmpty)) = _
      rw [entries_cons, ih, entries_cons]

theorem nodup_filled (hnodup : (findings.map (·.1)).Nodup) :
    ((findings.filter (!·.2.isEmpty)).map (·.1)).Nodup :=
  hnodup.sublist (List.filter_sublist.map _)

/-- Without the keys that have no findings, the same is under each key. -/
theorem under_filled (hnodup : (findings.map (·.1)).Nodup) (key : Text) :
    under (findings.filter (!·.2.isEmpty)) key = findings.under key := by
  rw [← filter_entries (nodup_filled hnodup), entries_filled, filter_entries hnodup]

theorem mem_keys_entries_iff (hnodup : (findings.map (·.1)).Nodup) :
    key ∈ findings.entries.map (·.1) ↔ findings.under key ≠ [] := by
  rw [← filter_entries hnodup, ne_eq, List.map_eq_nil_iff, List.filter_eq_nil_iff]
  simp

end Findings

namespace Report

/-! ### Arranged logs -/

/-- **A log, arranged.** -/
structure Arranges (log arranged : List (Text × Finding)) : Prop where
  /-- The entries are the same. -/
  perm : arranged.Perm log
  /-- Those of a key stand together. -/
  together : (Findings.grouped arranged).entries = arranged
  /-- The keys go up by their code points. -/
  ascending : (arranged.map (·.1)).eraseDups.Pairwise fun a b => a.codes < b.codes
  /-- Under each key the lines go up. -/
  byLine : arranged.Pairwise fun a b => a.1 = b.1 → a.2.line ≤ b.2.line
  /-- Entries with one key and one line stay in their order. -/
  stable : ∀ key number,
    arranged.filter (fun entry => entry.1 = key ∧ entry.2.line = number) =
      log.filter fun entry => entry.1 = key ∧ entry.2.line = number

/-- The lines of a log. -/
def written (log : List (Text × Finding)) : Text := log.flatMap fun entry => line entry.1 entry.2

variable {findings findings' : Findings} {log : List (Text × Finding)}

/-- The entries that are told come by key and by line. -/
theorem arranges_told (hnodup : (findings.map (·.1)).Nodup) :
    Arranges findings.entries (told findings).entries where
  perm := by
    rw [told, Findings.entries_filled]
    exact entries_arrange findings
  together := by rw [Findings.grouped_entries (orderly_told hnodup)]
  ascending := by
    rw [Findings.eraseDups_keys_entries (orderly_told hnodup)]
    exact (ascending_told hnodup).imp Text.codes_lt_iff.2
  byLine := by
    refine List.pairwise_flatMap.2 ⟨fun file hfile => ?_, ?_⟩
    · -- the findings of one file are in order
      obtain ⟨-, hfound⟩ := (mem_told hnodup).1 hfile
      have hsorted : file.2.Pairwise (·.line ≤ ·.line) := hfound ▸ pairwise_byLine _
      refine List.pairwise_map.2 (hsorted.imp ?_)
      intro a b hle _
      exact hle
    · -- those of two files have different keys
      refine (List.pairwise_map.1 (ascending_told hnodup)).imp ?_
      intro file file' hkeys a ha b hb
      obtain ⟨finding, -, rfl⟩ := List.mem_map.1 ha
      obtain ⟨finding', -, rfl⟩ := List.mem_map.1 hb
      exact fun hkey => absurd hkey hkeys.2
  stable := by
    intro key number
    rw [Findings.filter_line_entries (orderly_told hnodup).nodup,
      Findings.filter_line_entries hnodup, under_told hnodup, filter_byLine]

/-- An arranged log tells the findings. -/
theorem Arranges.tells (h : Arranges findings.entries log) (hnodup : (findings.map (·.1)).Nodup) :
    Tells findings (Findings.grouped log) where
  ascending := by
    rw [Findings.keys_grouped]
    exact h.ascending.imp Text.codes_lt_iff.1
  keys := by
    intro key
    rw [Findings.keys_grouped, List.mem_eraseDups, (h.perm.map (·.1)).mem_iff,
      Findings.mem_keys_entries_iff hnodup]
  byLine := by
    intro key
    rw [Findings.under_grouped]
    -- all entries that are left have the key
    have hkey : ∀ entry ∈ log.filter (·.1 = key), entry.1 = key := fun entry hentry => by
      simpa using (List.mem_filter.1 hentry).2
    refine List.pairwise_map.2 ((h.byLine.filter (·.1 = key)).imp_of_mem ?_)
    intro a b ha hb hline
    exact hline ((hkey a ha).trans (hkey b hb).symm)
  onLine := by
    intro key number
    have hline : ((log.filter (·.1 = key)).map (·.2)).filter (·.line = number) =
        (log.filter fun entry => entry.1 = key ∧ entry.2.line = number).map (·.2) := by
      rw [List.filter_map, List.filter_filter]
      simp [and_comm]
    rw [Findings.under_grouped, hline, h.stable, Findings.filter_line_entries hnodup, List.map_map]
    exact List.map_id _

/-- **There is one way to arrange findings.** -/
theorem Arranges.unique (h : Arranges findings.entries log)
    (hnodup : (findings.map (·.1)).Nodup) : log = (told findings).entries := by
  rw [← h.together, (h.tells hnodup).unique (tells_told hnodup)]

/-- The report on findings that are told is the report on all. -/
theorem written_told (findings : Findings) :
    written (told findings).entries = render true findings := by
  rw [← text_told]
  exact (render_eq_listed false (told findings)).symm

/-- The same findings under each key make the same report. -/
theorem render_congr (hnodup : (findings.map (·.1)).Nodup) (hnodup' : (findings'.map (·.1)).Nodup)
    (h : ∀ key, findings'.under key = findings.under key) :
    render true findings' = render true findings := by
  have htells : Tells findings (told findings') := by
    have htold := tells_told hnodup'
    exact ⟨htold.ascending, fun key => by rw [htold.keys, h], htold.byLine,
      fun key number => by rw [htold.onLine, h]⟩
  rw [← text_told, htells.unique (tells_told hnodup), text_told]

/-- Keys without findings make no difference to a report. -/
theorem render_filled (hnodup : (findings.map (·.1)).Nodup) (arranged : Bool) :
    render arranged (findings.filter (!·.2.isEmpty)) = render arranged findings := by
  cases arranged with
  | false =>
    have hfilled : listed false (findings.filter (!·.2.isEmpty)) = listed false findings :=
      Findings.entries_filled findings
    rw [render_eq_listed, render_eq_listed, hfilled]
  | true =>
    exact render_congr hnodup (Findings.nodup_filled hnodup) (Findings.under_filled hnodup)

/-- **What a report lists.** Without an order of its own, a report lists the findings as they come.
In order, it lists them arranged, and they can be arranged in one way only. Keys without findings
change neither, and where the same is under each key, the report in order is the same, whatever the
order of the keys. -/
theorem render_orders (hnodup : (findings.map (·.1)).Nodup) :
    render false findings = written findings.entries ∧
    (∃ log, Arranges findings.entries log ∧
      (∀ other, Arranges findings.entries other → other = log) ∧
      render true findings = written log) ∧
    (∀ arranged, render arranged (findings.filter (!·.2.isEmpty)) = render arranged findings) ∧
    ∀ findings', (findings'.map (·.1)).Nodup →
      (∀ key, findings'.under key = findings.under key) →
      render true findings' = render true findings := by
  exact ⟨render_eq_listed false findings, ⟨(told findings).entries, arranges_told hnodup,
    fun other hother => hother.unique hnodup, (written_told findings).symm⟩,
    render_filled hnodup, fun findings' hnodup' hunder => render_congr hnodup hnodup' hunder⟩

/-- Findings with repeated lines, a key without any, and keys that other orders than that of code
points would bring otherwise. -/
def scrambled : Findings :=
  [("b", [⟨3, "x"⟩, ⟨-1, "y"⟩, ⟨3, "w"⟩]), ("c", []), ("😀", [⟨10, "z"⟩]),
    ([.stray 0x80], [⟨9, "s"⟩, ⟨10, "t"⟩])]

/-- The same, registered in another order and without the key that has none. -/
def scrambled' : Findings :=
  [([.stray 0x80], [⟨9, "s"⟩, ⟨10, "t"⟩]), ("😀", [⟨10, "z"⟩]),
    ("b", [⟨3, "x"⟩, ⟨-1, "y"⟩, ⟨3, "w"⟩])]

theorem under_scrambled' (key : Text) : scrambled'.under key = scrambled.under key := by
  simp only [scrambled, scrambled', Findings.under_cons, Findings.under_nil]
  by_cases hb : ("b" : Text) = key
  · subst hb
    decide
  by_cases hc : ("c" : Text) = key
  · subst hc
    decide
  by_cases hstray : ([.stray 0x80] : Text) = key
  · subst hstray
    decide
  simp [hb, hc, hstray]

/-- Both registers make one report, which lists the six findings by key and line. -/
theorem render_orders_scrambled :
    (scrambled.map (·.1)).Nodup ∧ (scrambled'.map (·.1)).Nodup ∧
      (∀ key, scrambled'.under key = scrambled.under key) ∧
      render true scrambled' = render true scrambled ∧
      ∃ log, Arranges scrambled.entries log ∧ render true scrambled = written log ∧
        log.map (·.2.text) = (["y", "x", "w", "s", "t", "z"] : List Text) := by
  have hnodup : (scrambled.map (·.1)).Nodup := by decide
  have hnodup' : (scrambled'.map (·.1)).Nodup := by decide
  obtain ⟨-, ⟨log, hlog, hunique, hrender⟩, -, hcongr⟩ := render_orders hnodup
  have htold : (told scrambled).entries.map (·.2.text) =
      (["y", "x", "w", "s", "t", "z"] : List Text) := by cbv
  rw [hunique _ (arranges_told hnodup)] at htold
  exact ⟨hnodup, hnodup', under_scrambled', hcongr _ hnodup' under_scrambled', log, hlog, hrender,
    htold⟩

end Report

end HangulLint
