import HangulLint.Proofs.Ledger
import HangulLint.Report
import Mathlib.Data.List.Basic

/-!
# The order of a report

A report lists the keys by code points and, under each key, the findings by line; findings on one
line stay as they came. The order of the keys is total, so the keys come in one way only, whatever
order they were registered in; and what stands under a key depends on the order of registration
only among findings on one line.

* `Text.le_total`, `Text.le_trans`, `Text.le_antisymm` — keys are ordered totally;
* `Report.arrange_eq` — an arrangement told key by key;
* `Report.filter_byLine` — sorting by line does not touch the order on one line;
* `Report.render_eq_iff` — two registers with the same findings give the same report exactly if
  they agree, under each key, in the order by line.
-/

namespace HangulLint

/-! ### The order of texts -/

/-- No two glyphs share a code point: characters leave the range of the stray bytes free. -/
theorem Glyph.code_injective : Function.Injective Glyph.code := by
  have hdisjoint : ∀ (c : Char) (b : UInt8), c.toNat ≠ 0xDC00 + b.toNat := by
    intro c b hcode
    have hb : b.toNat < 256 := UInt8.toNat_lt b
    rcases c.valid with hlow | ⟨hhigh, -⟩
    · have hlow : c.toNat < 0xD800 := hlow
      omega
    · have hhigh : 0xDFFF < c.toNat := hhigh
      omega
  intro g g' h
  -- two of a kind are the same, and two of different kinds have different code points
  cases g with
  | scalar c =>
    cases g' with
    | scalar c' => rw [Char.ext (UInt32.toNat_inj.1 h)]
    | stray b' => exact absurd h (hdisjoint c b')
  | stray b =>
    cases g' with
    | scalar c' => exact absurd h.symm (hdisjoint c' b)
    | stray b' =>
      have hb : b.toNat = b'.toNat := Nat.add_left_cancel h
      rw [UInt8.toNat_inj.1 hb]

namespace Text

theorem le_cons_iff {a b : Glyph} {as bs : Text} :
    le (a :: as) (b :: bs) = true ↔ a.code < b.code ∨ (a = b ∧ le as bs = true) := by
  simp [le, Glyph.code_injective.eq_iff]

theorem le_total (a b : Text) : (le a b || le b a) = true := by
  induction a generalizing b with
  | nil => simp [le]
  | cons g a ih =>
    cases b with
    | nil => simp [le]
    | cons g' b =>
      -- where the first glyphs are the same, the rest decides
      rw [Bool.or_eq_true, le_cons_iff, le_cons_iff]
      rcases Nat.lt_trichotomy g.code g'.code with hlt | heq | hgt
      · exact .inl (.inl hlt)
      · have hg := Glyph.code_injective heq
        have hrest := ih b
        rw [Bool.or_eq_true] at hrest
        exact hrest.imp (fun h => .inr ⟨hg, h⟩) fun h => .inr ⟨hg.symm, h⟩
      · exact .inr (.inl hgt)

theorem le_trans (a b c : Text) (hab : le a b = true) (hbc : le b c = true) : le a c = true := by
  induction a generalizing b c with
  | nil => simp [le]
  | cons g a ih =>
    cases b with
    | nil => simp [le] at hab
    | cons g' b =>
      cases c with
      | nil => simp [le] at hbc
      | cons g'' c =>
        rw [le_cons_iff] at hab hbc ⊢
        rcases hab with hab | ⟨rfl, hab⟩
        · rcases hbc with hbc | ⟨rfl, hbc⟩
          · exact .inl (Nat.lt_trans hab hbc)
          · exact .inl hab
        · rcases hbc with hbc | ⟨rfl, hbc⟩
          · exact .inl hbc
          · exact .inr ⟨rfl, ih b c hab hbc⟩

theorem le_antisymm {a b : Text} (hab : le a b = true) (hba : le b a = true) : a = b := by
  induction a generalizing b with
  | nil =>
    cases b with
    | nil => rfl
    | cons g' b => simp [le] at hba
  | cons g a ih =>
    cases b with
    | nil => simp [le] at hab
    | cons g' b =>
      rw [le_cons_iff] at hab hba
      rcases hab with hab | ⟨rfl, hab⟩
      · rcases hba with hba | ⟨rfl, hba⟩
        · exact absurd hab (Nat.lt_asymm hba)
        · exact absurd hab (Nat.lt_irrefl _)
      · rcases hba with hba | ⟨-, hba⟩
        · exact absurd hba (Nat.lt_irrefl _)
        · rw [ih hab hba]

end Text

namespace Report

/-! ### Findings by line -/

/-- Findings by line, those on one line as they came. -/
def byLine (found : List Finding) : List Finding := found.mergeSort fun a b => a.line ≤ b.line

theorem line_trans (a b c : Finding) (hab : decide (a.line ≤ b.line) = true)
    (hbc : decide (b.line ≤ c.line) = true) : decide (a.line ≤ c.line) = true :=
  decide_eq_true (Int.le_trans (of_decide_eq_true hab) (of_decide_eq_true hbc))

theorem line_total (a b : Finding) :
    (decide (a.line ≤ b.line) || decide (b.line ≤ a.line)) = true := by
  rcases Int.le_total a.line b.line with h | h <;> simp [h]

theorem byLine_perm (found : List Finding) : (byLine found).Perm found :=
  List.mergeSort_perm found _

theorem pairwise_byLine (found : List Finding) : (byLine found).Pairwise (·.line ≤ ·.line) :=
  (List.pairwise_mergeSort line_trans line_total found).imp of_decide_eq_true

/-- The findings on one line stay as they came. -/
theorem filter_byLine (found : List Finding) (number : Int) :
    (byLine found).filter (·.line = number) = found.filter (·.line = number) := by
  have hline : (found.filter (·.line = number)).Pairwise
      fun a b => decide (a.line ≤ b.line) = true := by
    refine List.pairwise_of_forall_mem_list fun a ha b hb => ?_
    have ha : a.line = number := by simpa using (List.mem_filter.1 ha).2
    have hb : b.line = number := by simpa using (List.mem_filter.1 hb).2
    simp [ha, hb]
  -- sorting keeps a part that is in order, and this one is all that is on the line
  have hsub : (found.filter (·.line = number)).Sublist (byLine found) :=
    List.sublist_mergeSort line_trans line_total hline List.filter_sublist
  have hsub' : (found.filter (·.line = number)).Sublist
      ((byLine found).filter (·.line = number)) := by
    simpa [List.filter_filter] using hsub.filter (·.line = number)
  exact (hsub'.eq_of_length ((byLine_perm found).filter _).length_eq.symm).symm

/-- Findings of which no two share a line come in one order only. -/
theorem byLine_congr {found found' : List Finding} (hperm : found.Perm found')
    (hline : ∀ a ∈ found, ∀ b ∈ found, a.line = b.line → a = b) :
    byLine found = byLine found' := by
  refine List.Perm.eq_of_pairwise (fun a b ha hb hab hba => ?_) (pairwise_byLine found)
    (pairwise_byLine found') ((byLine_perm found).trans (hperm.trans (byLine_perm found').symm))
  have ha : a ∈ found := (byLine_perm found).mem_iff.1 ha
  have hb : b ∈ found := hperm.mem_iff.2 ((byLine_perm found').mem_iff.1 hb)
  exact hline a ha b hb (Int.le_antisymm hab hba)

theorem map_line_byLine {found found' : List Finding} (hperm : found.Perm found') :
    (byLine found).map (·.line) = (byLine found').map (·.line) := by
  refine List.Perm.eq_of_pairwise (fun a b _ _ hab hba => Int.le_antisymm hab hba)
    (List.pairwise_map.2 (pairwise_byLine found)) (List.pairwise_map.2 (pairwise_byLine found')) ?_
  exact ((byLine_perm found).trans (hperm.trans (byLine_perm found').symm)).map _

/-! ### Keys in order -/

/-- The keys of findings by their code points. -/
def keys (findings : Findings) : List Text := (findings.map (·.1)).mergeSort Text.le

/-- **The arrangement, told key by key.** -/
theorem arrange_eq {findings : Findings} (h : findings.Orderly) :
    arrange findings = (keys findings).map fun key => (key, byLine (findings.under key)) := by
  -- sorting the entries by key sorts the keys
  have hkeys : (findings.mergeSort fun a b => Text.le a.1 b.1).map (·.1) = keys findings :=
    List.map_mergeSort fun _ _ _ _ => rfl
  rw [← hkeys, List.map_map]
  refine List.map_congr_left fun entry hentry => ?_
  have hmem : (entry.1, entry.2) ∈ findings := (List.mergeSort_perm ..).mem_iff.1 hentry
  rw [Function.comp_apply, (h.mem_iff.1 hmem).1]
  rfl

theorem keys_congr {findings findings' : Findings} (h : findings.Orderly) (h' : findings'.Orderly)
    (hperm : ∀ key, (findings.under key).Perm (findings'.under key)) :
    keys findings = keys findings' := by
  -- no key comes twice, so the same keys are the same list up to order
  have hkeys : (findings.map (·.1)).Perm (findings'.map (·.1)) := by
    refine (List.perm_ext_iff_of_nodup h.nodup h'.nodup).2 fun key => ?_
    rw [h.key_mem_iff, h'.key_mem_iff, ← List.length_pos_iff, ← List.length_pos_iff,
      (hperm key).length_eq]
  refine List.Perm.eq_of_pairwise (fun _ _ _ _ => Text.le_antisymm)
    (List.pairwise_mergeSort Text.le_trans Text.le_total _)
    (List.pairwise_mergeSort Text.le_trans Text.le_total _) ?_
  exact (List.mergeSort_perm ..).trans (hkeys.trans (List.mergeSort_perm ..).symm)

theorem mem_keys {findings : Findings} (h : findings.Orderly) {key : Text} :
    key ∈ keys findings ↔ findings.under key ≠ [] := by
  rw [keys, List.mem_mergeSort, h.key_mem_iff]

/-- The report, key by key. -/
theorem render_eq {findings : Findings} (h : findings.Orderly) :
    render true findings =
      (keys findings).flatMap fun key => (byLine (findings.under key)).flatMap (line key) := by
  rw [render, if_pos rfl, text, arrange_eq h, List.flatMap_map]

/-! ### What a report tells -/

/-- Blocks of equal lengths can be told apart. -/
theorem flatMap_eq_iff {α β : Type} {F G : α → List β} {s : List α}
    (hlength : ∀ a ∈ s, (F a).length = (G a).length) :
    s.flatMap F = s.flatMap G ↔ ∀ a ∈ s, F a = G a := by
  induction s with
  | nil => simp
  | cons a s ih =>
    rw [List.flatMap_cons, List.flatMap_cons, List.forall_mem_cons,
      ← ih fun b hb => hlength b (List.mem_cons_of_mem _ hb)]
    constructor
    · exact fun h => List.append_inj h (hlength a List.mem_cons_self)
    · rintro ⟨h, hrest⟩
      rw [h, hrest]

/-- What stands before the first separator can be told from what follows it. -/
theorem append_sep_inj {α : Type} {sep : α} {s s' rest rest' : List α} (hs : sep ∉ s)
    (hs' : sep ∉ s') (h : s ++ sep :: rest = s' ++ sep :: rest') : s = s' ∧ rest = rest' := by
  induction s generalizing s' with
  | nil =>
    cases s' with
    | nil => exact ⟨rfl, (List.cons.inj h).2⟩
    | cons a s' => exact absurd (List.cons.inj h).1 fun ha => hs' (by simp [ha])
  | cons a s ih =>
    cases s' with
    | nil => exact absurd (List.cons.inj h).1 fun ha => hs (by simp [ha])
    | cons a' s' =>
      rw [List.mem_cons, not_or] at hs hs'
      obtain ⟨rfl, htail⟩ := List.cons.inj h
      obtain ⟨rfl, hrest⟩ := ih hs.2 hs'.2 htail
      exact ⟨rfl, hrest⟩

/-- Lines of a report with one number and one key differ if their texts do. -/
theorem flatMap_line_inj {key : Text} {found found' : List Finding}
    (hlines : found.map (·.line) = found'.map (·.line))
    (hfeed : ∀ finding ∈ found, Glyph.scalar '\n' ∉ finding.text)
    (hfeed' : ∀ finding ∈ found', Glyph.scalar '\n' ∉ finding.text)
    (h : found.flatMap (line key) = found'.flatMap (line key)) : found = found' := by
  induction found generalizing found' with
  | nil => exact (List.map_eq_nil_iff.1 hlines.symm).symm
  | cons a found ih =>
    cases found' with
    | nil => simp at hlines
    | cons b found' =>
      rw [List.map_cons, List.map_cons, List.cons.injEq] at hlines
      rw [List.flatMap_cons, List.flatMap_cons, line, line, hlines.1] at h
      -- behind what the two lines share, the texts go up to the first line feed
      simp only [List.append_assoc, List.append_cancel_left_eq] at h
      obtain ⟨htext, hrest⟩ := append_sep_inj (hfeed a List.mem_cons_self)
        (hfeed' b List.mem_cons_self) h
      obtain rfl : a = b := by
        rw [Finding.mk.injEq]
        exact ⟨hlines.1, htext⟩
      rw [ih hlines.2 (fun f hf => hfeed f (List.mem_cons_of_mem _ hf))
        (fun f hf => hfeed' f (List.mem_cons_of_mem _ hf)) hrest]

/-- **What a report tells.** Of findings that agree up to their order, with texts of one line each,
two reports are the same exactly if the findings under every key come to the same order by line. -/
theorem render_eq_iff {findings findings' : Findings} (h : findings.Orderly)
    (h' : findings'.Orderly)
    (hperm : ∀ key, (findings.under key).Perm (findings'.under key))
    (hfeed : ∀ key, ∀ finding ∈ findings.under key, Glyph.scalar '\n' ∉ finding.text) :
    render true findings = render true findings' ↔
      ∀ key, byLine (findings.under key) = byLine (findings'.under key) := by
  have hsorted : ∀ key, (byLine (findings.under key)).Perm (byLine (findings'.under key)) :=
    fun key => (byLine_perm _).trans ((hperm key).trans (byLine_perm _).symm)
  rw [render_eq h, render_eq h', ← keys_congr h h' hperm,
    flatMap_eq_iff fun key _ => ((hsorted key).flatMap_right (line key)).length_eq]
  constructor
  · intro hblocks key
    by_cases hkey : key ∈ keys findings
    · -- the lines of a block have the same numbers in both reports
      refine flatMap_line_inj (map_line_byLine (hperm key)) (fun f hf => ?_) (fun f hf => ?_)
        (hblocks key hkey)
      · exact hfeed key f ((byLine_perm _).mem_iff.1 hf)
      · exact hfeed key f ((hperm key).mem_iff.2 ((byLine_perm _).mem_iff.1 hf))
    · -- nothing is under a key that is not there
      have hnil : findings.under key = [] := by simpa [mem_keys h] using hkey
      have hnil' : findings'.under key = [] := List.nil_perm.1 (hnil ▸ hperm key)
      rw [hnil, hnil']
  · intro hlines key _
    rw [hlines key]

end Report

end HangulLint
