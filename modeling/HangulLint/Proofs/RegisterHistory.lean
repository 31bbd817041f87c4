import HangulLint.Proofs.Grouping
import Mathlib.Data.List.DropRight
import Mathlib.Data.Finset.Card

/-!
# What a register remembers

A register is used by calls: a finding is recorded, the findings are cleared or looked at, or the
register is closed. What it holds can be read off the calls alone. Only those count that come before
the first close, and of these only what comes after the last clear; the findings recorded there are
a log, and the register holds that log by key. From the first close on, records and clears are
refused and nothing changes any more.

The invariant (`Register.Remembers`) is kept by every call, whatever it is and whether it is refused
or not, because a call at the end of a history changes what counts in it in one of four ways:
nothing counts that comes after a close, a record adds its entry, a clear leaves no entry, and the
other calls leave the log alone.

* `Register.Call`, `Register.call` — the calls, and what each answers and leaves;
* `Register.log` — what counts of a history;
* `Register.Remembers.call` — the step, and `Register.remembers_after` — the run;
* `Register.after_eq_grouped` — what a register holds, shows and refuses after any history.
-/

namespace HangulLint.Register

/-- What can be asked of a register. -/
inductive Call where
  | record (key : Text) (finding : Finding)
  | clear
  | close
  /-- The findings are looked at. -/
  | look
deriving DecidableEq

/-- What a call leaves behind: its answer, with the findings if they are looked at, and the
register. -/
structure Reply where
  answer : Except Refusal (Option Findings)
  register : Register

/-- A change that the register may refuse. -/
def attempt (register : Register) : Except Refusal Register → Reply
  | .ok changed => ⟨.ok none, changed⟩
  | .error refusal => ⟨.error refusal, register⟩

/-- What a call answers and leaves. -/
def call (register : Register) : Call → Reply
  | .record key finding => register.attempt (register.record key finding)
  | .clear => register.attempt register.clear
  | .close => ⟨.ok none, register.close⟩
  | .look => ⟨.ok (some register.findings), register⟩

/-- The register after some calls, one after the other. -/
def after (register : Register) (calls : List Call) : Register :=
  calls.foldl (fun register call => (register.call call).register) register

/-! ### What counts of a history -/

/-- A call that changes the findings. -/
def Call.Changes (call : Call) : Prop :=
  call = .clear ∨ ∃ key finding, call = .record key finding

/-- The entry that a call writes, if it records something. -/
def Call.written? : Call → Option (Text × Finding)
  | .record key finding => some (key, finding)
  | _ => none

/-- The calls that count: those before the first close, as far as they come after the last clear. -/
def standing (calls : List Call) : List Call :=
  (calls.takeWhile (· ≠ .close)).rtakeWhile (· ≠ .clear)

/-- The log of a history: what is recorded by the calls that count. -/
def log (calls : List Call) : List (Text × Finding) := (standing calls).filterMap Call.written?

variable {calls : List Call} {register : Register}

theorem log_concat_of_closed (h : Call.close ∈ calls) (call : Call) :
    log (calls ++ [call]) = log calls := by
  have hstop : (calls.takeWhile (· ≠ .close)).length ≠ calls.length := by
    intro hlength
    have hall : calls.takeWhile (· ≠ .close) = calls :=
      (List.takeWhile_prefix _).eq_of_length hlength
    have hclose := List.mem_takeWhile_imp (hall ▸ h)
    simp at hclose
  rw [log, standing, List.takeWhile_append, if_neg hstop]
  rfl

theorem ne_close_of_open (h : Call.close ∉ calls) :
    ∀ call ∈ calls, decide (call ≠ Call.close) = true := by
  intro call hcall
  have hne : call ≠ .close := fun heq => h (heq ▸ hcall)
  exact decide_eq_true hne

/-- An open history counts from its last clear on. -/
theorem standing_of_open (h : Call.close ∉ calls) :
    standing calls = calls.rtakeWhile (· ≠ .clear) := by
  rw [standing, List.takeWhile_eq_self_iff.2 (ne_close_of_open h)]

theorem log_concat_of_open (h : Call.close ∉ calls) {call : Call} (hcall : call ≠ .close) :
    log (calls ++ [call]) = if call = .clear then [] else log calls ++ call.written?.toList := by
  have hafter : Call.close ∉ calls ++ [call] := by
    simpa [h] using Ne.symm hcall
  rw [log, log, standing_of_open h, standing_of_open hafter, List.rtakeWhile_concat]
  by_cases hclear : call = .clear
  · simp [hclear]
  · cases hwritten : call.written? <;> simp [hclear, hwritten]

theorem log_concat_close (calls : List Call) : log (calls ++ [.close]) = log calls := by
  by_cases h : Call.close ∈ calls
  · exact log_concat_of_closed h .close
  · -- the close itself is the first call that does not count
    have hall := ne_close_of_open h
    rw [log, log, standing, standing, List.takeWhile_append_of_pos hall,
      List.takeWhile_eq_self_iff.2 hall]
    simp

/-! ### What a call does -/

/-- A closed register stays as it is, whatever is asked of it. -/
theorem call_of_sealed (h : register.sealed = true) (call : Call) :
    (register.call call).register = register := by
  cases call with
  | record key finding => simp [Register.call, Register.record, attempt, h]
  | clear => simp [Register.call, Register.clear, attempt, h]
  | close =>
    obtain ⟨findings, isSealed⟩ := register
    obtain rfl : isSealed = true := h
    rfl
  | look => rfl

/-- A call is refused exactly if it would change the findings of a closed register. -/
theorem refused_iff (register : Register) (call : Call) :
    (register.call call).answer = .error .sealed ↔
      register.sealed = true ∧ call.Changes := by
  unfold Call.Changes
  cases call with
  | record key finding =>
    by_cases h : register.sealed = true <;> simp [Register.call, Register.record, attempt, h]
  | clear =>
    by_cases h : register.sealed = true <;> simp [Register.call, Register.clear, attempt, h]
  | close => simp [Register.call]
  | look => simp [Register.call]

/-! ### Every history -/

/-- **The invariant.** A register holds the log of its history by key, and is closed if the history
has a close. -/
structure Remembers (register : Register) (calls : List Call) : Prop where
  findings : register.findings = Findings.grouped (log calls)
  sealed_iff : register.sealed = true ↔ Call.close ∈ calls

theorem Remembers.empty : Remembers .empty [] := ⟨rfl, by simp [Register.empty]⟩

/-- **One call more.** -/
theorem Remembers.call (h : Remembers register calls) (call : Call) :
    Remembers (register.call call).register (calls ++ [call]) := by
  by_cases hclosed : Call.close ∈ calls
  · -- nothing that comes after a close counts, and nothing changes the register
    have hsealed : register.sealed = true := h.sealed_iff.2 hclosed
    rw [call_of_sealed hsealed]
    refine ⟨?_, by simp [hsealed, hclosed]⟩
    rw [log_concat_of_closed hclosed]
    exact h.findings
  · have hopen : register.sealed = false := by
      simpa [hclosed] using h.sealed_iff
    cases call with
    | record key finding =>
      have hregister : (register.call (.record key finding)).register =
          { register with findings := register.findings.record key finding } := by
        simp [Register.call, Register.record, attempt, hopen]
      rw [hregister]
      refine ⟨?_, by simp [hopen, hclosed]⟩
      rw [log_concat_of_open hclosed (by simp), if_neg (by simp)]
      show register.findings.record key finding = Findings.grouped (log calls ++ [(key, finding)])
      rw [Findings.grouped_concat, h.findings]
    | clear =>
      have hregister : (register.call .clear).register = { register with findings := [] } := by
        simp [Register.call, Register.clear, attempt, hopen]
      rw [hregister]
      refine ⟨?_, by simp [hopen, hclosed]⟩
      rw [log_concat_of_open hclosed (by simp), if_pos rfl]
      rfl
    | close =>
      refine ⟨?_, by simp [Register.call, Register.close]⟩
      rw [log_concat_close]
      exact h.findings
    | look =>
      refine ⟨?_, by simp [Register.call, hopen, hclosed]⟩
      rw [log_concat_of_open hclosed (by simp), if_neg (by simp)]
      show register.findings = Findings.grouped (log calls ++ [])
      rw [List.append_nil, h.findings]

theorem after_concat (register : Register) (calls : List Call) (call : Call) :
    register.after (calls ++ [call]) = ((register.after calls).call call).register := by
  rw [after, List.foldl_append]
  rfl

/-- Every history keeps the invariant. -/
theorem remembers_after (calls : List Call) : Remembers (empty.after calls) calls := by
  induction calls using List.reverseRecOn with
  | nil => exact .empty
  | append_singleton calls call ih =>
    rw [after_concat]
    exact ih.call call

/-- **What a register holds, shows and refuses.** After any calls, the findings are the log by key,
so that no key is there without findings; their number is the length of the log, and the number of
keys that of the different keys in it. The register is closed from the first close on; exactly then
the next call is refused if it is a record or a clear, and whatever it is, it changes nothing. A
look shows what the register holds. -/
theorem after_eq_grouped (calls : List Call) :
    let register := empty.after calls
    register.findings = Findings.grouped (log calls) ∧
      (∀ entry ∈ register.findings, entry.2 ≠ []) ∧
      register.count = (log calls).length ∧
      register.fileCount = ((log calls).map (·.1)).toFinset.card ∧
      (register.sealed = true ↔ Call.close ∈ calls) ∧
      (∀ call, (register.call call).answer = .error .sealed ↔
        Call.close ∈ calls ∧ call.Changes) ∧
      (∀ call, Call.close ∈ calls → (register.call call).register = register) ∧
      (register.call .look).answer = .ok (some (Findings.grouped (log calls))) := by
  -- the findings are those of the log in groups, and the other views are read off them
  have h := remembers_after calls
  have hdistinct : ((log calls).map (·.1)).eraseDups.length =
      ((log calls).map (·.1)).toFinset.card := by
    rw [← List.toFinset_card_of_nodup (nodup_eraseDups _)]
    congr 1
    ext key
    simp [List.mem_eraseDups]
  refine ⟨h.findings, ?_, ?_, ?_, h.sealed_iff, fun call => ?_, fun call hclosed => ?_, ?_⟩
  · rw [h.findings]
    exact (Findings.orderly_grouped _).found
  · rw [count, h.findings, Findings.count_grouped]
  · rw [fileCount, h.findings, ← hdistinct, ← Findings.keys_grouped, List.length_map]
  · rw [refused_iff, h.sealed_iff]
  · exact call_of_sealed (h.sealed_iff.2 hclosed) call
  · exact congrArg (fun findings => Except.ok (some findings)) h.findings

/-- A clear forgets the keys too, and after the close nothing counts. -/
example : empty.after [.record "b" ⟨9, "z"⟩, .record "a" ⟨1, "x"⟩, .clear, .record "a" ⟨2, "y"⟩,
    .record "b" ⟨1, "x"⟩, .record "a" ⟨1, "y"⟩, .close, .clear, .record "c" ⟨1, "z"⟩] =
      ⟨[("a", [⟨2, "y"⟩, ⟨1, "y"⟩]), ("b", [⟨1, "x"⟩])], true⟩ := by decide

end HangulLint.Register
