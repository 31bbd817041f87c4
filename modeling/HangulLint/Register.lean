import HangulLint.Finding

/-!
# The register of a run

A register takes findings until it is sealed; from then on it can only be looked at.

* `Register.record`, `Register.clear` — the changes, refused once sealed;
* `Register.close` — which a register does not come back from.
-/

namespace HangulLint

/-- The findings of a run, and whether the run is over. -/
structure Register where
  findings : Findings
  sealed : Bool
deriving DecidableEq

namespace Register

/-- The register of a run that has not begun. -/
def empty : Register := ⟨[], false⟩

/-- A sealed register refuses a change. -/
inductive Refusal where
  | sealed
deriving DecidableEq

/-- The message of a refusal. -/
def Refusal.message : Refusal → Text
  | .sealed => "ResultStore is frozen; start a new run with a new store"

/-- The register with one more finding under a key. -/
def record (register : Register) (key : Text) (finding : Finding) : Except Refusal Register :=
  if register.sealed then .error .sealed
  else .ok { register with findings := register.findings.record key finding }

/-- The register without findings. -/
def clear (register : Register) : Except Refusal Register :=
  if register.sealed then .error .sealed else .ok { register with findings := [] }

/-- The register at the end of its run. -/
def close (register : Register) : Register := { register with sealed := true }

/-- The number of files with findings. -/
def fileCount (register : Register) : Nat := register.findings.length

/-- The number of findings. -/
def count (register : Register) : Nat := register.findings.count

end Register

end HangulLint
