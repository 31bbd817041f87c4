import HangulLint.Text.Glyph

/-!
# Findings

A finding is a line of a file that the rule reports. The findings of a run are kept in a register
by the key of their file, the files in the order in which they first had a finding.

* `Finding` — a line number and the reported text;
* `Findings` — findings by key.
-/

namespace HangulLint

/-- A reported line. -/
structure Finding where
  line : Int
  text : Text
deriving DecidableEq

/-- Findings by the key of their file. -/
abbrev Findings := List (Text × List Finding)

namespace Findings

/-- The findings with one more under a key, behind those that the key has. A new key comes last. -/
def record (key : Text) (finding : Finding) : Findings → Findings
  | [] => [(key, [finding])]
  | (k, found) :: rest =>
    if k = key then (k, found ++ [finding]) :: rest else (k, found) :: record key finding rest

/-- The number of findings under all keys. -/
def count : Findings → Nat
  | [] => 0
  | (_, found) :: rest => found.length + count rest

/-- The findings under a key. -/
def under (findings : Findings) (key : Text) : List Finding := (findings.lookup key).getD []

end Findings

end HangulLint
