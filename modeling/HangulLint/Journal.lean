import HangulLint.Text.Glyph

/-!
# The journal

What the program tells about its work, record by record. A record has a level and comes from a
part of the program; a threshold decides which records are shown.

* `Record` — a level, a channel, a message, and the kind of fault behind it, if one is attached;
* `Record.line` — a record as it is shown;
* `threshold`, `Level.reaches` — whether a record is shown at all.
-/

namespace HangulLint

/-- How important a record is. -/
inductive Level where
  | debug
  | info
  | warning
  | error
  | critical
deriving DecidableEq

/-- The levels by increasing importance. -/
def Level.rank : Level → Nat
  | .debug => 0
  | .info => 1
  | .warning => 2
  | .error => 3
  | .critical => 4

/-- The name of a level. -/
def Level.label : Level → String
  | .debug => "DEBUG"
  | .info => "INFO"
  | .warning => "WARNING"
  | .error => "ERROR"
  | .critical => "CRITICAL"

/-- The part of the program that a record comes from. -/
inductive Channel where
  | program
  | files
  | sweep
  | report
deriving DecidableEq

/-- The name under which the program keeps its journal. -/
def journalName : String := "hanguldetector"

/-- The name of a channel: that of the journal, and for a part of the program its own. -/
def Channel.name : Channel → Text
  | .program => Text.ofString journalName
  | .files => Text.ofString journalName ++ ".filescanner"
  | .sweep => Text.ofString journalName ++ ".directoryscanner"
  | .report => Text.ofString journalName ++ ".reportwriter"

/-- What opens the messages about a run as a whole and about findings. -/
def banner : Text := "[HangulDetector] "

/-- A record of the journal. The type parameter is the kind of faults that can be attached. -/
structure Record (Fault : Type) where
  level : Level
  channel : Channel
  message : Text
  /-- The fault whose course is told along with the message. -/
  fault : Option Fault
deriving DecidableEq

/-- A record without a fault. -/
def Record.plain {Fault : Type} (level : Level) (channel : Channel) (message : Text) :
    Record Fault := ⟨level, channel, message, none⟩

/-- A shown line: the level in brackets, where it comes from, and the message. -/
def journalLine (level : Level) (source message : Text) : Text :=
  "[" ++ Text.ofString level.label ++ "] " ++ source ++ " - " ++ message

/-- A record as it is shown. -/
def Record.line {Fault : Type} (record : Record Fault) : Text :=
  journalLine record.level record.channel.name record.message

/-- The least level that is shown: the details of every file, or only what concerns the run. -/
def threshold (verbose : Bool) : Level := if verbose then .debug else .info

/-- Whether a level is shown under a threshold. -/
def Level.reaches (level least : Level) : Bool := least.rank ≤ level.rank

/-- The records of a journal that are shown. -/
def shown {Fault : Type} (verbose : Bool) (journal : List (Record Fault)) : List (Record Fault) :=
  journal.filter (·.level.reaches (threshold verbose))

end HangulLint
