import HangulLint.Encoding.Source
import HangulLint.FileTree.Site
import HangulLint.Finding
import HangulLint.Journal
import HangulLint.Register
import HangulLint.Rule

/-!
# Inspecting a file

A file is read whole before anything of it is recorded, so a file that cannot be read leaves no
trace.

* `readSource` — the characters of the file at a path, or why there are none;
* `findingsIn` — the findings in a text, with line numbers from 1;
* `inspect` — both in one;
* `scanFile` — the same, with the findings recorded under a key and told in the journal.
-/

namespace HangulLint

/-- Why the program takes a file for unreadable. -/
inductive Reason where
  | os (cause : OsCause)
  | binary
  | malformed (fault : Utf16.Fault)
  | undecodable (guess : Option Text)
  | told (message : Text)
deriving DecidableEq

/-- The wording of a reason. -/
def Reason.text : Reason → Text
  | .os cause => cause.text
  | .binary => "file looks binary"
  | .malformed fault => (Source.Fault.malformed fault).message
  | .undecodable guess => (Source.Fault.undecodable guess).message
  | .told message => message

/-- Says that a file is unreadable, and why. -/
def unreadableText (path reason : Text) : Text := "Unable to read " ++ path ++ ": " ++ reason

/-- What can keep a file from being inspected. -/
inductive FileFault where
  | unreadable (path : Path) (reason : Reason)
  /-- The path is one that no file has. -/
  | nul
  /-- The guesser of encodings broke down. -/
  | guesser (message : Text)
  /-- The register is sealed and there is something to record. -/
  | sealed
  /-- The user interrupted the program. -/
  | interrupted
deriving DecidableEq

/-- The message of a fault. -/
def FileFault.message : FileFault → Text
  | .unreadable path reason => unreadableText path.text reason.text
  | .nul => OpenFault.nul.message
  | .guesser message => message
  | .sealed => Register.Refusal.sealed.message
  | .interrupted => []

/-- How a fault of decoding appears for the file at a path. -/
def Source.Fault.inFile (path : Path) : Source.Fault → FileFault
  | .malformed fault => .unreadable path (.malformed fault)
  | .undecodable guess => .unreadable path (.undecodable guess)
  | .told message => .unreadable path (.told message)
  | .guesser message => .guesser message
  | .interrupted => .interrupted

/-- The characters of the file at a path. -/
def readSource (site : Site) (library : Source.Library) (guesser : Guesser) (path : Path) :
    Except FileFault (List Char) :=
  match site.read path with
  | .error .nul => .error .nul
  | .error (.os error) => .error (.unreadable path (.os error.cause))
  | .ok bytes =>
    if Source.looksBinary bytes then .error (.unreadable path .binary)
    else (Source.decode library guesser bytes).mapError (·.inFile path)

/-- The findings in a text; its lines are numbered from `first` on. -/
def findingsFrom (rule : Rule) (first : Nat) (content : List Char) : List Finding :=
  ((lines content).zipIdx first).filterMap fun (line, number) =>
    (rule.report? line).map fun text => ⟨number, Text.ofChars text⟩

/-- The findings in a text. -/
def findingsIn (rule : Rule) (content : List Char) : List Finding := findingsFrom rule 1 content

/-- The findings in the file at a path. -/
def inspect (site : Site) (library : Source.Library) (guesser : Guesser) (rule : Rule)
    (path : Path) : Except FileFault (List Finding) :=
  (readSource site library guesser path).map (findingsIn rule)

/-- How the journal tells a finding in the file at a path. -/
def findingRecord (path : Path) (finding : Finding) : Record FileFault :=
  .plain .info .files
    (banner ++ path.name ++ " (" ++ Text.ofInt finding.line ++ "): " ++ finding.text)

/-- A register with findings recorded under a key one after the other, unless it refuses one. -/
def recordAll (register : Register) (key : Text) :
    List Finding → Except Register.Refusal Register
  | [] => .ok register
  | finding :: rest =>
    match register.record key finding with
    | .error refusal => .error refusal
    | .ok register => recordAll register key rest

/-- What a file leaves behind: the number of its findings or a fault, the register, and the
journal. -/
structure FileScan where
  outcome : Except FileFault Nat
  register : Register
  journal : List (Record FileFault)

/-- Inspects the file at a path and records its findings under a key. -/
def scanFile (site : Site) (library : Source.Library) (guesser : Guesser) (rule : Rule)
    (key : Text) (path : Path) (register : Register) : FileScan :=
  match inspect site library guesser rule path with
  | .error fault => ⟨.error fault, register, []⟩
  | .ok findings =>
    match recordAll register key findings with
    | .error .sealed => ⟨.error .sealed, register, []⟩
    | .ok recorded => ⟨.ok findings.length, recorded, findings.map (findingRecord path)⟩

end HangulLint
