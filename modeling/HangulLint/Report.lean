import HangulLint.Inspection
import HangulLint.Timestamp

/-!
# Reports

A report lists findings, one a line, in a file whose name tells when it was written.

* `Report.render` — the text of a report;
* `Report.nameAt` — the name of a report written at some time;
* `ReportPlan.directory` — where a report goes: to the directory that was asked for, or to another
  if that is none;
* `ReportPlan.write` — the report in its file.
-/

namespace HangulLint

namespace Report

/-- The line of a finding under a key. -/
def line (key : Text) (finding : Finding) : Text :=
  key ++ " (" ++ Text.ofInt finding.line ++ "): " ++ finding.text ++ "\n"

/-- The findings with the keys in the order of their code points, and under each key by line;
findings on one line stay in their order. -/
def arrange (findings : Findings) : Findings :=
  (findings.mergeSort fun a b => Text.le a.1 b.1).map fun (key, found) =>
    (key, found.mergeSort fun a b => a.line ≤ b.line)

/-- The lines of findings as they come. -/
def text (findings : Findings) : Text :=
  findings.flatMap fun (key, found) => found.flatMap (line key)

/-- The text of a report, arranged or as the findings come. -/
def render (arranged : Bool) (findings : Findings) : Text :=
  text (if arranged then arrange findings else findings)

/-- What the names of reports begin with. -/
def nameStart : String := "HangulDetector"

/-- The name of a report written at some time. -/
def nameAt (now : Timestamp) : Text :=
  Text.ofString nameStart ++ "_" ++ Text.ofChars now.chars ++ ".txt"

end Report

/-- Where a report is to go, and whether it is arranged. -/
structure ReportPlan where
  /-- The directory that was asked for. -/
  asked : Option Path
  /-- The directory to fall back to; where the program runs, if none is given. -/
  fallback : Option Path
  arranged : Bool

/-- Why a report has not been written. -/
inductive ReportFault where
  /-- The system refuses to answer about the directory. -/
  | directory (error : OsError)
  /-- The file cannot be opened. -/
  | file (fault : OpenFault)
  /-- The text holds stray bytes of file names, which UTF-8 cannot express. -/
  | text (fault : Utf8.EncodeFault)
deriving DecidableEq

/-- How a run of stray bytes appears in messages. -/
def Utf8.EncodeFault.message (fault : Utf8.EncodeFault) : Text :=
  let what : Text :=
    if fault.start = fault.stop then
      "character '" ++ Text.ofChars (Text.hexEscape (Glyph.stray fault.byte).code)
        ++ "' in position " ++ Text.ofNat fault.start
    else
      "characters in position " ++ Text.ofNat fault.start ++ "-" ++ Text.ofNat fault.stop
  "'utf-8' codec can't encode " ++ what ++ ": surrogates not allowed"

/-- The message of a fault. -/
def ReportFault.message : ReportFault → Text
  | .directory error => error.message
  | .file fault => fault.message
  | .text fault => fault.message

/-- What the writing of a report leaves behind. -/
structure ReportWriting where
  outcome : Except ReportFault Path
  site : Site
  journal : List (Record FileFault)

namespace ReportPlan

/-- What the journal tells when the directory that was asked for is none. -/
def fallbackRecord (asked fallback : Path) : Record FileFault :=
  .plain .warning .report
    ("Output directory " ++ asked.text ++ " does not exist; writing to " ++ fallback.text)

/-- What the journal tells when a report has been written. -/
def createdRecord (path : Path) : Record FileFault :=
  .plain .info .report (banner ++ "Report created: " ++ path.text)

/-- The directory that a report goes to, and what the journal tells of it. -/
def directory (plan : ReportPlan) (site : Site) :
    Except OsError (Path × List (Record FileFault)) :=
  let fallback := plan.fallback.getD site.cwdPath
  match plan.asked with
  | none => .ok (fallback, [])
  | some asked =>
    match site.isDir asked with
    | .error error => .error error
    | .ok true => .ok (asked, [])
    | .ok false => .ok (fallback, [fallbackRecord asked fallback])

/-- Puts a text into the file at a path, and tells what becomes of the site. The file is made, or
emptied, before the text is expressed in bytes. -/
def fill (site : Site) (path : Path) (text : Text) : Except ReportFault Unit × Site :=
  match site.write path [] with
  | .error fault => (.error (.file fault), site)
  | .ok emptied =>
    match Utf8.encodeText text with
    | .error fault => (.error (.text fault), emptied)
    | .ok bytes =>
      match emptied.write path bytes with
      | .error fault => (.error (.file fault), emptied)
      | .ok filled => (.ok (), filled)

/-- The report on some findings, written at some time. -/
def write (plan : ReportPlan) (site : Site) (now : Timestamp) (findings : Findings) :
    ReportWriting :=
  match plan.directory site with
  | .error error => ⟨.error (.directory error), site, []⟩
  | .ok (directory, journal) =>
    let path := directory.child (Report.nameAt now)
    match fill site path (Report.render plan.arranged findings) with
    | (.error fault, site) => ⟨.error fault, site, journal⟩
    | (.ok (), site) => ⟨.ok path, site, journal ++ [createdRecord path]⟩

end ReportPlan

end HangulLint
