import HangulLint.Encoding.Charset
import HangulLint.FileTree.Edit
import HangulLint.Program
import Std.Time.Zoned

/-!
# The command

Takes a picture of the directories that the command line names, lets the program run on it, and
puts into effect what the run leaves behind: what it says, and the report. Files that cannot be
read are left out of the picture, and guesses at encodings are always CP949.
-/

namespace HangulLint

/-- The path of a text on disk. -/
def diskPath (text : String) : Path := Path.ofText (Text.ofString text)

/-- A text without what does not belong on a terminal. -/
def terminalText (t : Text) : String := String.ofList (Text.visibleChars t)

/-- The bytes of a file, or none if it cannot be read. -/
def bytesOnDisk (file : String) : IO (List UInt8) := do
  try return (← IO.FS.readBinFile file).toList
  catch _ => return []

/-- The site with what a link on disk leads to, and the link. -/
def addLink (site : Site) (link : String) : IO Site := do
  try
    let real := (← IO.FS.realPath link).toString
    let site ← match (← (System.mkFilePath [real]).metadata).type with
      | .dir => pure (site.makeDir (diskPath real))
      | .file => pure (site.putFile (diskPath real) (← bytesOnDisk real))
      | _ => pure site
    return site.putLink (diskPath link) (Text.ofString real)
  catch _ => return site.putLink (diskPath link) (Text.ofString link)

/-- The site with a directory on disk and all that lies in it. -/
partial def addDirectory (site : Site) (directory : String) : IO Site := do
  let mut site := site.makeDir (diskPath directory)
  for entry in ← (System.mkFilePath [directory]).readDir do
    let found := entry.path.toString
    match (← entry.path.symlinkMetadata).type with
    | .dir => site ← addDirectory site found
    | .file => site := site.putFile (diskPath found) (← bytesOnDisk found)
    | .symlink => site ← addLink site found
    | .other => pure ()
  return site

/-- The site with the directory that a path on disk leads to, if there is one: all that lies in it,
or the directory alone. -/
def addNamed (site : Site) (named : Path) (whole : Bool) : IO Site := do
  try
    let real := (← IO.FS.realPath (terminalText named.text)).toString
    if !(← (System.mkFilePath [real]).isDir) then return site
    let site ← if whole then addDirectory site real else pure (site.makeDir (diskPath real))
    match site.isDir named with
    | .ok true => return site
    | _ => return site.putLink named (Text.ofString real)
  catch _ => return site

/-- The present second. -/
def presentSecond : IO Timestamp := do
  let now ← Std.Time.PlainDateTime.now
  match Timestamp.ofNumbers? now.year.toInt.toNat now.month.toNat now.day.toNat now.hour.toNat
      now.minute.toNat now.second.toNat with
  | some second => return second
  | none => throw (.userError "the clock tells no second of the years 1 to 9999")

/-- What a run under these arguments meets. -/
def gather (arguments : List String) : IO Launch := do
  let cwd := diskPath (← IO.FS.realPath ".").toString
  let program := (← IO.FS.realPath (← IO.appPath)).toString
  let site : Site := { (⟨.empty, [], standardLevels⟩ : Site).makeDir cwd with cwd := cwd.names }
  let site ← match Options.parse (arguments.map Text.ofString) with
    | .error _ => pure site
    | .ok options =>
      let home : Path := ⟨.root, (diskPath program).names.dropLast⟩
      let site ← addNamed site (options.path.getD home) true
      match options.out with
      | some out => addNamed site out false
      | none => pure site
  let conditions : Conditions :=
    ⟨site, Charset.library, fun _ _ => .label (some (Text.ofString "CP949")), site.size, fun _ => 0⟩
  return ⟨conditions, .plain, some (Text.ofString program), ← presentSecond⟩

/-- Writes to disk what a run has changed in a picture. -/
def putIntoEffect (before after : FileTree) : IO Unit := do
  for (location, node) in after.entries do
    match node with
    | .file bytes =>
      if before.node? location != some node then
        IO.FS.writeBinFile (terminalText (Site.pathOf location).text) (ByteArray.mk bytes.toArray)
    | _ => pure ()

/-- Says what a run has to say, and tells the code to end with. -/
def report (launch : Launch) (arguments : List String) (run : Run) : IO UInt32 := do
  let verbose := match Options.parse (arguments.map Text.ofString) with
    | .ok options => options.verbose
    | .error _ => false
  let time := terminalText (Text.ofChars launch.now.chars)
  for record in shown verbose run.journal do
    IO.eprintln (time ++ " " ++ terminalText record.line)
  IO.eprint (terminalText run.stderr)
  IO.print (terminalText run.stdout)
  match run.outcome with
  | .ok code => return UInt32.ofNat code
  | .error fault =>
    IO.eprintln (terminalText fault.message)
    return 1

end HangulLint

/-- Runs the program. -/
def main (arguments : List String) : IO UInt32 := do
  let launch ← HangulLint.gather arguments
  let run := launch.run (arguments.map HangulLint.Text.ofString)
  HangulLint.putIntoEffect launch.conditions.site.tree run.site.tree
  HangulLint.report launch arguments run
