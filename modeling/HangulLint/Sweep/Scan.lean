import HangulLint.Sweep.Course

/-!
# Sweeping a tree

A sweep selects the files below its root, inspects them all, and seals the register. It refuses
to start where the root is no directory, and where an earlier sweep has sealed the register; it
then leaves everything as it was.

What the program cannot know beforehand is a parameter: which codecs there are, what guessers of
encodings answer, what the system answers about sizes, how long files take, and in which order the
workers get along.

* `Settings` — what a sweep is asked to do;
* `Conditions` — what it meets;
* `SweepState.scan` — the sweep.
-/

namespace HangulLint

/-- What a sweep is asked to do. -/
structure Settings where
  scope : Scope
  rule : Rule
  /-- How many files are inspected at once. -/
  workers : Nat
  /-- Whether the journal tells the details of every file. -/
  verbose : Bool
  /-- The caption of the progress bar, if one is shown. -/
  caption : Option Text
  /-- Files that take at least so many microseconds are told of. -/
  slowAfter : Int

/-- The number of workers that a wish for some number comes to: at least one. -/
def workersFor (wish : Int) : Nat := max 1 wish.toNat

/-- How many workers there are unless told otherwise. -/
def standardWorkers : Int := 8

/-- When a file counts as slow unless told otherwise: after two seconds. -/
def standardSlowAfter : Int := 2000000

/-- The caption of the progress bar unless told otherwise. -/
def standardCaption : Text := "Scanning files"

/-- What a sweep meets and cannot know beforehand. -/
structure Conditions where
  site : Site
  /-- The codecs that a guesser can name. -/
  library : Source.Library
  /-- What a guesser answers about the file at a path. -/
  guesser : Path → Guesser
  /-- What the system answers about the size of the file at a path. -/
  size : Path → Except OsError Nat
  /-- How many microseconds the file at a path takes. -/
  elapsed : Path → Nat

/-- A number of microseconds in seconds with two places. -/
def secondsText (microseconds : Nat) : Text :=
  let hundredths := (microseconds + 5000) / 10000
  let places := hundredths % 100
  Text.ofNat (hundredths / 100) ++ "." ++ Text.ofNat (places / 10) ++ Text.ofNat (places % 10)

namespace Settings

/-- What the journal tells of a file that took long. -/
def slowRecords (settings : Settings) (conditions : Conditions) (key : Text) (path : Path) :
    List (Record FileFault) :=
  let elapsed := conditions.elapsed path
  if settings.slowAfter ≤ elapsed then
    [.plain .debug .sweep ("Slow scan for " ++ key ++ " took " ++ secondsText elapsed ++ "s")]
  else []

/-- The job that inspects a target. -/
def job (settings : Settings) (conditions : Conditions) (target : Target) : Job :=
  let (key, path) := target
  ⟨key, path,
    inspect conditions.site conditions.library (conditions.guesser path) settings.rule path,
    settings.slowRecords conditions key path⟩

/-- One file on its own: what `scanFile` makes of it, with what the journal tells around it. -/
def scanOne (settings : Settings) (conditions : Conditions) (key : Text) (path : Path)
    (register : Register) : FileScan :=
  let scan := scanFile conditions.site conditions.library (conditions.guesser path) settings.rule
    key path register
  { scan with
    journal := Course.beginRecord key :: scan.journal ++ settings.slowRecords conditions key path }

end Settings

/-- A progress bar: how far it goes, what it says, and what has become of it. -/
structure ProgressBar where
  total : Nat
  caption : Text
  unit : Text
  updates : Nat
  closed : Bool
deriving DecidableEq

/-- Why a sweep does not come to its end. -/
inductive ScanFault where
  /-- The root is no directory. -/
  | rootMissing (root : Path)
  /-- There is no selection. -/
  | hindered (obstacle : Scope.Obstacle)
  /-- The register belongs to a sweep that is over. -/
  | sealed
  /-- The user interrupted the program. -/
  | interrupted
deriving DecidableEq

/-- Says that a root is no directory. -/
def rootMissingText (root : Text) : Text := "Root directory not found: " ++ root

/-- The message of a fault. -/
def ScanFault.message : ScanFault → Text
  | .rootMissing root => rootMissingText root.text
  | .hindered obstacle => obstacle.message
  | .sealed => Register.Refusal.sealed.message
  | .interrupted => []

/-- What lasts from one sweep to the next. -/
structure SweepState where
  register : Register
  failures : Failures

/-- The state before the first sweep. -/
def SweepState.fresh : SweepState := ⟨.empty, []⟩

/-- What a sweep leaves behind. -/
structure Sweep where
  outcome : Except ScanFault Unit
  state : SweepState
  journal : List (Record FileFault)
  /-- The progress bar, if one was shown. -/
  bar : Option ProgressBar

/-- What the journal tells at the start of a sweep. -/
def startRecord : Record FileFault := .plain .info .sweep (banner ++ "Start.")

/-- What the journal tells when the files have been selected. -/
def countRecord (files : Nat) : Record FileFault :=
  .plain .info .sweep (banner ++ "Find Files: " ++ Text.ofNat files)

/-- What the journal tells at the end of a sweep. -/
def summaryRecord (files : Nat) (state : SweepState) : Record FileFault :=
  .plain .info .sweep
    (banner ++ "Scanned " ++ Text.ofNat files ++ " file(s): " ++ Text.ofNat state.register.count
      ++ " detection(s) in " ++ Text.ofNat state.register.fileCount ++ " file(s), "
      ++ Text.ofNat state.failures.length ++ " unreadable")

/-- The progress bar of a course that has come to its end. There is none where there is nothing
to do. -/
def Settings.bar (settings : Settings) (course : Course) : Option ProgressBar :=
  if course.jobs.isEmpty then none
  else settings.caption.map fun caption =>
    ⟨course.jobs.length, caption, "file", course.noticed, true⟩

/-- What a course that has come to its end makes of a sweep. -/
def Settings.finish (settings : Settings) (course : Course) : Sweep :=
  if course.interrupted then
    ⟨.error .interrupted, ⟨course.register, course.failures⟩, course.journal, settings.bar course⟩
  else
    let state : SweepState := ⟨course.register.close, course.failures⟩
    ⟨.ok (), state, course.journal ++ [summaryRecord course.jobs.length state],
      settings.bar course⟩

namespace SweepState

/-- A sweep that has selected its files, under a schedule. -/
def inspectAll (state : SweepState) (settings : Settings) (conditions : Conditions)
    (schedule : List Job → List Move) (selection : Scope.Selection) : Sweep :=
  let opening := startRecord :: selection.journal ++ [countRecord selection.targets.length]
  match state.register.clear with
  | .error .sealed => ⟨.error .sealed, state, opening, none⟩
  | .ok register =>
    let jobs := selection.targets.map (settings.job conditions)
    let sweep := settings.finish
      ((Course.start register jobs).run settings.verbose (schedule jobs))
    { sweep with journal := opening ++ sweep.journal }

/-- A sweep under a schedule. -/
def scanBy (state : SweepState) (settings : Settings) (conditions : Conditions)
    (schedule : List Job → List Move) : Sweep :=
  match conditions.site.isDir settings.scope.root with
  | .error error => ⟨.error (.hindered (.os error)), state, [], none⟩
  | .ok false => ⟨.error (.rootMissing settings.scope.root), state, [], none⟩
  | .ok true =>
    match settings.scope.select conditions.site conditions.size with
    | .error obstacle => ⟨.error (.hindered obstacle), state, [startRecord], none⟩
    | .ok selection => state.inspectAll settings conditions schedule selection

/-- A sweep that takes the files one after the other. -/
def scan (state : SweepState) (settings : Settings) (conditions : Conditions) : Sweep :=
  state.scanBy settings conditions (inOrder settings.workers)

end SweepState

end HangulLint
