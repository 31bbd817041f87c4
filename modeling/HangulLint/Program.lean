import HangulLint.Options.Parse
import HangulLint.Report
import HangulLint.Text.Line

/-!
# The program

One run: read the command line, sweep the directory it names, and write the report. A pattern that
is none and a root that is no directory end the run with a message and code 2; whatever happens to
single files, a sweep that comes to its end ends the run with code 0.

What a run meets and does not decide is data of its launch and of its schedule, so that results hold
whatever it is: the tree, the order in which the system lists it and the sizes that it tells, the
codecs and the guessers of encodings, how deep directories and patterns may be nested, the names of
characters, the time, and how workers get along. A run is the only one to touch its tree, and is
allowed whatever it does there; how the streams put into bytes what is printed is left to them.

* `Launch` — what a run meets;
* `defaultRoot` — the directory that is swept where none is named;
* `Options.runBy` — the run under options that have been read, for every schedule of the sweep;
* `Launch.run` — the run under a command line.
-/

namespace HangulLint

/-- The version of the program. -/
def version : String := "0.1.0"

/-- What a run meets. -/
structure Launch where
  conditions : Conditions
  /-- The system that reads patterns. -/
  host : Pattern.Host
  /-- How the program has been called, if that is known. -/
  program : Option Text
  now : Timestamp

/-- Why the directory of the program cannot be told. -/
inductive RootFault where
  | resolve (fault : Site.ResolveFault)
  | os (error : OsError)
deriving DecidableEq

/-- The message of a fault. -/
def RootFault.message : RootFault → Text
  | .resolve fault => fault.message
  | .os error => error.message

/-- The directory that the program lies in, or the one in which it runs where that is not known. -/
def defaultRoot (site : Site) (program : Option Text) : Except RootFault Path :=
  match program with
  | none => .ok site.cwdPath
  | some [] => .ok site.cwdPath
  | some called =>
    match site.resolve (Path.ofText called) with
    | .error fault => .error (.resolve fault)
    | .ok resolved =>
      let directory : Path := ⟨resolved.origin, resolved.names.dropLast⟩
      match site.isDir directory with
      | .error error => .error (.os error)
      | .ok true => .ok directory
      | .ok false => .ok site.cwdPath

/-- What ends a run without a code. -/
inductive RunFault where
  /-- The pattern is refused for a reason that is no matter of its form. -/
  | pattern (pattern : Text) (fault : Pattern.Fault)
  | root (fault : RootFault)
  | sweep (fault : ScanFault)
  | report (fault : ReportFault)

/-- The message of a fault. -/
def RunFault.message : RunFault → Text
  | .pattern text fault => fault.message text
  | .root fault => fault.message
  | .sweep fault => fault.message
  | .report fault => fault.message

/-- What a run leaves behind. -/
structure Run where
  /-- The code that the run ends with. -/
  outcome : Except RunFault Nat
  stdout : Text
  stderr : Text
  journal : List (Record FileFault)
  bar : Option ProgressBar
  site : Site

/-- What the journal tells at the end of a run. -/
def completeRecord : Record FileFault := .plain .info .program (banner ++ "Complete.")

/-- Says that a text is no pattern, and why. -/
def badPatternText (pattern : Text) (fault : Pattern.Fault) : Text :=
  "Invalid --pattern " ++ Text.quoted pattern ++ ": " ++ fault.message pattern ++ "\n"

namespace Options

/-- The rule that the options describe, given the target. -/
def rule (options : Options) (target : Pattern.Node) : Rule :=
  ⟨(Text.commaList options.excludedWords).filterMap Text.chars?, target⟩

/-- Where the options tell the sweep to look. -/
def scope (options : Options) (root : Path) : Scope :=
  ⟨root, (Text.commaList options.globs).map Glob.parse, Text.commaList options.excludedDirs,
    options.sizeLimit⟩

/-- The sweep that the options describe. -/
def settings (options : Options) (root : Path) (target : Pattern.Node) : Settings where
  scope := options.scope root
  rule := options.rule target
  workers := workersFor options.workers
  verbose := options.verbose
  caption := if options.noProgress then none else some standardCaption
  slowAfter := standardSlowAfter

/-- Where the options tell the report to go. -/
def reportPlan (options : Options) : ReportPlan := ⟨options.out, none, !options.unsorted⟩

/-- The report on a sweep that has come to its end. -/
def reportOn (options : Options) (launch : Launch) (sweep : Sweep) : Run :=
  let writing := options.reportPlan.write launch.conditions.site launch.now
    sweep.state.register.findings
  match writing.outcome with
  | .error fault =>
    ⟨.error (.report fault), [], [], sweep.journal ++ writing.journal, sweep.bar, writing.site⟩
  | .ok path =>
    ⟨.ok 0, path.text ++ "\n", [], sweep.journal ++ writing.journal ++ [completeRecord],
      sweep.bar, writing.site⟩

/-- The run that sweeps a root for a target, under a schedule. -/
def sweepRoot (options : Options) (launch : Launch) (schedule : Schedule) (root : Path)
    (target : Pattern.Node) : Run :=
  let site := launch.conditions.site
  let settings := options.settings root target
  let sweep := SweepState.fresh.scanBy settings launch.conditions (schedule settings.workers)
  match sweep.outcome with
  | .error (.rootMissing root) =>
    ⟨.ok 2, [], (ScanFault.rootMissing root).message ++ "\n", sweep.journal, sweep.bar, site⟩
  | .error fault => ⟨.error (.sweep fault), [], [], sweep.journal, sweep.bar, site⟩
  | .ok () => options.reportOn launch sweep

/-- The root that the options name, or the directory of the program. -/
def root (options : Options) (launch : Launch) : Except RootFault Path :=
  match options.path with
  | some path => .ok path
  | none => defaultRoot launch.conditions.site launch.program

/-- The run under these options and a schedule. -/
def runBy (options : Options) (launch : Launch) (schedule : Schedule) : Run :=
  let site := launch.conditions.site
  match Pattern.parse launch.host options.pattern with
  | .error (.malformed complaint position) =>
    ⟨.ok 2, [], badPatternText options.pattern (.malformed complaint position), [], none, site⟩
  | .error fault => ⟨.error (.pattern options.pattern fault), [], [], [], none, site⟩
  | .ok target =>
    match options.root launch with
    | .error fault => ⟨.error (.root fault), [], [], [], none, site⟩
    | .ok root => options.sweepRoot launch schedule root target

end Options

namespace Launch

/-- The run under a command line and a schedule. -/
def runBy (launch : Launch) (schedule : Schedule) (arguments : List Text) : Run :=
  match Options.parse arguments with
  | .ok options => options.runBy launch schedule
  | .error ending =>
    let exit := ending.exit
    ⟨.ok exit.code, exit.stdout, exit.stderr, [], none, launch.conditions.site⟩

/-- The run under a command line that takes the files one after the other. -/
def run (launch : Launch) (arguments : List Text) : Run := launch.runBy inOrder arguments

end Launch

end HangulLint
