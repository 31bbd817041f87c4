import HangulLint.Rule
import HangulLint.Sweep.Scan

/-!
# Options

What the program can be told on its command line, and what holds where it is told nothing.

* `Options` — the settings;
* `Switch` — the options by name, in the order in which they are listed.
-/

namespace HangulLint

/-- What the program has been told. -/
structure Options where
  /-- The directory to sweep. -/
  path : Option Path
  /-- The directory for the report. -/
  out : Option Path
  globs : Text
  excludedWords : Text
  excludedDirs : Text
  pattern : Text
  workers : Int
  sizeLimit : Option Int
  unsorted : Bool
  noProgress : Bool
  verbose : Bool

/-- Entries as they are listed in one setting. -/
def listed (entries : List String) : Text :=
  joined ([.scalar ','] : Text) (entries.map Text.ofString)

/-- What holds where nothing is told. -/
def Options.standard : Options where
  path := none
  out := none
  globs := listed standardGlobs
  excludedWords := listed Rule.standardWords
  excludedDirs := listed standardExcludedDirs
  pattern := Rule.standardPattern
  workers := standardWorkers
  sizeLimit := none
  unsorted := false
  noProgress := false
  verbose := false

/-- The options by name. -/
inductive Switch where
  | help
  | out
  | globs
  | excludedWords
  | excludedDirs
  | pattern
  | workers
  | sizeLimit
  | unsorted
  | noProgress
  | verbose
deriving DecidableEq

namespace Switch

/-- The long name of an option. -/
def longName : Switch → String
  | .help => "--help"
  | .out => "--out"
  | .globs => "--include"
  | .excludedWords => "--exclude-words"
  | .excludedDirs => "--exclude-dirs"
  | .pattern => "--pattern"
  | .workers => "--workers"
  | .sizeLimit => "--max-file-size"
  | .unsorted => "--no-sort"
  | .noProgress => "--no-progress"
  | .verbose => "--verbose"

/-- The short name of the option for help, the only one that has any. -/
def shortHelp : String := "-h"

/-- How an option is named in complaints: by all its names. -/
def title : Switch → String
  | .help => "-h/--help"
  | option => option.longName

/-- The options in the order in which they are listed. -/
def all : List Switch :=
  [.help, .out, .globs, .excludedWords, .excludedDirs, .pattern, .workers, .sizeLimit, .unsorted,
   .noProgress, .verbose]

/-- Whether an option is followed by a value. -/
def takesValue : Switch → Bool
  | .help => false
  | .unsorted => false
  | .noProgress => false
  | .verbose => false
  | _ => true

/-- The option of a name that is written in full. -/
def named? (name : Text) : Option Switch :=
  if name = Text.ofString shortHelp then some .help
  else all.find? fun option => name = Text.ofString option.longName

/-- The options whose long names begin with some text. -/
def startingWith (start : Text) : List Switch :=
  all.filter fun option => start.isPrefixOf (Text.ofString option.longName)

end Switch

end HangulLint
