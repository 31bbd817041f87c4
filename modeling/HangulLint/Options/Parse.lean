import HangulLint.Options.Basic
import HangulLint.Options.Usage
import HangulLint.Text.Numeral
import HangulLint.Text.Quoted

/-!
# Reading the command line

Arguments are first told apart: options, separators and plain values. Long options may be cut
short as long as they stay unambiguous, a value can be attached by an equals sign, and behind a
separator everything is plain. Then the options take effect from left to right.

* `Argument.classify` — the kinds of arguments;
* `Options.parse` — the options that a command line sets, or how the program ends at once.
-/

namespace HangulLint

/-- What is attached to the name of an option in one argument. -/
inductive Attached where
  | nothing
  /-- A value behind an equals sign. -/
  | value (value : Text)
  /-- What follows a short option directly. -/
  | tail (tail : Text)
deriving DecidableEq

/-- An argument, told apart from the others. -/
inductive Argument where
  | plain (value : Text)
  | separator
  | option (option : Switch) (attached : Attached)
  /-- It looks like an option, but there is none of the name. -/
  | unknown (written : Text)
deriving DecidableEq

/-- Why a command line is refused. -/
inductive Misuse where
  | ambiguous (written : Text) (candidates : List Switch)
  | missingValue (option : Switch)
  | ignoredValue (option : Switch) (value : Text)
  | invalidNumber (option : Switch) (value : Text)
  | unrecognized (arguments : List Text)
deriving DecidableEq

/-- The wording of a misuse. -/
def Misuse.text : Misuse → Text
  | .ambiguous written candidates =>
    "ambiguous option: " ++ written ++ " could match "
      ++ joined (", " : Text) (candidates.map fun switch => Text.ofString switch.longName)
  | .missingValue switch =>
    "argument " ++ Text.ofString switch.title ++ ": expected one argument"
  | .ignoredValue switch value =>
    "argument " ++ Text.ofString switch.title ++ ": ignored explicit argument "
      ++ Text.quoted value
  | .invalidNumber switch value =>
    "argument " ++ Text.ofString switch.title ++ ": invalid int value: " ++ Text.quoted value
  | .unrecognized arguments =>
    "unrecognized arguments: " ++ joined (" " : Text) arguments

/-- How the program ends without having done anything. -/
inductive Ending where
  | help
  | misuse (misuse : Misuse)
deriving DecidableEq

namespace Argument

/-- The sign that options begin with. -/
def dash : Glyph := .scalar '-'

/-- The sign between the name of an option and a value attached to it. -/
def equals : Glyph := .scalar '='

/-- The argument behind which everything is plain. -/
def separatorText : Text := [dash, dash]

/-- Whether a glyph is a decimal digit of any script. -/
def isDigit (g : Glyph) : Bool := isDecimal g.code

/-- Whether a text is a minus sign and a number, with digits at least behind the point. One line
feed may follow. -/
def isNegativeNumber (t : Text) : Bool :=
  match t with
  | [] => false
  | g :: rest =>
    let body := if rest.getLast? = some (.scalar '\n') then rest.dropLast else rest
    let whole := body.takeWhile isDigit
    let tail := body.dropWhile isDigit
    g = dash && match tail with
      | [] => !whole.isEmpty
      | point :: places => point = .scalar '.' && !places.isEmpty && places.all isDigit

/-- What a text that names no option in full is. -/
def classifyOther (t : Text) : Argument :=
  if isNegativeNumber t || t.contains (.scalar ' ') then .plain t else .unknown t

/-- A text that begins with two dashes: an option that is cut short, if just one fits. -/
def classifyLong (t name : Text) (attached : Attached) : Except Misuse Argument :=
  match Switch.startingWith name with
  | [] => .ok (classifyOther t)
  | [switch] => .ok (.option switch attached)
  | candidates => .error (.ambiguous t candidates)

/-- What an argument in front of a separator is. -/
def classifyOne (t : Text) : Except Misuse Argument :=
  match t with
  | first :: second :: more =>
    let name := t.takeWhile (· ≠ equals)
    let attached := match t.dropWhile (· ≠ equals) with
      | [] => Attached.nothing
      | _ :: value => .value value
    if first ≠ dash then .ok (.plain t)
    else match Switch.named? t, Switch.named? name with
      | some switch, _ => .ok (.option switch .nothing)
      | none, some switch => .ok (.option switch attached)
      | none, none =>
        if second = dash then classifyLong t name attached
        else if Text.ofString Switch.shortHelp = [first, second] then
          .ok (.option .help (.tail more))
        else .ok (classifyOther t)
  | _ => .ok (.plain t)

/-- The kinds of arguments; a misuse in one of them counts before anything takes effect. -/
def classify : List Text → Except Misuse (List Argument)
  | [] => .ok []
  | t :: rest =>
    if t = separatorText then .ok (.separator :: rest.map .plain)
    else do
      let argument ← classifyOne t
      return argument :: (← classify rest)

/-- Whether an argument begins with a dash that makes it an option, known or not. -/
def isOption : Argument → Bool
  | .option _ _ => true
  | .unknown _ => true
  | _ => false

/-- The text of a plain argument or a separator. -/
def written : Argument → Text
  | .plain value => value
  | .separator => separatorText
  | .option switch _ => Text.ofString switch.longName
  | .unknown t => t

end Argument

/-! ### Taking effect -/

/-- What has taken effect so far: the options, whether a directory has been named, and the
arguments for which there is no use. -/
structure ParseState where
  options : Options
  named : Bool
  left : List Text

namespace ParseState

/-- Sets an option that is followed by a number. -/
def setNumber (switch : Switch) (value : Text) (set : Int → Options) :
    Except Ending Options :=
  match Text.int? value with
  | some n => .ok (set n)
  | none => .error (.misuse (.invalidNumber switch value))

/-- The options with one that is followed by a value. -/
def setValue (options : Options) (switch : Switch) (value : Text) : Except Ending Options :=
  match switch with
  | .out => .ok { options with out := some (Path.ofText value) }
  | .globs => .ok { options with globs := value }
  | .excludedWords => .ok { options with excludedWords := value }
  | .excludedDirs => .ok { options with excludedDirs := value }
  | .pattern => .ok { options with pattern := value }
  | .workers => setNumber switch value fun n => { options with workers := n }
  | .sizeLimit => setNumber switch value fun n => { options with sizeLimit := some n }
  | _ => .ok options

/-- The options with one that stands alone. -/
def setSwitch (options : Options) (switch : Switch) : Except Ending Options :=
  match switch with
  | .help => .error .help
  | .unsorted => .ok { options with unsorted := true }
  | .noProgress => .ok { options with noProgress := true }
  | .verbose => .ok { options with verbose := true }
  | _ => .ok options

/-- What comes of the short option for help with something directly behind it: help, unless what
follows is meant as a value. Further short options for help may follow first. -/
def shortTail : Text → Ending
  | [] => .help
  | g :: rest =>
    if g = Argument.dash then .misuse (.ignoredValue .help (g :: rest))
    else if [Argument.dash, g] = Text.ofString Switch.shortHelp then
      match rest with
      | [] => .help
      | next :: value =>
        if next = Argument.equals then .misuse (.ignoredValue .help value)
        else shortTail (next :: value)
    else .help

/-- The state after a value that belongs to no option: the first names the directory. -/
def takePlain (state : ParseState) (value : Text) : ParseState :=
  if state.named then { state with left := state.left ++ [value] }
  else { state with
    options := { state.options with path := some (Path.ofText value) }, named := true }

/-- The state after the arguments behind the last option. A separator next to the value that names
the directory is dropped along with it. -/
def takeRest (state : ParseState) (arguments : List Argument) : ParseState :=
  let (value, others) : Option Text × List Argument :=
    if state.named then (none, arguments)
    else match arguments with
      | .separator :: .plain value :: others => (some value, others)
      | .separator :: others => (none, others)
      | .plain value :: .separator :: others => (some value, others)
      | .plain value :: others => (some value, others)
      | others => (none, others)
  let state := match value with
    | some value => state.takePlain value
    | none => state
  { state with left := state.left ++ others.map Argument.written }

/-- The state after an option and its value, if it has one; `next` is the argument behind it. -/
def takeOption (state : ParseState) (switch : Switch) (attached : Attached)
    (next : Option Argument) : Except Ending ParseState := do
  let options ← match switch.takesValue, attached, next with
    | true, .value value, _ => setValue state.options switch value
    | true, .tail value, _ => setValue state.options switch value
    | true, .nothing, some (.plain value) => setValue state.options switch value
    | true, .nothing, _ => .error (.misuse (.missingValue switch))
    | false, .nothing, _ => setSwitch state.options switch
    | false, .value value, _ => .error (.misuse (.ignoredValue switch value))
    | false, .tail tail, _ => .error (shortTail tail)
  return { state with options := options }

/-- Lets arguments take effect from left to right. -/
def takeAll (state : ParseState) : List Argument → Except Ending ParseState
  | [] => .ok (state.takeRest [])
  | argument :: rest =>
    if !(argument :: rest).any Argument.isOption then .ok (state.takeRest (argument :: rest))
    else match argument with
      | .plain value => takeAll (state.takePlain value) rest
      | .separator => .ok (state.takeRest (argument :: rest))
      | .unknown t => takeAll { state with left := state.left ++ [t] } rest
      | .option switch attached =>
        match state.takeOption switch attached rest.head? with
        | .error ending => .error ending
        | .ok state =>
          if switch.takesValue && attached = .nothing then
            match rest with
            | _ :: rest => takeAll state rest
            | [] => .ok (state.takeRest [])
          else takeAll state rest

end ParseState

/-- The options that a command line sets, or how the program ends at once. -/
def Options.parse (arguments : List Text) : Except Ending Options := do
  let classified ← (Argument.classify arguments).mapError .misuse
  let state ← ParseState.takeAll ⟨.standard, false, []⟩ classified
  if state.left.isEmpty then return state.options
  else throw (.misuse (.unrecognized state.left))

/-- What the program writes and the code it ends with. -/
structure Exit where
  code : Nat
  stdout : Text
  stderr : Text
deriving DecidableEq

/-- How the program ends without having done anything. -/
def Ending.exit : Ending → Exit
  | .help => ⟨0, helpText, []⟩
  | .misuse fault => ⟨2, [], complaintText fault.text⟩

end HangulLint
