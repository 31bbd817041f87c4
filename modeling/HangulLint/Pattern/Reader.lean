import HangulLint.Pattern.Fault
import HangulLint.Pattern.Syntax
import HangulLint.Text.Identifier

/-!
# Reading a pattern

A pattern is read as a list of tokens: single glyphs, and backslashes together with the glyph after
them. A backslash that ends the pattern is no token; the fault arises as soon as everything before
it has been taken. What the pattern language leaves to the system it runs on is a parameter.

* `Host` — that system: its names of characters, and its stack;
* `Reader` — what is still to be read, and what the groups so far are;
* `Reading` — a step of reading, which may fault;
* `peek`, `next`, `accept`, `untilToken` — the steps all others are made of.
-/

namespace HangulLint.Pattern

/-- What the pattern language leaves to the system that it runs on. -/
structure Host where
  /-- The character that goes by a name. -/
  named? : List Char → Option Char
  /-- What the system says where a pattern nests too deeply for its stack. -/
  overflow? : Text → Option Text
  /-- Nothing nests without a parenthesis. -/
  flat : ∀ pattern, .scalar '(' ∉ pattern → overflow? pattern = none

/-- A host that knows no names of characters and never runs out of its stack. -/
def Host.plain : Host := ⟨fun _ => none, fun _ => none, fun _ _ => rfl⟩

/-- A token of a pattern. -/
inductive Token where
  | plain (g : Glyph)
  | escape (g : Glyph)
deriving DecidableEq

/-- The token of a character that stands by itself. -/
@[match_pattern]
abbrev Token.char (c : Char) : Token := .plain (.scalar c)

/-- The token as it is written. -/
def Token.text : Token → Text
  | .plain g => [g]
  | .escape g => [.scalar '\\', g]

/-- The tokens of a pattern, and whether a lone backslash follows them. -/
def tokenize : Text → List Token × Bool
  | [] => ([], false)
  | [.scalar '\\'] => ([], true)
  | .scalar '\\' :: g :: rest => (tokenize rest).map (.escape g :: ·) id
  | g :: rest => (tokenize rest).map (.plain g :: ·) id

/-! ### Flags -/

/-- What a pattern can switch on by a letter. -/
inductive Flag where
  | ignoreCase
  | locale
  | lines
  | dotAll
  | spaced
  | ascii
  | template
  | unicode
deriving DecidableEq

/-- The flag of a letter. -/
def Flag.ofChar? : Char → Option Flag
  | 'i' => some .ignoreCase
  | 'L' => some .locale
  | 'm' => some .lines
  | 's' => some .dotAll
  | 'x' => some .spaced
  | 'a' => some .ascii
  | 't' => some .template
  | 'u' => some .unicode
  | _ => none

/-- Whether the flag chooses an alphabet; at most one such flag is on. -/
def Flag.choosesAlphabet (flag : Flag) : Bool :=
  flag = .ascii || flag = .locale || flag = .unicode

/-- The flags that are on. -/
abbrev Mode := List Flag

/-- The mode inside a group that switches flags on and off. -/
def Mode.adjust (mode : Mode) (on off : List Flag) : Mode :=
  let kept := if on.any Flag.choosesAlphabet then mode.filter (!·.choosesAlphabet) else mode
  (kept ++ on).filter (!off.contains ·)

/-- How characters are compared in a mode. -/
def Mode.caseRule (mode : Mode) : CaseRule :=
  if !mode.contains .ignoreCase then .exact
  else if mode.contains .ascii then .foldAscii
  else .fold

/-! ### Widths -/

/-- The least and the greatest number of characters that a node can match. -/
structure Width where
  least : Nat
  most : Nat
deriving DecidableEq

/-- A bound above every width; what is unbounded counts as this. -/
def Width.limit : Nat := 0x10000000000000000

/-- The width of one part after the other. -/
def Width.plus (a b : Width) : Width :=
  ⟨min (a.least + b.least) limit, min (a.most + b.most) limit⟩

/-- The width of a choice. -/
def Width.choice (a b : Width) : Width := ⟨min a.least b.least, max a.most b.most⟩

/-- The width of a repetition. -/
def Width.times (body : Width) (least : Nat) (most : Option Nat) : Width :=
  ⟨min (body.least * least) limit,
   match most with
   | some n => min (body.most * n) limit
   | none => if body.most = 0 then 0 else limit⟩

/-! ### The state of reading -/

/-- What is still to be read of a pattern, and what has been learned from the part before. -/
structure Reader where
  tokens : List Token
  /-- The position of the next token. -/
  position : Nat
  /-- Whether a lone backslash follows the tokens. -/
  dangling : Bool
  /-- The flags of the pattern as a whole. -/
  flags : List Flag
  /-- The widths of the groups in the order in which they open; an open group has none yet. -/
  groups : List (Option Width)
  /-- The numbers of the named groups. -/
  names : List (Text × Nat)
  /-- Inside of a lookbehind, the number from which on groups belong to it. -/
  lookbehind : Option Nat
  /-- The group numbers that conditions name, with their positions. -/
  conditions : List (Nat × Nat)

/-- A step of reading. -/
abbrev Reading := StateT Reader (Except Fault)

/-- Faults at a position. -/
def complainAt {α : Type} (complaint : Complaint) (position : Nat) : Reading α :=
  throw (.malformed complaint (some position))

/-- Faults so many characters before the next token. -/
def complain {α : Type} (complaint : Complaint) (back : Nat) : Reading α := do
  complainAt complaint ((← get).position - back)

/-- Faults if nothing but a lone backslash is left. -/
def checkDangling : Reading Unit := do
  let r ← get
  if r.tokens.isEmpty && r.dangling then complainAt .danglingEscape r.position

/-- The next token, which stays. -/
def peek : Reading (Option Token) := do
  return (← get).tokens.head?

/-- Takes the next token. -/
def next : Reading (Option Token) := do
  let r ← get
  match r.tokens with
  | [] => return none
  | token :: rest =>
    set { r with tokens := rest, position := r.position + token.text.length }
    checkDangling
    return some token

/-- Takes the next token if it is the given character. -/
def accept (c : Char) : Reading Bool := do
  if (← peek) = some (.char c) then
    let _ ← next
    return true
  else return false

/-- Takes characters that satisfy a test, at most so many. -/
def takeUpTo (p : Char → Bool) : (most : Nat) → Reading (List Char)
  | 0 => return []
  | most + 1 => do
    match ← peek with
    | some (.char c) =>
      if p c then
        let _ ← next
        return c :: (← takeUpTo p most)
      else return []
    | _ => return []

/-- Takes all digits that follow. -/
def takeDigits : Reading (List Char) := do
  takeUpTo (·.isDigit) (← get).tokens.length

/-- Takes the glyphs of a name and the terminator after it. -/
def nameUntil (terminator : Char) (what : String) : (fuel : Nat) → (found : Text) →
    Reading Text
  | 0, _ => complain (.missingName what) 0
  | fuel + 1, found => do
    match ← next with
    | none =>
      if found.isEmpty then complain (.missingName what) 0
      else complain (.unterminatedName terminator) found.length
    | some token =>
      if token = .char terminator then
        if found.isEmpty then complain (.missingName what) 1 else return found
      else nameUntil terminator what fuel (found ++ token.text)

/-- Takes a name and the terminator after it. -/
def takeName (terminator : Char) (what : String) : Reading Text := do
  nameUntil terminator what ((← get).tokens.length + 1) []

/-! ### Groups -/

/-- The number that the next group will have. -/
def Reader.groupCount (r : Reader) : Nat := r.groups.length + 1

/-- The width of a group that has been closed. -/
def Reader.closedWidth? (r : Reader) (index : Nat) : Option Width :=
  if index = 0 then none else (r.groups[index - 1]?).join

/-- Faults if a lookbehind refers to a group of its own. -/
def checkLookbehind (index : Nat) : Reading Unit := do
  let r ← get
  match r.lookbehind with
  | none => return ()
  | some limit =>
    if (r.closedWidth? index).isNone then complain .openReference 0
    else if limit ≤ index then complain .sameLookbehindReference 0

/-- Opens the next group and tells its number. -/
def openGroup (name : Option Text) : Reading Nat := do
  let r ← get
  let index := r.groupCount
  match name with
  | none => set { r with groups := r.groups ++ [none] }
  | some name =>
    match r.names.lookup name with
    | some previous => complain (.redefinedGroup name index previous) (name.length + 1)
    | none =>
      set { r with groups := r.groups ++ [none], names := (name, index) :: r.names }
  return index

/-- Closes a group, whose width is now known. -/
def closeGroup (index : Nat) (width : Width) : Reading Unit :=
  modify fun r => { r with groups := r.groups.set (index - 1) (some width) }

end HangulLint.Pattern
