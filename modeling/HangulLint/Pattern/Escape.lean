import HangulLint.Pattern.Reader

/-!
# Escapes and character sets

A backslash gives a letter a meaning and takes the meaning of a sign away. Letters without a
meaning are faults, so that they stay free for later use.

* `atomEscape` — an escape among the other parts of a pattern;
* `setEscape` — an escape in a character set, where positions and groups have no place;
* `charSet` — a character set from its opening bracket on.
-/

namespace HangulLint.Pattern

/-- What a part is to a repetition sign behind it. -/
inductive PartKind where
  /-- It can be repeated. -/
  | plain
  /-- It is a test on a position, and there is nothing to repeat. -/
  | anchor
  /-- It is a repetition already. -/
  | repetition
deriving DecidableEq

/-- A part of a pattern that has been read. -/
structure Part where
  node : Node
  width : Width
  kind : PartKind
  /-- What is wrong with it but told only if the whole pattern is well formed. -/
  complaints : List Complaint

/-- The part that tests one character. -/
def Part.one (test : CharTest) : Part := ⟨.one test, ⟨1, 1⟩, .plain, []⟩

/-- The part that matches one code point. -/
def Part.literal (mode : Mode) (code : Nat) : Part := .one (.literal mode.caseRule code)

/-- The part that tests a position. -/
def Part.place (place : Anchor) : Part := ⟨.anchor place, ⟨0, 0⟩, .anchor, []⟩

/-- Several parts one after the other. -/
def Part.sequence (parts : List Part) : Part :=
  ⟨Node.sequence (parts.map (·.node)), (parts.map (·.width)).foldl Width.plus ⟨0, 0⟩, .plain,
    parts.flatMap (·.complaints)⟩

/-- A choice between two parts. -/
def Part.either (a b : Part) : Part :=
  ⟨.either a.node b.node, a.width.choice b.width, .plain, a.complaints ++ b.complaints⟩

/-! ### Escapes -/

/-- Whether a character is a hexadecimal digit. -/
def isHexDigit (c : Char) : Bool :=
  c.isDigit || ('a' ≤ c && c ≤ 'f') || ('A' ≤ c && c ≤ 'F')

/-- Whether a character is an octal digit. -/
def isOctalDigit (c : Char) : Bool := '0' ≤ c && c ≤ '7'

/-- The value of a digit of any base up to sixteen. -/
def digitOf (c : Char) : Nat :=
  if c.isDigit then c.toNat - 0x30
  else if 'a' ≤ c && c ≤ 'f' then c.toNat - 0x61 + 10
  else if 'A' ≤ c && c ≤ 'F' then c.toNat - 0x41 + 10
  else 0

/-- The number that digits write in a base. -/
def numberOf (base : Nat) (digits : List Char) : Nat :=
  digits.foldl (fun value c => value * base + digitOf c) 0

/-- The code point of a letter that names a control character. -/
def controlEscape? : Char → Option Nat
  | 'a' => some 0x07
  | 't' => some 0x09
  | 'n' => some 0x0A
  | 'v' => some 0x0B
  | 'f' => some 0x0C
  | 'r' => some 0x0D
  | '\\' => some 0x5C
  | _ => none

/-- The kind of characters that a letter names; a capital names all others. -/
def kindEscape? (mode : Mode) (c : Char) : Option CharItem :=
  let kind? : Option CharKind := match c.toLower with
    | 'd' => some .digit
    | 's' => some .blank
    | 'w' => some .word
    | _ => none
  kind?.map fun kind => .kind kind c.isUpper (mode.contains .ascii)

/-- The test on a position that a letter names. -/
def anchorEscape? (mode : Mode) : Char → Option Anchor
  | 'A' => some .textStart
  | 'Z' => some .textEnd
  | 'b' => some (.wordEdge (mode.contains .ascii))
  | 'B' => some (.inWord (mode.contains .ascii))
  | _ => none

/-- The least number that is none of the machine. -/
def machineLimit : Nat := 0x80000000

/-- The code point of exactly so many hexadecimal digits after a letter. -/
def hexEscape (letter : Char) (count : Nat) : Reading Nat := do
  let digits ← takeUpTo isHexDigit count
  let written := Text.ofChars ('\\' :: letter :: digits)
  let code := numberOf 16 digits
  if digits.length < count then complain (.incompleteEscape written) written.length
  else if machineLimit ≤ code then throw .codeTooLarge
  else if 0x10FFFF < code then complain (.badEscape written) written.length
  else return code

/-- The code point of a character name in braces. No name with a stray byte can be looked up. -/
def namedEscape (host : Host) : Reading Nat := do
  if ← accept '{' then
    let name ← takeName '}' "character name"
    match Text.chars? name with
    | none => complain (.badEscape "\\N") 2
    | some chars =>
      match host.named? chars with
      | some c => return c.toNat
      | none => complain (.unknownCharacterName name) (name.length + 4)
  else complain .missingBrace 0

/-- The code point of an octal number, which has to fit into a byte. -/
def octalEscape (digits : List Char) : Reading Nat :=
  let code := numberOf 8 digits
  if 0xFF < code then
    complain (.octalTooLarge (Text.ofChars ('\\' :: digits))) (digits.length + 1)
  else return code

/-- What a letter or sign stands for, if no rule of its own says otherwise. -/
def codeEscape (host : Host) (c : Char) : Reading Nat :=
  match c with
  | 'x' => hexEscape 'x' 2
  | 'u' => hexEscape 'u' 4
  | 'U' => hexEscape 'U' 8
  | 'N' => namedEscape host
  | _ =>
    if c.isAlpha || c.isDigit then complain (.badEscape (Text.ofChars ['\\', c])) 2
    else return c.toNat

/-- Three octal digits, a group number of up to two digits, or an octal number after a zero. -/
def numberEscape (mode : Mode) (first : Char) : Reading Part := do
  if first = '0' then
    let digits ← takeUpTo isOctalDigit 2
    return Part.literal mode (numberOf 8 (first :: digits))
  else
    let second ← takeUpTo Char.isDigit 1
    let third ← if !second.isEmpty && (first :: second).all isOctalDigit
      then takeUpTo isOctalDigit 1 else pure []
    if !third.isEmpty then
      return Part.literal mode (← octalEscape (first :: second ++ third))
    else
      let digits := first :: second
      let index := numberOf 10 digits
      let r ← get
      if index < r.groupCount then
        match r.closedWidth? index with
        | none => complain .openReference (digits.length + 1)
        | some width =>
          checkLookbehind index
          return ⟨.again index mode.caseRule, width, .plain, []⟩
      else complain (.invalidReference index) digits.length

/-- The part that an escape stands for. -/
def atomEscape (host : Host) (mode : Mode) : Glyph → Reading Part
  | .stray b => return Part.literal mode (Glyph.stray b).code
  | .scalar c => do
    match anchorEscape? mode c, kindEscape? mode c, controlEscape? c with
    | some place, _, _ => return Part.place place
    | _, some item, _ => return Part.one ⟨false, [item], mode.caseRule⟩
    | _, _, some code => return Part.literal mode code
    | _, _, _ =>
      if c.isDigit then numberEscape mode c else return Part.literal mode (← codeEscape host c)

/-! ### Character sets -/

/-- A member of a character set: a code point, which can begin or end a range, or a kind. -/
inductive Member where
  | code (code : Nat)
  | kind (item : CharItem)

/-- The entry of a member that stands for itself. -/
def Member.item : Member → CharItem
  | .code c => .range c c
  | .kind item => item

/-- The member that an escape stands for. -/
def setEscape (host : Host) (mode : Mode) : Glyph → Reading Member
  | .stray b => return .code (Glyph.stray b).code
  | .scalar c => do
    match kindEscape? mode c, controlEscape? c with
    | some item, _ => return .kind item
    | _, some code => return .code code
    | _, _ =>
      if c = 'b' then return .code 0x08
      else if isOctalDigit c then
        return .code (← octalEscape (c :: (← takeUpTo isOctalDigit 2)))
      else return .code (← codeEscape host c)

/-- The member that a token stands for. -/
def member (host : Host) (mode : Mode) : Token → Reading Member
  | .plain g => return .code g.code
  | .escape g => setEscape host mode g

/-- The entries up to the closing bracket. A bracket that comes first closes nothing. The fuel
bounds the number of entries. -/
def setItems (host : Host) (mode : Mode) (opened : Nat) :
    (fuel : Nat) → (items : List CharItem) → Reading (List CharItem)
  | 0, _ => complainAt .unterminatedSet opened
  | fuel + 1, items => do
    match ← next with
    | none => complainAt .unterminatedSet opened
    | some token =>
      if token = .char ']' && !items.isEmpty then return items
      else
        let first ← member host mode token
        if ← accept '-' then
          match ← next with
          | none => complainAt .unterminatedSet opened
          | some last =>
            if last = .char ']' then return items ++ [first.item, .range 0x2D 0x2D]
            else
              let range := token.text ++ .scalar '-' :: last.text
              match first, ← member host mode last with
              | .code low, .code high =>
                if high < low then complain (.badRange range) range.length
                else setItems host mode opened fuel (items ++ [.range low high])
              | _, _ => complain (.badRange range) range.length
        else setItems host mode opened fuel (items ++ [first.item])

/-- A character set, whose opening bracket has been taken. -/
def charSet (host : Host) (mode : Mode) : Reading Part := do
  let opened := (← get).position - 1
  let negated ← accept '^'
  let items ← setItems host mode opened ((← get).tokens.length + 1) []
  return Part.one ⟨negated, items, mode.caseRule⟩

end HangulLint.Pattern
