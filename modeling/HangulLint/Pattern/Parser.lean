import HangulLint.Pattern.Escape

/-!
# From text to pattern

A pattern is a choice of sequences, a sequence a list of parts, each of which may be repeated.
Reading goes from left to right and stops at the first fault; what can only be judged when all
has been read comes last.

* `quantified` — the part before a repetition sign, repeated;
* `grouping` — everything that an opening parenthesis begins;
* `parse` — the tree of a pattern.
-/

namespace HangulLint.Pattern

/-! ### Repetition -/

/-- The least repetition count that is refused. -/
def repeatLimit : Nat := 0xFFFFFFFF

/-- A repetition count within its limit. -/
def repeatCount (digits : List Char) : Reading Nat :=
  let count := numberOf 10 digits
  if maxNumeralDigits < digits.length then throw (.tooManyDigits digits.length)
  else if repeatLimit ≤ count then throw .tooManyRepeats
  else return count

/-- The counts in braces, whose opening has been taken; `none`, with nothing taken, where braces
do not hold counts. -/
def bracedCounts : Reading (Option (Nat × Option Nat)) := do
  let opened ← get
  if opened.tokens.head? = some (.char '}') then return none
  else
    let low ← takeDigits
    let high ← if ← accept ',' then takeDigits else pure low
    if ← accept '}' then
      let least ← if low.isEmpty then pure 0 else repeatCount low
      if high.isEmpty then return some (least, none)
      else
        let most ← repeatCount high
        if most < least then complainAt .reversedRepeat opened.position
        else return some (least, some most)
    else
      set opened
      return none

/-- The counts that a repetition sign stands for; `none` where an opening brace is itself. -/
def repeatCounts (sign : Char) : Reading (Option (Nat × Option Nat)) :=
  match sign with
  | '?' => return some (0, some 1)
  | '*' => return some (0, none)
  | '+' => return some (1, none)
  | _ => bracedCounts

/-- How a further sign after the counts makes the repetition choose. -/
def repeatGreed : Reading Greed := do
  if ← accept '?' then return .lazy
  else if ← accept '+' then return .possessive
  else return .greedy

/-- The name of a repetition in complaints. -/
def Greed.operator : Greed → String
  | .greedy => "MAX_REPEAT"
  | .lazy => "MIN_REPEAT"
  | .possessive => "POSSESSIVE_REPEAT"

/-- The parts with the last of them repeated as a sign says, the last part first. The sign has
been taken. -/
def quantified (mode : Mode) (sign : Char) (found : List Part) : Reading (List Part) := do
  let place := (← get).position - 1
  match ← repeatCounts sign with
  | none => return Part.literal mode sign.toNat :: found
  | some (least, most) =>
    match found with
    | [] => complainAt .nothingToRepeat place
    | part :: rest =>
      match part.kind with
      | .anchor => complainAt .nothingToRepeat place
      | .repetition => complainAt .multipleRepeat place
      | .plain =>
        let greed ← repeatGreed
        let node := Node.times least most greed part.node
        let own := if mode.contains .template then [.templateRepeat greed.operator] else []
        return ⟨node, part.width.times least most, .repetition, own ++ part.complaints⟩ :: rest

/-! ### Flags -/

/-- Whether a token is a letter. -/
def Token.isAlphabetic : Token → Bool
  | .plain g => isLetter g.code
  | .escape _ => false

/-- The flag that a token stands for. -/
def Token.flag? : Token → Option Flag
  | .char c => Flag.ofChar? c
  | _ => none

/-- The flag of a token, or the complaint about a token that is none. -/
def flagOf (token : Token) (otherwise : Complaint) : Reading Flag :=
  match token.flag? with
  | some flag => return flag
  | none =>
    complain (if token.isAlphabetic then .unknownFlag else otherwise) token.text.length

/-- The flags to switch on, of which the first has been taken, and the sign that ends them. -/
def flagsOn : (fuel : Nat) → (on : List Flag) → Flag → Reading (List Flag × Char)
  | 0, _, _ => complain .missingFlagEnd 0
  | fuel + 1, on, flag => do
    let all := on ++ [flag]
    if flag = .locale then complain .localeFlag 0
    else if flag.choosesAlphabet && all.any fun f => f.choosesAlphabet && f != flag then
      complain .clashingFlags 0
    else
      match ← next with
      | none => complain .missingFlagEnd 0
      | some token =>
        if token = .char ')' then return (all, ')')
        else if token = .char ':' then return (all, ':')
        else if token = .char '-' then return (all, '-')
        else flagsOn fuel all (← flagOf token .missingFlagEnd)

/-- The flags to switch off, of which the first has been taken, up to the colon. -/
def flagsOff : (fuel : Nat) → (off : List Flag) → Flag → Reading (List Flag)
  | 0, _, _ => complain .missingColon 0
  | fuel + 1, off, flag => do
    if flag.choosesAlphabet then complain .alphabetFlagOff 0
    else
      match ← next with
      | none => complain .missingColon 0
      | some token =>
        if token = .char ':' then return off ++ [flag]
        else flagsOff fuel (off ++ [flag]) (← flagOf token .missingColon)

/-- The flags to switch off after a minus sign. -/
def flagsAfterMinus : Reading (List Flag) := do
  match ← next with
  | none => complain .missingFlag 0
  | some token => flagsOff ((← get).tokens.length + 1) [] (← flagOf token .missingFlag)

/-- The flags that a group switches on and off, the first token taken; `none` where they are
flags of the whole pattern, which have then been switched on. -/
def groupFlags (token : Token) : Reading (Option (List Flag × List Flag)) := do
  let (on, sign) ← if token = .char '-' then pure ([], '-')
    else flagsOn ((← get).tokens.length + 1) [] (← flagOf token .missingFlagEnd)
  if sign = ')' then
    modify fun r => { r with flags := r.flags ++ on }
    return none
  else if on.contains .template then complain .globalFlagOn 1
  else
    let off ← if sign = '-' then flagsAfterMinus else pure []
    if off.contains .template then complain .globalFlagOff 1
    else if on.any off.contains then complain .flagOnAndOff 1
    else return some (on, off)

/-! ### Groups -/

/-- Reads what a group holds, under a mode. -/
abbrev Body := Mode → Reading Part

/-- What a group holds, up to the parenthesis that closes it. -/
def closed (opened : Nat) (content : Reading Part) : Reading Part := do
  let part ← content
  if ← accept ')' then return part else complainAt .unterminatedGroup opened

/-- A group whose text can be referred to. -/
def capture (body : Body) (mode : Mode) (opened : Nat) (name : Option Text) :
    Reading Part := do
  let index ← openGroup name
  let part ← closed opened (body mode)
  closeGroup index part.width
  return ⟨.group index part.node, part.width, .plain, part.complaints⟩

/-- Faults unless a name is one that groups may have. -/
def checkGroupName (name : Text) : Reading Unit := do
  if !name.isIdentifier then complain (.badGroupName name) (name.length + 1)

/-- The number of the group with a name. -/
def namedGroup (name : Text) : Reading Nat := do
  checkGroupName name
  match (← get).names.lookup name with
  | some index => return index
  | none => complain (.unknownGroup name) (name.length + 1)

/-- A reference to a group by its name, up to the closing parenthesis. -/
def namedReference (mode : Mode) : Reading Part := do
  let name ← takeName ')' "group name"
  let index ← namedGroup name
  match (← get).closedWidth? index with
  | none => complain .openReference (name.length + 1)
  | some width =>
    checkLookbehind index
    return ⟨.again index mode.caseRule, width, .plain, []⟩

/-- Skips a comment, up to the closing parenthesis. The fuel bounds its length. -/
def skipComment (opened : Nat) : (fuel : Nat) → Reading Unit
  | 0 => complainAt .unterminatedComment opened
  | fuel + 1 => do
    match ← peek with
    | none => complainAt .unterminatedComment opened
    | some _ => if (← next) = some (.char ')') then return () else skipComment opened fuel

/-- A test on what follows. -/
def lookahead (body : Body) (mode : Mode) (opened : Nat) (negated : Bool) : Reading Part := do
  let part ← closed opened (body mode)
  return ⟨.ahead negated part.node, ⟨0, 0⟩, .plain, part.complaints⟩

/-- The least number of characters that is too far to look behind. -/
def lookbehindLimit : Nat := 0x100000000

/-- A test on what precedes, whose length has to be certain. -/
def lookbehind (body : Body) (mode : Mode) (opened : Nat) (negated : Bool) : Reading Part := do
  let outer := (← get).lookbehind
  modify fun r => { r with lookbehind := some (outer.getD r.groupCount) }
  let part ← body mode
  modify fun r => { r with lookbehind := outer }
  let part ← closed opened (pure part)
  let own :=
    if lookbehindLimit ≤ part.width.least then [.remoteLookbehind]
    else if part.width.least ≠ part.width.most then [.variableLookbehind]
    else []
  return ⟨.behind negated part.width.least part.node, ⟨0, 0⟩, .plain, own ++ part.complaints⟩

/-- The least number that no group has. -/
def groupLimit : Nat := 0x3FFFFFFF

/-- The group that a condition names, up to the closing parenthesis. -/
def conditionGroup : Reading Nat := do
  let name ← takeName ')' "group name"
  let back := name.length + 1
  if name.isIdentifier then namedGroup name
  else
    match name.int? with
    | some (.ofNat 0) => complain .badGroupNumber back
    | some (.ofNat index) =>
      if groupLimit ≤ index then complain (.invalidReference index) back
      else
        let r ← get
        if (r.conditions.lookup index).isNone then
          set { r with conditions := r.conditions ++ [(index, r.position - back)] }
        return index
    | _ => complain (.badGroupName name) back

/-- A choice that depends on whether a group has matched. -/
def conditional (branch : Body) (mode : Mode) (opened : Nat) : Reading Part := do
  let index ← conditionGroup
  checkLookbehind index
  let yes ← branch mode
  let no? ← if ← accept '|' then some <$> branch mode else pure none
  if no?.isSome && (← peek) = some (.char '|') then complain .thirdBranch 0
  let no := no?.getD (Part.sequence [])
  let width : Width := match no? with
    | some no => yes.width.choice no.width
    | none => ⟨0, yes.width.most⟩
  closed opened (pure ⟨.ifGroup index yes.node no.node, width, .plain,
    yes.complaints ++ no.complaints⟩)

/-- A group that switches flags on and off, or flags of the whole pattern, which have to come
first. -/
def flagged (body : Body) (mode : Mode) (opened : Nat) (atStart : Bool) (token : Token) :
    Reading (Option Part) := do
  match ← groupFlags token with
  | none => if atStart then return none else complainAt .misplacedFlags opened
  | some (on, off) => return some (← closed opened (body (mode.adjust on off)))

/-- What an opening parenthesis begins, which has been taken; `none` for what matches nothing by
itself. `body` reads a choice, `branch` one sequence of it. -/
def grouping (body branch : Body) (mode : Mode) (atStart : Bool) : Reading (Option Part) := do
  let opened := (← get).position - 1
  if !(← accept '?') then return some (← capture body mode opened none)
  else
    match ← next with
    | none => complain .unexpectedEnd 0
    | some (.char ':') => return some (← closed opened (body mode))
    | some (.char '>') =>
      let part ← closed opened (body mode)
      return some ⟨.atomic part.node, part.width, .plain, part.complaints⟩
    | some (.char '#') =>
      skipComment opened ((← get).tokens.length + 1)
      return none
    | some (.char '=') => return some (← lookahead body mode opened false)
    | some (.char '!') => return some (← lookahead body mode opened true)
    | some (.char '(') => return some (← conditional branch mode opened)
    | some (.char '<') =>
      match ← next with
      | none => complain .unexpectedEnd 0
      | some (.char '=') => return some (← lookbehind body mode opened false)
      | some (.char '!') => return some (← lookbehind body mode opened true)
      | some other =>
        complain (.unknownExtension (.scalar '<' :: other.text)) (other.text.length + 2)
    | some (.char 'P') =>
      if ← accept '<' then
        let name ← takeName '>' "group name"
        checkGroupName name
        return some (← capture body mode opened (some name))
      else if ← accept '=' then return some (← namedReference mode)
      else
        match ← next with
        | none => complain .unexpectedEnd 0
        | some other =>
          complain (.unknownExtension (.scalar 'P' :: other.text)) (other.text.length + 2)
    | some token =>
      if token = .char '-' || token.flag?.isSome then flagged body mode opened atStart token
      else complain (.unknownExtension token.text) (token.text.length + 1)

/-! ### Sequences and choices -/

/-- Whether a token is skipped where the pattern is written with spaces. -/
def Token.isSpace : Token → Bool
  | .plain g => g.code = 0x20 || (0x09 ≤ g.code && g.code ≤ 0x0D)
  | .escape _ => false

/-- Skips the rest of a line. The fuel bounds its length. -/
def skipLine : (fuel : Nat) → Reading Unit
  | 0 => return ()
  | fuel + 1 => do
    match ← next with
    | none => return ()
    | some token => if token = .char '\n' then return () else skipLine fuel

/-- The part that a single sign stands for. -/
def sign (mode : Mode) (c : Char) : Part :=
  match c with
  | '.' => Part.one (.dot (mode.contains .dotAll))
  | '^' => Part.place (if mode.contains .lines then .lineStart else .textStart)
  | '$' => Part.place (if mode.contains .lines then .lineEnd else .lastLineEnd)
  | _ => Part.literal mode c.toNat

mutual

/-- A choice of sequences. At the top of a pattern the mode is that of the pattern's flags; they
are read at the start of the first sequence. The fuel bounds the number of tokens. -/
def choice (host : Host) : (fuel : Nat) → Mode → (top first : Bool) → Reading Part
  | 0, _, _, _ => complain .unexpectedEnd 0
  | fuel + 1, mode, top, first => do
    let part ← sequence host fuel mode top first []
    if ← accept '|' then
      let flags := (← get).flags
      let other ← choice host fuel (if top then flags else mode) top false
      return Part.either part other
    else return part

/-- The parts up to a bar, a closing parenthesis or the end, after those found so far, which are
given backwards. -/
def sequence (host : Host) : (fuel : Nat) → Mode → (top first : Bool) → (found : List Part) →
    Reading Part
  | 0, _, _, _, _ => complain .unexpectedEnd 0
  | fuel + 1, mode, top, first, found => do
    match ← peek with
    | none => return Part.sequence found.reverse
    | some token =>
      if token = .char '|' || token = .char ')' then return Part.sequence found.reverse
      else
        let _ ← next
        if mode.contains .spaced && token.isSpace then sequence host fuel mode top first found
        else if mode.contains .spaced && token = .char '#' then
          skipLine ((← get).tokens.length + 1)
          sequence host fuel mode top first found
        else
          match token with
          | .escape g =>
            let part ← atomEscape host mode g
            sequence host fuel mode top first (part :: found)
          | .char '[' =>
            let part ← charSet host mode
            sequence host fuel mode top first (part :: found)
          | .char '(' =>
            let part ← grouping (fun m => choice host fuel m false false)
              (fun m => sequence host fuel m false false []) mode (first && found.isEmpty)
            let flags := (← get).flags
            sequence host fuel (if top then flags else mode) top first (part.toList ++ found)
          | .plain (.stray b) =>
            let part := Part.literal mode (Glyph.stray b).code
            sequence host fuel mode top first (part :: found)
          | .char c =>
            if c = '*' || c = '+' || c = '?' || c = '{' then
              let found ← quantified mode c found
              sequence host fuel mode top first found
            else sequence host fuel mode top first (sign mode c :: found)

end

/-- A pattern up to its end. -/
def whole (host : Host) : Reading Node := do
  checkDangling
  let part ← choice host (2 * (← get).tokens.length + 4) [] true true
  let r ← get
  if r.flags.contains .ascii && r.flags.contains .unicode then throw .clashingAlphabets
  else if !r.tokens.isEmpty then complain .unbalanced 0
  else
    match r.conditions.find? fun condition => r.groupCount ≤ condition.1 with
    | some (index, position) => complainAt (.invalidReference index) position
    | none =>
      match part.complaints with
      | complaint :: _ => throw (.malformed complaint none)
      | [] => return part.node

/-- The tree of a pattern. -/
def parse (host : Host) (pattern : Text) : Except Fault Node :=
  match host.overflow? pattern with
  | some message => .error (.tooDeep message)
  | none =>
    let (tokens, dangling) := tokenize pattern
    (whole host).run' ⟨tokens, 0, dangling, [], [], [], none, []⟩

end HangulLint.Pattern
