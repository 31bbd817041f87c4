import HangulLint.Text.Numeral
import HangulLint.Text.Quoted

/-!
# What can be wrong with a pattern

A complaint says what is wrong, a fault where. Positions count the glyphs from the start of the
pattern; in a pattern of several lines the message also tells line and column. Patterns and what
complaints quote of them are texts: stray bytes of a pattern stay what they are.
-/

namespace HangulLint.Pattern

/-- What is wrong with a pattern. -/
inductive Complaint where
  | danglingEscape
  | badEscape (escape : Text)
  | incompleteEscape (escape : Text)
  | octalTooLarge (escape : Text)
  | missingBrace
  | missingName (what : String)
  | unterminatedName (terminator : Char)
  | unknownCharacterName (name : Text)
  | unterminatedSet
  | badRange (range : Text)
  | unterminatedGroup
  | unterminatedComment
  | unbalanced
  | nothingToRepeat
  | multipleRepeat
  | reversedRepeat
  | unexpectedEnd
  | unknownExtension (extension : Text)
  | badGroupName (name : Text)
  | unknownGroup (name : Text)
  | redefinedGroup (name : Text) (index previous : Nat)
  | badGroupNumber
  | invalidReference (index : Int)
  | openReference
  | sameLookbehindReference
  | thirdBranch
  | misplacedFlags
  | localeFlag
  | clashingFlags
  | unknownFlag
  | missingFlag
  | missingFlagEnd
  | missingColon
  | globalFlagOn
  | globalFlagOff
  | alphabetFlagOff
  | flagOnAndOff
  | templateRepeat (operator : String)
  | variableLookbehind
  | remoteLookbehind
deriving DecidableEq

/-- The wording of a complaint. -/
def Complaint.text : Complaint → Text
  | .danglingEscape => "bad escape (end of pattern)"
  | .badEscape escape => "bad escape " ++ escape
  | .incompleteEscape escape => "incomplete escape " ++ escape
  | .octalTooLarge escape =>
    "octal escape value " ++ escape ++ " outside of range 0-0o377"
  | .missingBrace => "missing \x7b"
  | .missingName what => "missing " ++ Text.ofString what
  | .unterminatedName terminator =>
    "missing " ++ Text.ofChars [terminator] ++ ", unterminated name"
  | .unknownCharacterName name => "undefined character name " ++ Text.quoted name
  | .unterminatedSet => "unterminated character set"
  | .badRange range => "bad character range " ++ range
  | .unterminatedGroup => "missing ), unterminated subpattern"
  | .unterminatedComment => "missing ), unterminated comment"
  | .unbalanced => "unbalanced parenthesis"
  | .nothingToRepeat => "nothing to repeat"
  | .multipleRepeat => "multiple repeat"
  | .reversedRepeat => "min repeat greater than max repeat"
  | .unexpectedEnd => "unexpected end of pattern"
  | .unknownExtension extension => "unknown extension ?" ++ extension
  | .badGroupName name => "bad character in group name " ++ Text.quoted name
  | .unknownGroup name => "unknown group name " ++ Text.quoted name
  | .redefinedGroup name index previous =>
    "redefinition of group name " ++ Text.quoted name ++ " as group "
      ++ Text.ofNat index ++ "; was group " ++ Text.ofNat previous
  | .badGroupNumber => "bad group number"
  | .invalidReference index => "invalid group reference " ++ Text.ofInt index
  | .openReference => "cannot refer to an open group"
  | .sameLookbehindReference =>
    "cannot refer to group defined in the same lookbehind subpattern"
  | .thirdBranch => "conditional backref with more than two branches"
  | .misplacedFlags => "global flags not at the start of the expression"
  | .localeFlag => "bad inline flags: cannot use 'L' flag with a str pattern"
  | .clashingFlags => "bad inline flags: flags 'a', 'u' and 'L' are incompatible"
  | .unknownFlag => "unknown flag"
  | .missingFlag => "missing flag"
  | .missingFlagEnd => "missing -, : or )"
  | .missingColon => "missing :"
  | .globalFlagOn => "bad inline flags: cannot turn on global flag"
  | .globalFlagOff => "bad inline flags: cannot turn off global flag"
  | .alphabetFlagOff => "bad inline flags: cannot turn off flags 'a', 'u' and 'L'"
  | .flagOnAndOff => "bad inline flags: flag turned on and off"
  | .templateRepeat operator =>
    "internal: unsupported template operator " ++ Text.ofString operator
  | .variableLookbehind => "look-behind requires fixed-width pattern"
  | .remoteLookbehind => "looks too much behind"

/-- Why a text is no pattern. -/
inductive Fault where
  /-- The text breaks a rule of the pattern language, at a position if it is one place. -/
  | malformed (complaint : Complaint) (position : Option Nat)
  /-- A repetition count is out of bounds. -/
  | tooManyRepeats
  /-- A repetition count is written with more digits than numerals may have. -/
  | tooManyDigits (count : Nat)
  /-- A code point is so large that it is no number of the machine. -/
  | codeTooLarge
  /-- The pattern as a whole asks for two alphabets. -/
  | clashingAlphabets
  /-- The host's stack gives out on the pattern. -/
  | tooDeep (message : Text)
deriving DecidableEq

/-- The place of a position in a pattern, as messages tell it. -/
def placeText (pattern : Text) (position : Nat) : Text :=
  let before := pattern.take position
  let line := before.count (.scalar '\n') + 1
  let column := (before.reverse.takeWhile (· ≠ .scalar '\n')).length + 1
  " at position " ++ Text.ofNat position
    ++ if pattern.contains (.scalar '\n') then
        " (line " ++ Text.ofNat line ++ ", column " ++ Text.ofNat column ++ ")"
      else []

/-- The message of a fault in a given pattern. -/
def Fault.message (pattern : Text) : Fault → Text
  | .malformed complaint position =>
    complaint.text ++ (position.map (placeText pattern)).getD []
  | .tooManyRepeats => "the repetition number is too large"
  | .tooManyDigits count =>
    "Exceeds the limit (" ++ Text.ofNat maxNumeralDigits
      ++ " digits) for integer string conversion: value has " ++ Text.ofNat count
      ++ " digits; use sys.set_int_max_str_digits() to increase the limit"
  | .codeTooLarge => "Python int too large to convert to C int"
  | .clashingAlphabets => "ASCII and UNICODE flags are incompatible"
  | .tooDeep message => message

end HangulLint.Pattern
