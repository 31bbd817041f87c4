import HangulLint.Pattern.Matcher
import HangulLint.Pattern.Parser
import HangulLint.Text.Line
import HangulLint.Text.Pieces

/-!
# The rule for lines

A line is reported when, trimmed, it holds none of the excluded words, holds a double quote and
matches the target pattern somewhere. What is reported is the whole trimmed line.

* `Rule` — the excluded words and the target;
* `Rule.report?` — what is reported of a line, if anything;
* `Rule.standard` — Hangul in string literals, outside of comments and debug output.
-/

namespace HangulLint

/-- Which lines are reported. -/
structure Rule where
  /-- Lines with one of these words are passed over. -/
  excluded : List (List Char)
  /-- What has to occur in a line. -/
  target : Pattern.Node

namespace Rule

/-- Whether a text holds one of the excluded words. -/
def excludes (rule : Rule) (text : List Char) : Bool := rule.excluded.any (occursIn · text)

/-- Whether a trimmed line is reported. -/
def flags (rule : Rule) (text : List Char) : Bool :=
  !rule.excludes text && text.contains '"' && rule.target.search text

/-- What is reported of a line: the trimmed line, if the rule flags it. -/
def report? (rule : Rule) (line : List Char) : Option (List Char) :=
  let text := trimLine line
  if rule.flags text then some text else none

/-- Whether anything is reported of a line. -/
def reports (rule : Rule) (line : List Char) : Bool := (rule.report? line).isSome

/-! ### The standard rule -/

/-- The standard target as a pattern is written: the compatibility letters and the syllables. -/
def standardPattern : String := "[ㄱ-ㅎ가-힣]"

/-- The standard target: a compatibility consonant or a syllable. -/
def standardTarget : Pattern.Node :=
  .one ⟨false, [.range 0x3131 0x314E, .range 0xAC00 0xD7A3], .exact⟩

/-- Comments, debug output, and calls whose texts no player sees. -/
def standardWords : List String :=
  ["//", "/*", "*/", "Debug.", "PrintLog(", "PrintError(", "PrintLogError(", "Obsolete(",
   "UIManager.Instance.EditorShowSystemMessage", "UnityEditor"]

/-- Hangul in string literals. -/
def standard : Rule := ⟨standardWords.map String.toList, standardTarget⟩

end Rule

end HangulLint
