import HangulLint.Text.Blank
import HangulLint.Text.CaseFold
import HangulLint.Text.Decimal
import HangulLint.Text.Word

/-!
# Patterns

The tree of a regular expression. Every node says by itself what it matches: the modes that a
pattern can switch on and off (case, lines, the dot, the alphabet) have been worked into the
nodes that they concern.

* `CharTest` — a test on one character, with `CharTest.accepts`;
* `Anchor` — a test on a position, with `Anchor.holds`;
* `Node` — the tree.
-/

namespace HangulLint.Pattern

/-- The kinds of characters that patterns know by a letter. -/
inductive CharKind where
  | digit
  | blank
  | word
deriving DecidableEq

/-- Whether a code point is of a kind, within ASCII alone or within all of Unicode. -/
def CharKind.holds (kind : CharKind) (ascii : Bool) (code : Nat) : Bool :=
  match kind with
  | .digit => if ascii then 0x30 ≤ code && code ≤ 0x39 else isDecimal code
  | .blank => if ascii then (0x09 ≤ code && code ≤ 0x0D) || code == 0x20
      else blankRanges.covers code
  | .word => if ascii then code < 0x80 && isWord code else isWord code

/-- How a test treats letter case. -/
inductive CaseRule where
  | exact
  | foldAscii
  | fold
deriving DecidableEq

/-- The code points that count as `code` under a rule. -/
def CaseRule.forms (rule : CaseRule) (code : Nat) : List Nat :=
  match rule with
  | .exact => [code]
  | .foldAscii => asciiForms code
  | .fold => caseForms code

/-- The representative of the code points that a repeated group takes for `code`. -/
def CaseRule.key (rule : CaseRule) (code : Nat) : Nat :=
  match rule with
  | .exact => code
  | .foldAscii => asciiLower code
  | .fold => lowerCase code

/-- An entry of a character test. -/
inductive CharItem where
  /-- The code points from `first` to `last`. -/
  | range (first last : Nat)
  /-- The characters of a kind, or those that are not of it. -/
  | kind (kind : CharKind) (negated ascii : Bool)
deriving DecidableEq

/-- Whether an entry covers a code point. -/
def CharItem.accepts (rule : CaseRule) (code : Nat) : CharItem → Bool
  | .range first last => (rule.forms code).any fun form => first ≤ form && form ≤ last
  | .kind k negated ascii => k.holds ascii code != negated

/-- A test on one character: some entry covers it, or none if the test is negated. -/
structure CharTest where
  negated : Bool
  items : List CharItem
  rule : CaseRule
deriving DecidableEq

/-- Whether a character passes a test. -/
def CharTest.accepts (test : CharTest) (c : Char) : Bool :=
  test.items.any (·.accepts test.rule c.toNat) != test.negated

/-- The test for a single code point. -/
def CharTest.literal (rule : CaseRule) (code : Nat) : CharTest := ⟨false, [.range code code], rule⟩

/-- The test that the dot stands for: any character, or any but a line feed. -/
def CharTest.dot (withLineFeed : Bool) : CharTest :=
  ⟨true, if withLineFeed then [] else [.range 0x0A 0x0A], .exact⟩

/-- The tests on a position. -/
inductive Anchor where
  | textStart
  | lineStart
  | textEnd
  /-- The end of the text, or before a line feed that ends it. -/
  | lastLineEnd
  | lineEnd
  /-- Between a word character and something else. -/
  | wordEdge (ascii : Bool)
  /-- Not between a word character and something else. -/
  | inWord (ascii : Bool)
deriving DecidableEq

/-- Whether an anchor holds between two parts of a text; the first is given backwards. An empty
text has neither word edges nor places that are none. -/
def Anchor.holds (before after : List Char) : Anchor → Bool
  | .textStart => before.isEmpty
  | .lineStart => before.head?.all (· = '\n')
  | .textEnd => after.isEmpty
  | .lastLineEnd => after.isEmpty || after = ['\n']
  | .lineEnd => after.head?.all (· = '\n')
  | .wordEdge ascii =>
    !(before.isEmpty && after.isEmpty) && wordAt ascii before != wordAt ascii after
  | .inWord ascii => !(before.isEmpty && after.isEmpty) && wordAt ascii before == wordAt ascii after
where
  /-- Whether the nearest character is a word character. -/
  wordAt (ascii : Bool) (s : List Char) : Bool :=
    s.head?.any fun c => CharKind.word.holds ascii c.toNat

/-- How a repetition chooses among its possible counts. -/
inductive Greed where
  /-- The most that lets the rest match. -/
  | greedy
  /-- The least that lets the rest match. -/
  | lazy
  /-- The most, whether or not the rest matches. -/
  | possessive
deriving DecidableEq

/-- The tree of a pattern. -/
inductive Node where
  | nothing
  | one (test : CharTest)
  | anchor (place : Anchor)
  | seq (first second : Node)
  | either (first second : Node)
  /-- A group whose text can be referred to by its number. -/
  | group (index : Nat) (body : Node)
  /-- The text of a group once more. -/
  | again (index : Nat) (rule : CaseRule)
  /-- The body from `least` to `most` times. -/
  | times (least : Nat) (most : Option Nat) (greed : Greed) (body : Node)
  /-- The body as it first matches, without a second choice. -/
  | atomic (body : Node)
  /-- A test on what follows. -/
  | ahead (negated : Bool) (body : Node)
  /-- A test on the `width` characters before. -/
  | behind (negated : Bool) (width : Nat) (body : Node)
  /-- A choice that depends on whether a group has matched. -/
  | ifGroup (index : Nat) (yes no : Node)
deriving DecidableEq

/-- The nodes one after the other. -/
def Node.sequence : List Node → Node
  | [] => .nothing
  | [node] => node
  | node :: more => .seq node (sequence more)

end HangulLint.Pattern
