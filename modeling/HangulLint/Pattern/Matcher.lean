import HangulLint.Pattern.Syntax

/-!
# Matching

A node is matched at a cursor and hands the cursor behind its text on to a continuation; when
the continuation refuses, the node makes its next choice. The choices come in a fixed order, so
what groups hold is determined.

* `Node.run` — one node, by recursion on the tree;
* `Node.search` — whether the pattern matches anywhere in a text.
-/

namespace HangulLint.Pattern

/-- A place in a text, with what the groups have matched so far. -/
structure Cursor where
  /-- What precedes the place, nearest first. -/
  before : List Char
  /-- What follows it. -/
  after : List Char
  /-- How many characters precede. -/
  position : Nat
  /-- The texts of the groups, the latest first. -/
  groups : List (Nat × List Char)

/-- The start of a text. -/
def Cursor.start (text : List Char) : Cursor := ⟨[], text, 0, []⟩

/-- The place one character further. -/
def Cursor.step (cursor : Cursor) (c : Char) (rest : List Char) : Cursor :=
  ⟨c :: cursor.before, rest, cursor.position + 1, cursor.groups⟩

/-- The place some characters back. -/
def Cursor.back : Nat → Cursor → Option Cursor
  | 0, cursor => some cursor
  | width + 1, cursor =>
    match cursor.before with
    | [] => none
    | c :: before => back width ⟨before, c :: cursor.after, cursor.position - 1, cursor.groups⟩

/-- The text of a group, if it has matched. -/
def Cursor.group? (cursor : Cursor) (index : Nat) : Option (List Char) :=
  cursor.groups.lookup index

/-- Records what a group has matched between two places. -/
def Cursor.close (index : Nat) (opened closed : Cursor) : Cursor :=
  let text := opened.after.take (closed.position - opened.position)
  ⟨closed.before, closed.after, closed.position, (index, text) :: closed.groups⟩

/-- The place behind a text that has to follow. -/
def Cursor.expect (rule : CaseRule) : List Char → Cursor → Option Cursor
  | [], cursor => some cursor
  | c :: more, cursor =>
    match cursor.after with
    | [] => none
    | d :: rest =>
      if rule.key c.toNat = rule.key d.toNat then expect rule more (cursor.step d rest) else none

/-- What takes over behind a node. -/
abbrev Continuation := Cursor → Option Cursor

/-- What matches at a cursor and goes on with a continuation. -/
abbrev Runner := Cursor → Continuation → Option Cursor

/-- The body from `least` to `most` times, `count` times so far. Beyond the least count a round
is only begun where the last one made progress; `last` is where that round began. The fuel bounds
the number of rounds. -/
def repeated (body : Runner) (least : Nat) (most : Option Nat) (greed : Greed) :
    (fuel count : Nat) → (last : Option Nat) → Runner
  | 0, _, _, cursor, next => next cursor
  | fuel + 1, count, last, cursor, next =>
    let mayGoOn := most.all (count < ·) && last != some cursor.position
    if count < least then
      match greed with
      | .possessive =>
        (body cursor some).bind fun c =>
          repeated body least most greed fuel (count + 1) last c next
      | _ => body cursor fun c => repeated body least most greed fuel (count + 1) last c next
    else if mayGoOn then
      let again (c : Cursor) : Option Cursor :=
        repeated body least most greed fuel (count + 1) (some cursor.position) c next
      match greed with
      | .greedy => (body cursor again).or (next cursor)
      | .lazy => (next cursor).or (body cursor again)
      | .possessive =>
        match body cursor some with
        | some c => again c
        | none => next cursor
    else next cursor

/-- Matches a node at a cursor and goes on with the continuation. -/
def Node.run : Node → Runner
  | .nothing, cursor, next => next cursor
  | .one test, cursor, next =>
    match cursor.after with
    | [] => none
    | c :: rest => if test.accepts c then next (cursor.step c rest) else none
  | .anchor place, cursor, next =>
    if place.holds cursor.before cursor.after then next cursor else none
  | .seq first second, cursor, next => first.run cursor fun c => second.run c next
  | .either first second, cursor, next => (first.run cursor next).or (second.run cursor next)
  | .group index body, cursor, next => body.run cursor fun c => next (Cursor.close index cursor c)
  | .again index rule, cursor, next =>
    ((cursor.group? index).bind fun text => cursor.expect rule text).bind next
  | .times least most greed body, cursor, next =>
    repeated (fun c k => body.run c k) least most greed (cursor.after.length + least + 2) 0 none
      cursor next
  | .atomic body, cursor, next => (body.run cursor some).bind next
  | .ahead negated body, cursor, next =>
    match body.run cursor some with
    | some c => if negated then none else next { cursor with groups := c.groups }
    | none => if negated then next cursor else none
  | .behind negated width body, cursor, next =>
    match (cursor.back width).bind fun c => body.run c some with
    | some c => if negated then none else next { cursor with groups := c.groups }
    | none => if negated then next cursor else none
  | .ifGroup index yes no, cursor, next =>
    if (cursor.group? index).isSome then yes.run cursor next else no.run cursor next

/-- Whether a node matches at a place or further on. -/
def Node.searchFrom (node : Node) (before : List Char) (position : Nat) : List Char → Bool
  | [] => (node.run ⟨before, [], position, []⟩ some).isSome
  | c :: rest =>
    (node.run ⟨before, c :: rest, position, []⟩ some).isSome
      || searchFrom node (c :: before) (position + 1) rest

/-- Whether a node matches somewhere in a text. -/
def Node.search (node : Node) (text : List Char) : Bool := node.searchFrom [] 0 text

end HangulLint.Pattern
