import HangulLint.Encoding.Utf16
import HangulLint.Encoding.Utf8

/-!
# The characters of a source file

A byte order mark decides for UTF-16. Everything else is UTF-8 if it can be, and otherwise in
whatever encoding a guesser names. The guesser is a parameter, and so is the library that knows the
codecs by their names: nothing here depends on how a guesser comes to its answer or on which codecs
there are, and both are asked only when the two certain rules do not settle the matter.

* `Guesser`, `Source.Library` — what is asked about bytes that are not UTF-8;
* `Source.looksBinary` — whether a file is not text at all;
* `Source.decode` — the characters of a file, or why it has none.
-/

namespace HangulLint

/-- What a guesser says about some bytes. -/
inductive Guess where
  /-- The name of an encoding, if it has one to offer. -/
  | label (name : Option Text)
  /-- The guesser takes the bytes for faulty and says why. -/
  | refusal (message : Text)
  /-- The guesser broke down with a message. -/
  | failure (message : Text)
  /-- The user interrupted the program while the guesser was at work. -/
  | interrupted
deriving DecidableEq

/-- A guesser answers for every byte list. -/
abbrev Guesser := List UInt8 → Guess

namespace Source

/-- What the codec of some name makes of bytes. -/
inductive Reply where
  /-- All of the bytes, read as characters. -/
  | text (content : List Char)
  /-- No codec of texts goes by the name, or the bytes are not in its encoding. -/
  | refused
  /-- The codec gives up in words of its own. -/
  | broken (message : Text) (spoken : message ≠ [])
deriving DecidableEq

/-- A library of codecs has a reply for every name and byte list. -/
abbrev Library := Text → List UInt8 → Reply

/-- Why some bytes have no characters. -/
inductive Fault where
  /-- A byte order mark is followed by bytes that are not UTF-16. -/
  | malformed (fault : Utf16.Fault)
  /-- The guess, shown as it was given, is missing, unknown or wrong. -/
  | undecodable (guess : Option Text)
  /-- The guesser or the codec says itself what is wrong. -/
  | told (message : Text)
  /-- The guesser broke down. -/
  | guesser (message : Text)
  /-- The user interrupted the program. -/
  | interrupted
deriving DecidableEq

/-- The message of a fault. -/
def Fault.message : Fault → Text
  | .malformed fault => fault.message
  | .undecodable guess =>
    "undecodable content (guessed encoding: " ++ guess.getD "None" ++ ")"
  | .told message => message
  | .guesser message => message
  | .interrupted => []

/-- Whether bytes are something else than text: they hold a zero byte and no byte order mark
explains it. -/
def looksBinary (bs : List UInt8) : Bool :=
  (Utf16.markedOrder? bs).isNone && bs.contains 0

/-- The characters of bytes for which a guess has to be made. An empty name is no guess. -/
def decodeGuessed (library : Library) (guess : Guess) (bs : List UInt8) :
    Except Fault (List Char) :=
  match guess with
  | .refusal message => .error (.told message)
  | .failure message => .error (.guesser message)
  | .interrupted => .error .interrupted
  | .label none => .error (.undecodable none)
  | .label (some []) => .error (.undecodable (some []))
  | .label (some name) =>
    match library name bs with
    | .text content => .ok content
    | .refused => .error (.undecodable (some name))
    | .broken message _ => .error (.told message)

/-- The characters of a file. -/
def decode (library : Library) (guesser : Guesser) (bs : List UInt8) : Except Fault (List Char) :=
  match Utf16.markedOrder? bs with
  | some order => (Utf16.decode order order.mark.length (bs.drop order.mark.length)).mapError
      .malformed
  | none =>
    match Utf8.decode? (Utf8.dropSignature bs) with
    | some cs => .ok cs
    | none => decodeGuessed library (guesser bs) bs

end Source

end HangulLint
