import HangulLint.Text.Glyph
import HangulLint.Text.Quoted

/-!
# UTF-16

Two bytes make a unit, in either order. A unit outside the surrogates is a character; a high
surrogate and the low surrogate after it make one together. Everything else is a fault, which
tells the bytes concerned by their positions in the file.
-/

namespace HangulLint.Utf16

/-- Which byte of a unit comes first. -/
inductive ByteOrder where
  | little
  | big
deriving DecidableEq

/-- The unit that two bytes make. -/
def ByteOrder.unit (order : ByteOrder) (first second : UInt8) : Nat :=
  match order with
  | .little => second.toNat * 256 + first.toNat
  | .big => first.toNat * 256 + second.toNat

/-- The two bytes of a unit. -/
def ByteOrder.bytes (order : ByteOrder) (unit : Nat) : List UInt8 :=
  match order with
  | .little => [UInt8.ofNat (unit % 256), UInt8.ofNat (unit / 256)]
  | .big => [UInt8.ofNat (unit / 256), UInt8.ofNat (unit % 256)]

/-- The units of a character. -/
def units (c : Char) : List Nat :=
  if c.toNat < 0x10000 then [c.toNat]
  else [0xD800 + (c.toNat - 0x10000) / 0x400, 0xDC00 + (c.toNat - 0x10000) % 0x400]

/-- The bytes of a character list. -/
def encode (order : ByteOrder) (cs : List Char) : List UInt8 :=
  (cs.flatMap units).flatMap order.bytes

/-- What can be wrong with the bytes at some place. -/
inductive Defect where
  /-- A single byte is left at the end. -/
  | truncated (byte : UInt8)
  /-- The bytes end within a surrogate pair. -/
  | openPair (stop : Nat)
  /-- A high surrogate is followed by a unit that is no low surrogate. -/
  | brokenPair
  /-- A low surrogate stands alone. -/
  | loneLow
deriving DecidableEq

/-- A defect together with the byte order that was read and the position where it begins. -/
structure Fault where
  order : ByteOrder
  start : Nat
  defect : Defect
deriving DecidableEq

/-- The name of UTF-16 in one byte order. -/
def ByteOrder.label : ByteOrder → Text
  | .little => "utf-16-le"
  | .big => "utf-16-be"

/-- The message of a fault. -/
def Fault.message (fault : Fault) : Text :=
  let range (stop : Nat) (reason : Text) : Text :=
    "can't decode bytes in position " ++ Text.ofNat fault.start ++ "-" ++ Text.ofNat stop
      ++ ": " ++ reason
  let what : Text := match fault.defect with
    | .truncated byte =>
      "can't decode byte 0x" ++ Text.ofChars (Text.hexDigits 2 byte.toNat) ++ " in position "
        ++ Text.ofNat fault.start ++ ": truncated data"
    | .openPair stop => range stop "unexpected end of data"
    | .brokenPair => range (fault.start + 1) "illegal UTF-16 surrogate"
    | .loneLow => range (fault.start + 1) "illegal encoding"
  "'" ++ fault.order.label ++ "' codec " ++ what

/-- Whether a unit opens a surrogate pair. -/
def isHigh (unit : Nat) : Bool := 0xD800 ≤ unit && unit < 0xDC00

/-- Whether a unit closes a surrogate pair. -/
def isLow (unit : Nat) : Bool := 0xDC00 ≤ unit && unit < 0xE000

/-- Reads characters to the end, the ones read so far in `before`, last first. The next byte has
the given position. -/
def decodeFrom (order : ByteOrder) (position : Nat) (before : List Char) :
    List UInt8 → Except Fault (List Char)
  | [] => .ok before.reverse
  | [b] => .error ⟨order, position, .truncated b⟩
  | b₀ :: b₁ :: rest =>
    let unit := order.unit b₀ b₁
    if isLow unit then .error ⟨order, position, .loneLow⟩
    else if isHigh unit then
      match rest with
      | b₂ :: b₃ :: rest =>
        let next := order.unit b₂ b₃
        if isLow next then
          let value := 0x10000 + (unit - 0xD800) * 0x400 + (next - 0xDC00)
          decodeFrom order (position + 4) (Char.ofNat value :: before) rest
        else .error ⟨order, position, .brokenPair⟩
      | rest => .error ⟨order, position, .openPair (position + 1 + rest.length)⟩
    else decodeFrom order (position + 2) (Char.ofNat unit :: before) rest

/-- The characters of bytes in a byte order; `offset` bytes of the file come before them. -/
def decode (order : ByteOrder) (offset : Nat) (bs : List UInt8) : Except Fault (List Char) :=
  decodeFrom order offset [] bs

/-- The byte order mark that may open a file. -/
def ByteOrder.mark : ByteOrder → List UInt8
  | .little => [0xFF, 0xFE]
  | .big => [0xFE, 0xFF]

/-- The byte order that a mark at the front of a file declares. -/
def markedOrder? (bs : List UInt8) : Option ByteOrder :=
  [ByteOrder.little, ByteOrder.big].find? fun order => order.mark.isPrefixOf bs

end HangulLint.Utf16
