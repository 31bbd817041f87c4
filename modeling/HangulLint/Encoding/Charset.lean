import HangulLint.Encoding.Korean
import HangulLint.Encoding.SingleByte
import HangulLint.Encoding.Source

/-!
# Encodings by name

Encodings go by many names. Case does not matter, nor which signs separate the letters and
digits of a name.

* `Charset.named?` — the encoding that a name stands for;
* `Charset.decode?` — the characters of bytes in an encoding, all or none;
* `Charset.library` — these encodings as a library of codecs.
-/

namespace HangulLint

/-- The encodings that can be read. -/
inductive Charset where
  | ascii
  | latin1
  | page (table : SingleByte.Page)
  | eucKr
  | cp949
  | utf8 (signed : Bool)
  | utf16 (order : Utf16.ByteOrder)

namespace Charset

/-- The letters and digits of a name in lower case, with one underscore for whatever separates
them. -/
def canonicalName (name : List Char) : List Char :=
  let step (state : List Char × Bool) (c : Char) : List Char × Bool :=
    if c.isAlphanum || c = '.' then
      let found := if state.2 && !state.1.isEmpty then '_' :: state.1 else state.1
      (c.toLower :: found, false)
    else (state.1, true)
  (name.foldl step ([], false)).1.reverse

/-- The canonical names of each encoding. -/
def names : List (Charset × List String) :=
  [(.ascii, ["ascii", "us_ascii", "us", "646", "ansi_x3.4_1968", "ansi_x3_4_1968",
     "ansi_x3.4_1986", "cp367", "csascii", "ibm367", "iso646_us", "iso_646.irv_1991",
     "iso_ir_6"]),
   (.latin1, ["latin_1", "latin1", "latin", "l1", "iso8859_1", "iso_8859_1", "iso8859", "8859",
     "iso_8859_1_1987", "iso_ir_100", "cp819", "csisolatin1", "ibm819"]),
   (.page SingleByte.windows1252, ["windows_1252", "cp1252", "1252"]),
   (.page SingleByte.windows1251, ["windows_1251", "cp1251", "1251"]),
   (.page SingleByte.koi8r, ["koi8_r", "cskoi8r"]),
   (.eucKr, ["euc_kr", "euckr", "korean", "ksc5601", "ks_c_5601", "ks_c_5601_1987", "ksx1001",
     "ks_x_1001", "x_mac_korean"]),
   (.cp949, ["cp949", "949", "ms949", "uhc"]),
   (.utf8 false, ["utf_8", "utf8", "utf", "u8", "cp65001"]),
   (.utf8 true, ["utf_8_sig"]),
   (.utf16 .little, ["utf_16_le", "utf_16le", "unicodelittleunmarked", "utf_16", "utf16", "u16"]),
   (.utf16 .big, ["utf_16_be", "utf_16be", "unicodebigunmarked"])]

/-- The encoding that a name stands for. -/
def named? (name : List Char) : Option Charset :=
  let canonical := String.ofList (canonicalName name)
  (names.find? fun entry => entry.2.contains canonical).map (·.1)

/-- The characters of bytes in an encoding, if every byte has its place in one. -/
def decode? (charset : Charset) (bs : List UInt8) : Option (List Char) :=
  match charset with
  | .ascii => SingleByte.decodeAscii? bs
  | .latin1 => some (SingleByte.decodeLatin1 bs)
  | .page table => table.decode? bs
  | .eucKr => Korean.decodeEucKr? bs
  | .cp949 => Korean.decodeCp949? bs
  | .utf8 signed => Utf8.decode? (if signed then Utf8.dropSignature bs else bs)
  | .utf16 order => (Utf16.decode order 0 bs).toOption

/-- The library that has these encodings and no other. -/
def library : Source.Library := fun name bs =>
  match ((Text.chars? name).bind named?).bind (·.decode? bs) with
  | some content => .text content
  | none => .refused

end Charset

end HangulLint
