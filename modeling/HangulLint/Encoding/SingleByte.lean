/-!
# Single byte encodings

In these encodings every byte is a character of its own. The lower half is ASCII; the upper half
is given by a page of 128 characters, in which U+FFFD marks the bytes that stand for nothing.
-/

namespace HangulLint.SingleByte

/-- The characters of the bytes from 0x80 on. -/
abbrev Page := String

/-- The page of Western European Windows. -/
def windows1252 : Page :=
  "€�‚ƒ„…†‡ˆ‰Š‹Œ�Ž��‘’“”•–—˜™š›œ�žŸ\u00a0¡¢£¤¥¦§¨©ª«¬\u00ad®¯°±²³´µ¶·¸¹º»¼½¾¿" ++
    "ÀÁÂÃÄÅÆÇÈÉÊËÌÍÎÏÐÑÒÓÔÕÖ×ØÙÚÛÜÝÞßàáâãäåæçèéêëìíîïðñòóôõö÷øùúûüýþÿ"

/-- The page of Cyrillic Windows. -/
def windows1251 : Page :=
  "ЂЃ‚ѓ„…†‡€‰Љ‹ЊЌЋЏђ‘’“”•–—�™љ›њќћџ\u00a0ЎўЈ¤Ґ¦§Ё©Є«¬\u00ad®Ї°±Ііґµ¶·ё№є»јЅѕї" ++
    "АБВГДЕЖЗИЙКЛМНОПРСТУФХЦЧШЩЪЫЬЭЮЯабвгдежзийклмнопрстуфхцчшщъыьэюя"

/-- The page of KOI8-R, the Russian exchange code. -/
def koi8r : Page :=
  "─│┌┐└┘├┤┬┴┼▀▄█▌▐░▒▓⌠■∙√≈≤≥\u00a0⌡°²·÷═║╒ё╓╔╕╖╗╘╙╚╛╜╝╞╟╠╡Ё╢╣╤╥╦╧╨╩╪╫╬©" ++
    "юабцдефгхийклмнопярстужвьызшэщчъЮАБЦДЕФГХИЙКЛМНОПЯРСТУЖВЬЫЗШЭЩЧЪ"

/-- The character of a byte under a page. -/
def Page.char? (page : Page) (b : UInt8) : Option Char :=
  if b < 0x80 then some (Char.ofNat b.toNat)
  else match page.toList[b.toNat - 0x80]? with
    | some c => if c = '\uFFFD' then none else some c
    | none => none

/-- The characters of bytes under a page. -/
def Page.decode? (page : Page) (bs : List UInt8) : Option (List Char) := bs.mapM page.char?

/-- The characters of bytes of which only ASCII is allowed. -/
def decodeAscii? (bs : List UInt8) : Option (List Char) :=
  bs.mapM fun b => if b < 0x80 then some (Char.ofNat b.toNat) else none

/-- The characters of bytes that are their own code points. -/
def decodeLatin1 (bs : List UInt8) : List Char := bs.map fun b => Char.ofNat b.toNat

end HangulLint.SingleByte
