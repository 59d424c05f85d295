import WorksheetUpload.Text.Utf8

/-! Texts of responses, by the charset that they declare. A byte order mark overrides what is
declared, and a charset that is not known is read as UTF-8. -/
namespace WorksheetUpload.Http

inductive Charset
  | utf8 | utf16le | utf16be | western
  deriving DecidableEq, Repr

namespace Charset

/-- The names of the charsets, in lower case. -/
def labels : List (Charset × List String) := [
  (utf8,["utf-8","utf8","unicode-1-1-utf-8","unicode11utf8","unicode20utf8","x-unicode20utf8"]),
  (utf16le,["utf-16","utf-16le","ucs-2","unicode","iso-10646-ucs-2","csunicode","unicodefeff"]),
  (utf16be,["utf-16be","unicodefffe"]),
  (western,["iso-8859-1","latin1","l1","ascii","us-ascii","windows-1252","cp1252","x-cp1252",
    "iso8859-1","iso88591","iso_8859-1","iso_8859-1:1987","ibm819","cp819","csisolatin1",
    "iso-ir-100","ansi_x3.4-1968"])]

def ofLabel? (label : String) : Option Charset :=
  (labels.find? fun p => p.2.contains label).map (·.1)

/-- What the octets 80 to 9F stand for in the western charset. -/
def westernControls : List Nat := [
  0x20AC,0x81,0x201A,0x0192,0x201E,0x2026,0x2020,0x2021,0x02C6,0x2030,0x0160,0x2039,0x0152,0x8D,
  0x017D,0x8F,0x90,0x2018,0x2019,0x201C,0x201D,0x2022,0x2013,0x2014,0x02DC,0x2122,0x0161,0x203A,
  0x0153,0x9D,0x017E,0x0178]

def westernChar (b : UInt8) : Char :=
  if 0x80 ≤ b ∧ b < 0xA0 then Char.ofNat (westernControls.getD (b.toNat-0x80) 0xFFFD)
  else Char.ofNat b.toNat

/-- Units of sixteen bits; half a unit at the end is ill formed. -/
def units (bigEndian : Bool) : Bytes → List (Option Nat)
  | a :: b :: rest =>
    some (if bigEndian then a.toNat*256+b.toNat else b.toNat*256+a.toNat) :: units bigEndian rest
  | [_] => [none]
  | [] => []

/-- Characters of units. A surrogate without its partner is ill formed; where the text ends behind the
first of a pair, half a unit that is left belongs to it. -/
def ofUnits : List (Option Nat) → List Char
  | some high :: some low :: rest =>
    if 0xD800 ≤ high ∧ high < 0xDC00 ∧ 0xDC00 ≤ low ∧ low < 0xE000 then
      Char.ofNat (0x10000 + (high-0xD800)*0x400 + (low-0xDC00)) :: ofUnits rest
    else if 0xD800 ≤ high ∧ high < 0xE000 then '\uFFFD' :: ofUnits (some low :: rest)
    else Char.ofNat high :: ofUnits (some low :: rest)
  | some unit :: rest =>
    if 0xD800 ≤ unit ∧ unit < 0xDC00 then ['\uFFFD']
    else (if 0xDC00 ≤ unit ∧ unit < 0xE000 then '\uFFFD' else Char.ofNat unit) :: ofUnits rest
  | none :: rest => '\uFFFD' :: ofUnits rest
  | [] => []

def decode : Charset → Bytes → List Char
  | utf8, bytes => Utf8.lossy bytes
  | utf16le, bytes => ofUnits (units false bytes)
  | utf16be, bytes => ofUnits (units true bytes)
  | western, bytes => bytes.map westernChar

/-- Decodes by the mark at the head of a text if there is one, and drops it. -/
def decodeMarked (declared : Charset) : Bytes → List Char
  | 0xEF :: 0xBB :: 0xBF :: rest => utf8.decode rest
  | 0xFE :: 0xFF :: rest => utf16be.decode rest
  | 0xFF :: 0xFE :: rest => utf16le.decode rest
  | bytes => declared.decode bytes

/-- The charset that a content type declares. -/
def ofContentType (contentType : Option String) : Charset :=
  match contentType.map fun t => ((t.toList.map Char.toLower).splitBy fun _ c => c != ';') with
  | some (media :: parameters) =>
    let charset := parameters.findSome? fun p =>
      let text := (p.drop 1).filter fun c => !(c == ' ' || c == '"')
      if text.take 8 = "charset=".toList then some (String.ofList (text.drop 8)) else none
    if media.contains '/' then (charset.bind ofLabel?).getD utf8 else utf8
  | _ => utf8

@[simp] theorem decodeMarked_nil (declared : Charset) : declared.decodeMarked [] = [] := by
  cases declared <;> simp [decodeMarked,decode,Utf8.lossy,Utf8.scan,units,ofUnits]

end Charset

/-- How the octets of a body become text, by the content type that is declared with them. No octets
are no text. -/
class Decoding where
  decode : Option String → Bytes → List Char
  decode_nil (contentType : Option String) : decode contentType [] = []

/-- By the charsets that are known here. -/
instance : Decoding where
  decode contentType := (Charset.ofContentType contentType).decodeMarked
  decode_nil contentType := (Charset.ofContentType contentType).decodeMarked_nil

end WorksheetUpload.Http
