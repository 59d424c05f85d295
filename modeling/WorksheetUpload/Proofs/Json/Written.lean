import WorksheetUpload.Json.Number
import WorksheetUpload.Text.Utf8

/-! JSON as it may be written down: a value with the blanks around its parts, the escapes of its
strings and the spelling of its numbers. The texts of JSON are the texts of these trees, and a text
denotes the datum of its tree. -/
namespace WorksheetUpload.Json

/-- What a text of JSON denotes. The members of an object keep their order, names may come twice,
and a number keeps its digits. -/
inductive Datum
  | null
  | truth (value : Bool)
  | number (numeral : Numeral)
  | text (value : String)
  | list (elements : List Datum)
  | object (members : List (String × Datum))

inductive Blank
  | space | tab | newLine | carriageReturn

def Blank.char : Blank → Char
  | space => ' '
  | tab => '\t'
  | newLine => '\n'
  | carriageReturn => '\r'

/-- What may stand between two tokens. -/
abbrev Gap := List Blank

def Gap.text (g : Gap) : List Char := g.map Blank.char

/-- A digit of base sixteen. Its letter may be a capital. -/
structure HexDigit where
  value : Fin 16
  capital : Bool

def HexDigit.char (d : HexDigit) : Char :=
  if d.capital then (Nat.digitChar d.value).toUpper else Nat.digitChar d.value

/-- The four digits of a numeric escape. -/
structure CodeUnit where
  first : HexDigit
  second : HexDigit
  third : HexDigit
  fourth : HexDigit

namespace CodeUnit

def value (u : CodeUnit) : Nat :=
  ((u.first.value*16 + u.second.value)*16 + u.third.value)*16 + u.fourth.value

def text (u : CodeUnit) : List Char :=
  ['\\','u',u.first.char,u.second.char,u.third.char,u.fourth.char]

def IsHigh (u : CodeUnit) : Prop := 0xD800 ≤ u.value ∧ u.value ≤ 0xDBFF
def IsLow (u : CodeUnit) : Prop := 0xDC00 ≤ u.value ∧ u.value ≤ 0xDFFF

end CodeUnit

/-- The escapes of one letter. -/
inductive Short
  | quote | backslash | slash | backspace | formFeed | newLine | carriageReturn | tab

namespace Short

def letter : Short → Char
  | quote => '"'
  | backslash => '\\'
  | slash => '/'
  | backspace => 'b'
  | formFeed => 'f'
  | newLine => 'n'
  | carriageReturn => 'r'
  | tab => 't'

def char : Short → Char
  | quote => '"'
  | backslash => '\\'
  | slash => '/'
  | backspace => '\x08'
  | formFeed => '\x0c'
  | newLine => '\n'
  | carriageReturn => '\r'
  | tab => '\t'

end Short

/-- A character inside quotes: as it is, or by an escape. The surrogates come in pairs. -/
inductive Piece
  | plain (c : Char) (ok : c ≠ '"' ∧ c ≠ '\\' ∧ 0x20 ≤ c.toNat)
  | short (s : Short)
  | code (u : CodeUnit) (ok : ¬ u.IsHigh ∧ ¬ u.IsLow)
  | pair (high low : CodeUnit) (ok : high.IsHigh ∧ low.IsLow)

namespace Piece

def text : Piece → List Char
  | plain c _ => [c]
  | short s => ['\\',s.letter]
  | code u _ => u.text
  | pair high low _ => high.text ++ low.text

def char : Piece → Char
  | plain c _ => c
  | short s => s.char
  | code u _ => Char.ofNat u.value
  | pair high low _ => Char.ofNat (0x10000 + (high.value-0xD800)*0x400 + (low.value-0xDC00))

end Piece

/-- A string, from behind its opening quote. -/
abbrev Quoted := List Piece

namespace Quoted

def text (q : Quoted) : List Char := q.flatMap Piece.text ++ ['"']

def string (q : Quoted) : String := String.ofList (q.map Piece.char)

end Quoted

/-- One decimal digit or more. -/
structure Digits where
  first : Fin 10
  others : List (Fin 10)

namespace Digits

def values (d : Digits) : List Nat := (d.first :: d.others).map Fin.val

def text (d : Digits) : List Char := d.values.map Nat.digitChar

end Digits

/-- An exponent, with its sign if one is written: `some true` is a minus. -/
structure Exponent where
  capital : Bool
  sign : Option Bool
  digits : Digits

namespace Exponent

def signText : Option Bool → List Char
  | none => []
  | some true => ['-']
  | some false => ['+']

def text (e : Exponent) : List Char :=
  (if e.capital then 'E' else 'e') :: signText e.sign ++ e.digits.text

end Exponent

/-- A number. A leading zero stands alone. -/
structure WrittenNumber where
  negative : Bool
  whole : Digits
  fraction : Option Digits
  exponent : Option Exponent
  alone : whole.first = 0 → whole.others = []

namespace WrittenNumber

def fractionText : Option Digits → List Char
  | none => []
  | some d => '.' :: d.text

def exponentText : Option Exponent → List Char
  | none => []
  | some e => e.text

def text (n : WrittenNumber) : List Char :=
  (if n.negative then ['-'] else []) ++ n.whole.text ++ fractionText n.fraction ++
    exponentText n.exponent

def fractionValue (f : Option Digits) : List Nat := (f.map Digits.values).getD []

def exponentValue (e : Option Exponent) : Option (Bool × List Nat) :=
  e.map fun e => (e.sign == some true,e.digits.values)

/-- The parts of a number, without the spelling of its exponent. -/
def numeral (n : WrittenNumber) : Numeral where
  negative := n.negative
  whole := n.whole.values
  fraction := fractionValue n.fraction
  exponent := exponentValue n.exponent

end WrittenNumber

/-- A part of a list or an object with the blanks around it. -/
structure Placed (α : Type) where
  before : Gap
  value : α
  after : Gap

/-- A member of an object: a name with the blanks around it, a colon, and a value. -/
structure Entry (α : Type) where
  name : Placed Quoted
  value : Placed α

/-- A value as it is written. A list or an object without parts may hold a gap alone. -/
inductive Written
  | null
  | truth (value : Bool)
  | number (n : WrittenNumber)
  | text (q : Quoted)
  | list (gap : Gap) (elements : List (Placed Written))
  | object (gap : Gap) (members : List (Entry Written))

mutual

def Written.render : Written → List Char
  | .null => "null".toList
  | .truth true => "true".toList
  | .truth false => "false".toList
  | .number n => n.text
  | .text q => '"' :: q.text
  | .list gap elements => '[' :: gap.text ++ renderPlaces true elements ++ [']']
  | .object gap members => '\x7b' :: gap.text ++ renderEntries true members ++ ['\x7d']

/-- The elements of a list, with a comma before each but the first. -/
def renderPlaces (first : Bool) : List (Placed Written) → List Char
  | [] => []
  | ⟨before,w,after⟩ :: rest =>
    (if first then [] else [',']) ++ before.text ++ w.render ++ after.text ++
      renderPlaces false rest

/-- The members of an object, with a comma before each but the first. -/
def renderEntries (first : Bool) : List (Entry Written) → List Char
  | [] => []
  | ⟨⟨before,name,behind⟩,⟨left,w,right⟩⟩ :: rest =>
    (if first then [] else [',']) ++ before.text ++ '"' :: name.text ++ behind.text ++
      ':' :: left.text ++ w.render ++ right.text ++ renderEntries false rest

end

mutual

def Written.datum : Written → Datum
  | .null => .null
  | .truth b => .truth b
  | .number n => .number n.numeral
  | .text q => .text q.string
  | .list _ elements => .list (placesData elements)
  | .object _ members => .object (entriesData members)

def placesData : List (Placed Written) → List Datum
  | [] => []
  | ⟨_,w,_⟩ :: rest => w.datum :: placesData rest

def entriesData : List (Entry Written) → List (String × Datum)
  | [] => []
  | ⟨⟨_,name,_⟩,⟨_,w,_⟩⟩ :: rest => (name.string,w.datum) :: entriesData rest

end

/-- A whole text: a value with blanks around it. -/
def Placed.render (p : Placed Written) : List Char :=
  p.before.text ++ p.value.render ++ p.after.text

/-- Whether a text of JSON can be read as a datum. -/
def Denotes (text : List Char) (d : Datum) : Prop :=
  ∃ p : Placed Written, p.render = text ∧ p.value.datum = d

end WorksheetUpload.Json
