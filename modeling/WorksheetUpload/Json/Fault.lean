import WorksheetUpload.Text.Quoted
import WorksheetUpload.Text.Utf8

/-! Why a text is not the JSON that is wanted, and where. Lines are counted from one, columns in
octets. -/
namespace WorksheetUpload.Json

/-- What was found in place of the wanted kind of value. -/
inductive Found
  | null
  | truth (value : Bool)
  | whole (value : Int)
  | real (digits : String)
  | text (value : String)
  | list
  | object
  deriving DecidableEq, Repr

def Found.words : Found → String
  | null => "null"
  | truth b => "boolean `" ++ (if b then "true" else "false") ++ "`"
  | whole n => "integer `" ++ toString n ++ "`"
  | real digits => "floating point `" ++ digits ++ "`"
  | text s => "string " ++ Text.quoted s
  | list => "sequence"
  | object => "map"

inductive Cause
  | endInValue | endInList | endInObject | endInText
  | missingColon | missingListComma | missingObjectComma
  | badLiteral | badValue | badEscape | badNumber | numberTooLarge | badCharacter
  | rawControl | keyNotText | loneSurrogate | cutSurrogate | trailingComma | trailingText
  | wrongKind (found : Found) (wanted : String)
  | outOfRange (value : Int) (wanted : String)
  | missingField (name : String)
  | repeatedField (name : String)
  | tooFewElements (count : Nat) (wanted : String)
  deriving DecidableEq, Repr

def Cause.words : Cause → String
  | endInValue => "EOF while parsing a value"
  | endInList => "EOF while parsing a list"
  | endInObject => "EOF while parsing an object"
  | endInText => "EOF while parsing a string"
  | missingColon => "expected `:`"
  | missingListComma => "expected `,` or `]`"
  | missingObjectComma => "expected `,` or `\x7d`"
  | badLiteral => "expected ident"
  | badValue => "expected value"
  | badEscape => "invalid escape"
  | badNumber => "invalid number"
  | numberTooLarge => "number out of range"
  | badCharacter => "invalid unicode code point"
  | rawControl => "control character (\\u0000-\\u001F) found while parsing a string"
  | keyNotText => "key must be a string"
  | loneSurrogate => "lone leading surrogate in hex escape"
  | cutSurrogate => "unexpected end of hex escape"
  | trailingComma => "trailing comma"
  | trailingText => "trailing characters"
  | wrongKind found wanted => "invalid type: " ++ found.words ++ ", expected " ++ wanted
  | outOfRange value wanted =>
    "invalid value: integer `" ++ toString value ++ "`, expected " ++ wanted
  | missingField name => "missing field `" ++ name ++ "`"
  | repeatedField name => "duplicate field `" ++ name ++ "`"
  | tooFewElements count wanted =>
    "invalid length " ++ toString count ++ ", expected " ++ wanted

/-- A cause, and the number of octets of the text that lie behind it. -/
structure Fault where
  cause : Cause
  left : Nat
  deriving DecidableEq, Repr

namespace Fault

/-- The part of a text up to a fault. -/
def before (f : Fault) (text : Bytes) : Bytes := text.take (text.length-f.left)

def line (f : Fault) (text : Bytes) : Nat := 1 + (f.before text).count 10

def column (f : Fault) (text : Bytes) : Nat :=
  ((f.before text).reverse.takeWhile (· != 10)).length

def message (f : Fault) (text : Bytes) : String :=
  f.cause.words ++ " at line " ++ toString (f.line text) ++ " column " ++ toString (f.column text)

end Fault
end WorksheetUpload.Json
