import WorksheetUpload.Bundle

/-! Sort keys in decimal: a sign may stand before the digits, leading zeros are ignored, and a
number out of bounds is noticed at the first digit that exceeds them. -/
namespace WorksheetUpload.SortKey

/-- Why a text is no sort key. -/
inductive ReadError
  | empty | badDigit | tooLarge | tooSmall
  deriving DecidableEq, Repr

def ReadError.message : ReadError → String
  | empty => "cannot parse integer from empty string"
  | badDigit => "invalid digit found in string"
  | tooLarge => "number too large to fit in target type"
  | tooSmall => "number too small to fit in target type"

/-- The number reached after one more digit, away from zero. -/
def extend (negative : Bool) (value : Int) (digit : Nat) : Int :=
  if negative then value*10-digit else value*10+digit

/-- Reads digits onto a key. -/
def readDigits (negative : Bool) (key : SortKey) : List Char → Except ReadError SortKey
  | [] => .ok key
  | c :: cs =>
    if c.isDigit then
      match ofInt? (extend negative key.value (c.toNat-48)) with
      | some key => readDigits negative key cs
      | none => .error (if negative then .tooSmall else .tooLarge)
    else .error .badDigit

def zero : SortKey := ⟨0,by decide,by decide⟩

def read (text : List Char) : Except ReadError SortKey :=
  match text with
  | [] => .error .empty
  | ['+'] | ['-'] => .error .badDigit
  | '+' :: digits => readDigits false zero digits
  | '-' :: digits => readDigits true zero digits
  | digits => readDigits false zero digits

end WorksheetUpload.SortKey
