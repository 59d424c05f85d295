import WorksheetUpload.Text.Canonical
import WorksheetUpload.Text.Utf8
import WorksheetUpload.Url.Domain.Direction
import WorksheetUpload.Url.Domain.Expansion
import WorksheetUpload.Url.Domain.Joining
import WorksheetUpload.Url.Domain.Punycode
import WorksheetUpload.Url.Domain.Refused
import WorksheetUpload.Url.Domain.Replacement
import WorksheetUpload.Url.Encoding

/-! Domain names in their ASCII form: characters are spelled the one way that names allow, and a
label that goes beyond ASCII is written in Punycode behind a mark. -/
namespace WorksheetUpload.Url.Domain
open Text

/-- ASCII characters that a domain name may not hold. -/
def isDenied (c : Char) : Bool :=
  c.toNat ≤ 0x20 || c.toNat == 0x7F || "%#/:<>?@[\\]^|".toList.contains c

/-- The tables' spelling of a character beyond ASCII. -/
def listed? (n : Nat) : Option (List Nat) :=
  match lowerExpansions.find? (·.1 == n) <|> upperExpansions.find? (·.1 == n) with
  | some e => some e.2
  | none =>
    (runs.findSome? (·.spelling? n) <|>
      (loners.find? (·.1 == n) <|> upperLoners.find? (·.1 == n)).map (·.2)).map ([·])

/-- How a name spells a character; `none` for one that it may not hold. -/
def spelling? (c : Char) : Option (List Char) :=
  if c.toNat < 0x80 then some [c.toLower]
  else match listed? c.toNat with
  | some spelling => some (spelling.map Char.ofNat)
  | none =>
    if inStretches dropped c then some []
    else if inStretches refused c then none
    else some [c]

/-- The mark of a label in Punycode. -/
def mark : List Char := ['x','n','-','-']

/-- Lengths past which labels are not read or written. -/
def longestRead : Nat := 2000
def longestWritten : Nat := 1000

/-- The label behind the mark; it has to be spelled as a name would spell it. -/
def unmarked? (text : List Char) : Option (List Char) := do
  guard (text.all Punycode.isAscii && text.getLast?.any (· != '-') && text.length ≤ longestRead)
  let label ← Punycode.decode? text
  guard (label.all fun c => spelling? c = some [c] && !isDenied c && c != '.')
  guard (composed label = label)
  return label

/-- The label that a stretch of a name stands for. It starts with no mark on a character. -/
def label? (text : List Char) : Option (List Char) := do
  let label ← if mark.isPrefixOf text then unmarked? (text.drop mark.length) else some text
  guard (!label.head?.any isMark && joinersFit [] label)
  guard (label.all Punycode.isAscii || label.length ≤ longestWritten)
  return label

/-- The ASCII form of a label. -/
def written (label : List Char) : List Char :=
  if label.all Punycode.isAscii then label else mark ++ Punycode.encode label

/-- The ASCII form of a name given by its octets. -/
def toAscii? (octets : Bytes) : Option (List Char) := do
  let name := composed (← (← Utf8.decode? octets).mapM spelling?).flatten
  guard (!name.any isDenied)
  let labels ← (splitAt (· == '.') name).mapM label?
  guard (!labels.any (·.any (Direction.of · |>.isMixed)) || labels.all keepsDirection)
  return join ['.'] (labels.map written)

end WorksheetUpload.Url.Domain
