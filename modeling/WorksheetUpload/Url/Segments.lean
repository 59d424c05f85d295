import WorksheetUpload.Url.Encoding

/-! Paths: their segments, and the dots that lead up and nowhere. -/
namespace WorksheetUpload.Url

/-- A segment that leads nowhere. -/
def isSingleDot (segment : List Char) : Bool :=
  segment.map Char.toLower == ['.'] || segment.map Char.toLower == "%2e".toList

/-- A segment that leads up. -/
def isDoubleDot (segment : List Char) : Bool :=
  ["..","%2e.",".%2e","%2e%2e"].any fun s => segment.map Char.toLower == s.toList

/-- A letter and a colon or bar, as some systems name a volume. -/
def isDrive : List Char → Bool
  | [letter,mark] => letter.isAlpha && (mark == ':' || mark == '|')
  | _ => false

/-- Whether nothing leads up from a segment: it names a volume, alone or before a backslash. -/
def isAnchored (segment : List Char) : Bool :=
  isDrive (segment.take 2) && (segment.drop 2).head?.all (· == '\\')

/-- Goes up from a path, given in reverse. -/
def goUp : List (List Char) → List (List Char)
  | [] => []
  | s :: above => if isAnchored s then s :: above else above

/-- A segment. Where it begins a path it may fall into two: the name of a volume, and the text that
a line break cuts off from it. -/
structure Segment where
  text : List Char
  halves : Option (List Char × List Char)
  deriving DecidableEq, Repr

namespace Segment

def isDots (s : Segment) : Bool := isDoubleDot s.text || isSingleDot s.text

/-- Where a segment leads from a path given in reverse. Halves are never dots. -/
def next (above : List (List Char)) (s : Segment) : List (List Char) :=
  if isDoubleDot s.text then goUp above
  else if isSingleDot s.text then above
  else s.text :: above

end Segment

/-- Follows segments from a path given in reverse. Dots at the end leave an empty segment. -/
def follow (above : List (List Char)) : List Segment → List (List Char)
  | [] => above.reverse
  | s :: rest =>
    match above,s.halves with
    | [],some (name,behind) => follow [behind,name] rest
    | _,_ =>
      if s.isDots && rest.isEmpty then ([] :: s.next above).reverse
      else follow (s.next above) rest

/-- The segments of the text behind the first slash of a path. In special schemes a backslash
divides as well. -/
def segmentsOf (special : Bool) (text : List Char) : List (List Char) :=
  follow [] ((splitAt (fun c => c == '/' || (special && c == '\\')) text).map fun s =>
    ⟨encode pathMarks s,none⟩)

end WorksheetUpload.Url
