import WorksheetUpload.Log
import WorksheetUpload.Text.Classes
import WorksheetUpload.Text.Pattern

/-! Filters of log lines, by their level, the part of the program that they come from and the fields
that they have. A filter is a list of directives with commas between them. -/
namespace WorksheetUpload.Log
open Text

/-- A field that lines or spans have to have, and whether its value is looked at too. -/
structure FieldMatch where
  name : List Char
  valued : Bool
  deriving DecidableEq, Repr

/-- Up to which rank a directive lets lines pass, and which lines or spans it is about. -/
structure Directive where
  target : Option (List Char)
  span : Option (List Char)
  field : Option FieldMatch
  rank : Nat
  deriving DecidableEq, Repr

/-- A whole number from 0 to 5, perhaps with a plus before it. -/
def rankNumber? (word : List Char) : Option Nat :=
  let digits := if word.head? = some '+' then word.drop 1 else word
  let n := digits.foldl (fun n c => n*10+(c.toNat-48)) 0
  if digits.all Char.isDigit && !digits.isEmpty && n ≤ 5 then some n else none

/-- The rank that a word or number names. -/
def rank? (word : List Char) : Option Nat :=
  match rankNumber? word with
  | some n => some n
  | none =>
    ["off","error","warn","info","debug","trace"].findIdx? fun name =>
      name.toList = word.map Char.toLower

/-- Characters that a directive may begin with. -/
def isStart (c : Char) : Bool := isAlphanumeric c || c == '-' || c == ':' || c == '_'

/-- Whether a text is a number with a plus before it, or the name of one that is none. -/
def isPositive : List Char → Bool
  | '+' :: text =>
    let (whole,rest) := (text.takeWhile Char.isDigit,text.dropWhile Char.isDigit)
    let (fraction,rest) := match rest with
      | '.' :: rest => (rest.takeWhile Char.isDigit,rest.dropWhile Char.isDigit)
      | _ => ([],rest)
    let unsigned : List Char → Bool
      | c :: rest => (if c = '+' ∨ c = '-' then rest else c :: rest).all Char.isDigit &&
        (c :: rest).getLast?.any Char.isDigit
      | [] => false
    let ends := match rest with
      | [] => true
      | c :: power => (c = 'e' || c = 'E') && unsigned power
    (!(whole ++ fraction).isEmpty && ends) ||
      ["inf","infinity","nan"].any fun name => name.toList = text.map Char.toLower
  | _ => false

/-- A field, perhaps with a value behind an equals sign: a number, a truth value or a pattern. -/
def FieldMatch.read? (text : List Char) : Option FieldMatch :=
  let isMark (c : Char) : Bool := c == '='
  match text.dropWhile (!isMark ·) with
  | _ :: rest =>
    let value := rest.takeWhile (!isMark ·)
    if isPositive value || isPattern value then some ⟨text.takeWhile (!isMark ·),true⟩ else none
  | [] => some ⟨text,false⟩

namespace Directive

/-- A word alone is a rank, or else a target of which every line is meant. -/
def ofWord (word : List Char) : Directive :=
  match rank? word with
  | some r => ⟨none,none,none,r⟩
  | none => ⟨some word,none,none,5⟩

/-- The part of a text between two places. -/
def between (text : List Char) (start stop : Nat) : List Char := (text.take stop).drop start

/-- Completes a directive with the rank behind a place; with nothing there every line is meant. -/
def ranked? (text : List Char) (place : Nat) (d : Directive) : Option Directive :=
  match text.drop place with
  | [] => some {d with rank := 5}
  | word => (rank? word).map fun r => {d with rank := r}

/-- Completes a directive behind its brackets, where marks are found in `bare`. -/
def closed? (text bare : List Char) (place : Nat) (d : Directive) : Option Directive :=
  match bare.drop place with
  | [] => some {d with rank := 5}
  | '=' :: _ => ranked? text (place+1) d
  | _ => none

/-- Reads what stands in brackets behind a place: the name of a span, and a field in braces. -/
def bracketed? (text bare : List Char) (target : Option (List Char)) (place : Nat) :
    Option Directive :=
  let inner := bare.drop (place+1)
  let stop := place+1 + inner.findIdx fun c => c == ']' || c == '\x7b'
  let span := between text (place+1) stop
  match bare.drop stop with
  | ']' :: _ => closed? text bare (stop+1) ⟨target,some span,none,5⟩
  | '\x7b' :: rest =>
    let last := stop+1 + rest.findIdx (· == '\x7d')
    match bare.drop last with
    | '\x7d' :: ']' :: _ =>
      if last = stop+1 then none
      else do
        let field ← FieldMatch.read? (between text (stop+1) last)
        closed? text bare (last+2)
          ⟨target,if stop = place+1 then none else some span,some field,5⟩
    | _ => none
  | _ => none

/-- Reads a directive. Blanks around it do not count when its marks are looked for, and the places
found are then those in the text with its blanks. -/
def read? (text : List Char) : Option Directive :=
  let bare := trim text
  match bare with
  | [] => none
  | c :: _ =>
    if c = '[' then bracketed? text bare none 0
    else if !isStart c then none
    else
      let place := bare.findIdx fun c => c == '=' || c == '['
      match bare.drop place with
      | '=' :: _ =>
        ranked? text (place+1) ⟨some (between text 0 place),none,none,5⟩
      | '[' :: _ => bracketed? text bare (some (between text 0 place)) place
      | _ => some (ofWord text)

/-- Whether a directive is about lines wherever they are written. Those about spans, or values of
their fields, count inside spans only. -/
def isPlain (d : Directive) : Bool := d.span.isNone && !d.field.any FieldMatch.valued

def concerns (d : Directive) (l : Line) : Bool :=
  d.target.all (fun t => t.isPrefixOf l.target.toList) &&
    d.field.all fun f => l.fields.any fun name => name.toList == f.name

/-- How specific a directive is: first by its target, then by its field. -/
def weight (d : Directive) : Nat :=
  2*d.target.elim 0 (fun t => t.length+1) + if d.field.isSome then 1 else 0

/-- Whether a directive goes before one that stands earlier. Of two that are as specific, the one
with the later field does, and a repeated one takes the place of the first. -/
def overrides (d earlier : Directive) : Bool :=
  earlier.weight < d.weight || (earlier.weight == d.weight &&
    !decide ((d.field.elim [] (·.name)) < (earlier.field.elim [] (·.name))))

end Directive

/-- The directives that count outside spans. -/
abbrev Filter := List Directive

namespace Filter

/-- The filter in force when nothing else is said. -/
def usual : Filter := [⟨none,none,none,3⟩]

/-- The filter that lets only errors pass. -/
def errorsOnly : Filter := [⟨none,none,none,1⟩]

/-- Reads directives with commas between them. One that cannot be read spoils all. -/
def read? (text : String) : Option Filter :=
  let pieces := (text.splitOn ",").map String.toList |>.filter fun p => !p.isEmpty
  if pieces.isEmpty then some errorsOnly
  else (pieces.mapM Directive.read?).map (·.filter Directive.isPlain)

/-- The filter that a setting names. -/
def ofSetting (setting : Option String) : Filter := (setting.bind read?).getD usual

/-- The directive that decides on a line. -/
def decisive? (f : Filter) (l : Line) : Option Directive :=
  (List.filter (·.concerns l) f).foldl (fun best d =>
    match best with
    | some b => if d.overrides b then some d else some b
    | none => some d) none

def admits (f : Filter) (l : Line) : Bool :=
  (f.decisive? l).any fun d => l.level.rank ≤ d.rank

end Filter
end WorksheetUpload.Log
