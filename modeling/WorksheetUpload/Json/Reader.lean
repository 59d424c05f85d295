import WorksheetUpload.Json.Skip

/-! Readers of typed values. A reader takes at least one token. Objects are read by their shape:
named fields in any order, each at most once, others passed over; a list may stand for an object,
with the fields in the order of the shape. -/
namespace WorksheetUpload.Json

/-- What a reader leaves is shorter than what it was given. -/
abbrev Rest (ts : List Token) := { rest : List Token // rest.length < ts.length }

abbrev Reader (α : Type) := (ts : List Token) → Except Fault (α × Rest ts)

/-- The fault of a value that is not of the wanted kind. A broken value has its own fault. -/
def Token.kindFault (t : Token) (wanted : String) : Fault :=
  let seen (value : Found) : Fault :=
    match t.stop with
    | .ok left => ⟨.wrongKind value wanted,left⟩
    | .error f => f
  match t.lexeme with
  | .openList => ⟨.wrongKind .list wanted,t.start⟩
  | .openObject => ⟨.wrongKind .object wanted,t.start⟩
  | .null => seen .null
  | .truth b => seen (.truth b)
  | .number text =>
    match readNumber text with
    | .ok (n,left) => ⟨.wrongKind n.found wanted,left⟩
    | .error f => f
  | .text body =>
    match readText body with
    | .ok (s,left) => ⟨.wrongKind (.text s) wanted,left⟩
    | .error f => f
  | _ => t.fault .badValue

def endFault : Fault := ⟨.endInValue,0⟩

/-- Reads a string. -/
def text : Reader String
  | [] => .error endFault
  | t :: rest =>
    match t.lexeme with
    | .text body => (readText body).map fun p => (p.1,⟨rest,Nat.lt_succ_self _⟩)
    | _ => .error (t.kindFault "a string")

/-- Reads a whole number that is accepted; `wanted` is what such numbers are called. -/
def whole (wanted : String) (accept : Int → Option α) : Reader α
  | [] => .error endFault
  | t :: rest =>
    match t.lexeme with
    | .number body =>
      match readNumber body with
      | .error f => .error f
      | .ok (.real x,left) => .error ⟨.wrongKind (Number.real x).found wanted,left⟩
      | .ok (.whole n,left) =>
        match accept n with
        | some a => .ok (a,⟨rest,Nat.lt_succ_self _⟩)
        | none => .error ⟨.outOfRange n wanted,left⟩
    | _ => .error (t.kindFault wanted)

/-- Reads a value that may be null. -/
def orNull (read : Reader α) : Reader (Option α)
  | [] => .error endFault
  | t :: rest =>
    match t.lexeme with
    | .null => t.stop.map fun _ => (none,⟨rest,Nat.lt_succ_self _⟩)
    | _ => (read (t :: rest)).map fun p => (some p.1,p.2)

/-- The place of the next element of a list: behind the comma that the elements after the first
need, or `none` at the end of the list, with what lies behind it. -/
inductive Element (ts : List Token)
  | closed (left : Nat) (rest : Rest ts)
  | here (rest : List Token) (le : rest.length ≤ ts.length)

def nextElement (first : Bool) (ts : List Token) : Except Fault (Element ts) :=
  match ts with
  | [] => .error ⟨.endInList,0⟩
  | t :: rest =>
    if t.lexeme = .closeList then .ok (.closed (t.start-1) ⟨rest,Nat.lt_succ_self _⟩)
    else if first then .ok (.here (t :: rest) (Nat.le_refl _))
    else if t.lexeme = .comma then
      match rest with
      | [] => .error endFault
      | u :: more =>
        if u.lexeme = .closeList then .error (u.fault .trailingComma)
        else .ok (.here (u :: more) (Nat.le_succ _))
    else .error (t.fault .missingListComma)

/-- The elements of a list up to its end. -/
def elements (read : Reader α) (first : Bool) (ts : List Token) :
    Except Fault (List α × Rest ts) :=
  match nextElement first ts with
  | .error f => .error f
  | .ok (.closed _ rest) => .ok ([],rest)
  | .ok (.here rest le) =>
    match read rest with
    | .error f => .error f
    | .ok (a,⟨after,lt⟩) =>
      (elements read false after).map fun p =>
        (a :: p.1,⟨p.2.1,Nat.lt_trans p.2.2 (Nat.lt_of_lt_of_le lt le)⟩)
termination_by ts.length
decreasing_by exact Nat.lt_of_lt_of_le lt le

def list (read : Reader α) : Reader (List α)
  | [] => .error endFault
  | t :: rest =>
    match t.lexeme with
    | .openList =>
      (elements read true rest).map fun p => (p.1,⟨p.2.1,Nat.lt_succ_of_lt p.2.2⟩)
    | _ => .error (t.kindFault "a sequence")

/-- A named field, which changes the value that is being built. -/
structure Field (σ : Type) where
  name : String
  read : Reader (σ → σ)

/-- A field that is set to what a reader yields. -/
def Field.of (name : String) (read : Reader α) (set : α → σ → σ) : Field σ :=
  ⟨name,fun ts => (read ts).map fun p => (set p.1,p.2)⟩

/-- A kind of object: what it is called, the value before any field is read, its fields, and
whether all of them must be there. -/
structure Shape (σ : Type) where
  title : String
  blank : σ
  fields : List (Field σ)
  mandatory : Bool

namespace Shape

def wanted (s : Shape σ) : String := "struct " ++ s.title

/-- How many elements a list in place of the object must have. -/
def wantedElements (s : Shape σ) : String :=
  s.wanted ++ " with " ++ toString s.fields.length ++
    (if s.fields.length = 1 then " element" else " elements")

/-- The first mandatory field that was not seen. -/
def missing? (s : Shape σ) (seen : List String) : Option String :=
  if s.mandatory then (s.fields.map (·.name)).find? fun n => !seen.contains n else none

end Shape

/-- The next name of an object, or its end. -/
inductive Member (ts : List Token)
  | closed (left : Nat) (rest : Rest ts)
  | name (body : Bytes) (rest : Rest ts)

def nextMember (first : Bool) (ts : List Token) : Except Fault (Member ts) :=
  match ts with
  | [] => .error ⟨.endInObject,0⟩
  | t :: rest =>
    match t.lexeme, first with
    | .closeObject, _ => .ok (.closed (t.start-1) ⟨rest,Nat.lt_succ_self _⟩)
    | .text body, true => .ok (.name body ⟨rest,Nat.lt_succ_self _⟩)
    | _, true => .error (t.fault .keyNotText)
    | .comma, false =>
      match rest with
      | [] => .error endFault
      | u :: more =>
        match u.lexeme with
        | .text body => .ok (.name body ⟨more,Nat.lt_succ_of_lt (Nat.lt_succ_self _)⟩)
        | .closeObject => .error (u.fault .trailingComma)
        | _ => .error (u.fault .keyNotText)
    | _, false => .error (t.fault .missingObjectComma)

/-- What lies behind the colon. -/
def afterColon (ts : List Token) : Except Fault (Rest ts) :=
  match ts with
  | [] => .error ⟨.endInObject,0⟩
  | t :: rest =>
    if t.lexeme = .colon then .ok ⟨rest,Nat.lt_succ_self _⟩ else .error (t.fault .missingColon)

/-- Where a fault of the object itself is reported: behind its end if that is next. -/
def leftAtEnd : List Token → Nat
  | [] => 0
  | t :: _ => if t.lexeme = .closeObject then t.start-1 else t.start

/-- Passes over a value and changes nothing. -/
def ignore : Reader (σ → σ) := fun ts =>
  match h : skip ts with
  | .error f => .error f
  | .ok rest => .ok (id,⟨rest,skip_length h⟩)

/-- The members of an object up to its end. -/
def members (s : Shape σ) (first : Bool) (seen : List String) (value : σ) (ts : List Token) :
    Except Fault (σ × Rest ts) :=
  match nextMember first ts with
  | .error f => .error f
  | .ok (.closed left rest) =>
    match s.missing? seen with
    | some name => .error ⟨.missingField name,left⟩
    | none => .ok (value,rest)
  | .ok (.name body ⟨rest,lt⟩) =>
    match readText body with
    | .error f => .error f
    | .ok (name,_) =>
      let field? := s.fields.find? (·.name == name)
      if field?.isSome && seen.contains name then .error ⟨.repeatedField name,leftAtEnd rest⟩
      else
        match afterColon rest with
        | .error f => .error f
        | .ok ⟨inner,lt'⟩ =>
          match (field?.elim ignore Field.read) inner with
          | .error f => .error f
          | .ok (change,⟨after,lt''⟩) =>
            (members s false (name :: seen) (change value) after).map fun p =>
              (p.1,⟨p.2.1,Nat.lt_trans p.2.2 (Nat.lt_trans lt'' (Nat.lt_trans lt' lt))⟩)
termination_by ts.length
decreasing_by exact Nat.lt_trans lt'' (Nat.lt_trans lt' lt)

/-- The end of a list that stands for an object. -/
def listEnd (ts : List Token) : Except Fault (Rest ts) :=
  match ts with
  | [] => .error ⟨.endInList,0⟩
  | t :: rest =>
    match t.lexeme with
    | .closeList => .ok ⟨rest,Nat.lt_succ_self _⟩
    | .comma =>
      match rest with
      | [] => .error ⟨.trailingText,0⟩
      | u :: _ => .error (u.fault (if u.lexeme = .closeList then .trailingComma else .trailingText))
    | _ => .error (t.fault .trailingText)

/-- The fields of an object from the elements of a list, in order. -/
def positional (s : Shape σ) (first : Bool) (count : Nat) (value : σ) (fields : List (Field σ))
    (ts : List Token) : Except Fault (σ × Rest ts) :=
  match fields with
  | [] => (listEnd ts).map fun rest => (value,rest)
  | f :: fields =>
    match nextElement first ts with
    | .error e => .error e
    | .ok (.closed left rest) =>
      if s.mandatory then .error ⟨.tooFewElements count s.wantedElements,left⟩
      else .ok (value,rest)
    | .ok (.here rest le) =>
      match f.read rest with
      | .error e => .error e
      | .ok (change,⟨after,lt⟩) =>
        (positional s false (count+1) (change value) fields after).map fun p =>
          (p.1,⟨p.2.1,Nat.lt_trans p.2.2 (Nat.lt_of_lt_of_le lt le)⟩)

/-- Reads an object of a shape. -/
def object (s : Shape σ) : Reader σ
  | [] => .error endFault
  | t :: rest =>
    match t.lexeme with
    | .openObject =>
      (members s true [] s.blank rest).map fun p => (p.1,⟨p.2.1,Nat.lt_succ_of_lt p.2.2⟩)
    | .openList =>
      (positional s true 0 s.blank s.fields rest).map fun p =>
        (p.1,⟨p.2.1,Nat.lt_succ_of_lt p.2.2⟩)
    | _ => .error (t.kindFault s.wanted)

/-- Reads a whole text. -/
def parse (read : Reader α) (bytes : Bytes) : Except Fault α :=
  match read (tokens bytes) with
  | .error f => .error f
  | .ok (a,⟨[],_⟩) => .ok a
  | .ok (_,⟨t :: _,_⟩) => .error (t.fault .trailingText)

end WorksheetUpload.Json
