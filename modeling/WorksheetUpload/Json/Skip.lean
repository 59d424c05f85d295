import WorksheetUpload.Json.Token

/-! Passing over a value of any shape, one token at a time, with the open brackets on a stack. -/
namespace WorksheetUpload.Json

inductive Bracket
  | list | object
  deriving DecidableEq, Repr

/-- What a value that is being skipped needs next. -/
inductive Need
  /-- A value. -/
  | value
  /-- The first element of a list, or its end. -/
  | element
  /-- The first name of an object, or its end. -/
  | name
  /-- A further name of an object. -/
  | nextName
  /-- The colon after a name. -/
  | colon
  /-- A comma, or the end of the innermost bracket. -/
  | comma
  deriving DecidableEq, Repr

/-- The fault of a text that ends where something is needed. -/
def Need.endFault (opened : List Bracket) : Need → Fault
  | value => ⟨.endInValue,0⟩
  | element => ⟨.endInList,0⟩
  | name | nextName | colon => ⟨.endInObject,0⟩
  | comma => ⟨if opened.head? = some .list then .endInList else .endInObject,0⟩

/-- What is left to do after a token. -/
inductive Next
  | done
  | more (opened : List Bracket) (need : Need)

/-- After a value, its surroundings need a comma or their end. -/
def Next.afterValue (opened : List Bracket) : Next :=
  if opened.isEmpty then done else more opened .comma

/-- A token in the place of a value. -/
def stepValue (opened : List Bracket) (t : Token) : Except Fault Next :=
  match t.lexeme with
  | .openList => .ok (.more (.list :: opened) .element)
  | .openObject => .ok (.more (.object :: opened) .name)
  | .null | .truth _ | .number _ | .text _ => t.stop.map fun _ => .afterValue opened
  | _ => .error (t.fault .badValue)

/-- One token of a value that is being skipped. -/
def step (opened : List Bracket) (need : Need) (t : Token) : Except Fault Next :=
  match need with
  | .value => stepValue opened t
  | .element =>
    if t.lexeme = .closeList then .ok (.afterValue opened.tail) else stepValue opened t
  | .name | .nextName =>
    match t.lexeme with
    | .closeObject =>
      if need = .name then .ok (.afterValue opened.tail) else .error (t.fault .keyNotText)
    | .text _ => t.stop.map fun _ => .more opened .colon
    | _ => .error (t.fault .keyNotText)
  | .colon =>
    if t.lexeme = .colon then .ok (.more opened .value) else .error (t.fault .missingColon)
  | .comma =>
    match opened.head?, t.lexeme with
    | some .object, .comma => .ok (.more opened .nextName)
    | some .object, .closeObject => .ok (.afterValue opened.tail)
    | some .object, _ => .error (t.fault .missingObjectComma)
    | _, .comma => .ok (.more opened .value)
    | _, .closeList => .ok (.afterValue opened.tail)
    | _, _ => .error (t.fault .missingListComma)

/-- What follows a value, given what is still needed of it. -/
def skipFrom (opened : List Bracket) (need : Need) : List Token → Except Fault (List Token)
  | [] => .error (need.endFault opened)
  | t :: rest =>
    match step opened need t with
    | .error f => .error f
    | .ok .done => .ok rest
    | .ok (.more opened need) => skipFrom opened need rest

theorem skipFrom_length {opened : List Bracket} {need : Need} {ts rest : List Token}
    (h : skipFrom opened need ts = .ok rest) : rest.length < ts.length := by
  induction ts generalizing opened need with
  | nil => cases h
  | cons t more ih =>
    rw [skipFrom] at h
    split at h
    · cases h
    · injection h with h; subst h; exact Nat.lt_succ_self _
    · exact Nat.lt_succ_of_lt (ih h)

/-- What follows the value at the head. -/
def skip (ts : List Token) : Except Fault (List Token) := skipFrom [] .value ts

theorem skip_length {ts rest : List Token} (h : skip ts = .ok rest) : rest.length < ts.length :=
  skipFrom_length h

end WorksheetUpload.Json
