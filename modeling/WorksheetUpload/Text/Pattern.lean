import WorksheetUpload.Text.Classes

/-! Search patterns: whether a text is one. Groups and classes have to be closed, a repetition has
to follow something, and each escape has to mean something. Counted repetitions are not needed
here, so a brace is none. -/
namespace WorksheetUpload.Text
namespace Pattern

/-- What an escape stands for. -/
inductive Escape
  | char (c : Char)
  | charClass
  /-- An end of the text. -/
  | edge
  /-- A place where a word begins or ends. -/
  | wordEdge
  deriving DecidableEq, Repr

def hexValue? (digits : List Char) : Option Nat :=
  let value (c : Char) : Option Nat :=
    if c.isDigit then some (c.toNat-48)
    else if 'a' ≤ c.toLower ∧ c.toLower ≤ 'f' then some (c.toLower.toNat-87) else none
  (digits.mapM value).map (·.foldl (fun n d => n*16+d) 0)

/-- A character given by so many hexadecimal digits. -/
def hexEscape? (count : Nat) (text : List Char) : Option (Escape × List Char) := do
  guard (count ≤ text.length)
  let n ← hexValue? (text.take count)
  guard n.isValidChar
  return (.char (Char.ofNat n),text.drop count)

/-- The escape behind a backslash, and what follows it. -/
def escape? : List Char → Option (Escape × List Char)
  | [] => none
  | c :: rest =>
    if c = 'x' then hexEscape? 2 rest
    else if c = 'u' then hexEscape? 4 rest
    else if c = 'U' then hexEscape? 8 rest
    else if c = 'p' ∨ c = 'P' then
      match rest with
      | category :: rest =>
        if "clmnpsz".toList.contains category.toLower then some (.charClass,rest) else none
      | [] => none
    else if "dDsSwW".toList.contains c then some (.charClass,rest)
    else if "aftnrv".toList.contains c then some (.char c,rest)
    else if c = 'A' ∨ c = 'z' then some (.edge,rest)
    else if "bB<>".toList.contains c then some (.wordEdge,rest)
    else if c.isAlphanum || 0x7F < c.toNat then none
    else some (.char c,rest)

/-- The names of classes that may stand between colons. -/
def classNames : List String :=
  ["alnum","alpha","ascii","blank","cntrl","digit","graph","lower","print","punct","space","upper",
    "word","xdigit"]

/-- What follows a named class, given the text behind its bracket. -/
def namedClass? : List Char → Option (List Char)
  | ':' :: text =>
    let text := if text.head? = some '^' then text.drop 1 else text
    match text.dropWhile (· != ':') with
    | ':' :: ']' :: rest =>
      if classNames.contains (String.ofList (text.takeWhile (· != ':'))) then some rest else none
    | _ => none
  | _ => none

/-- What follows the opening of a class: a bar against its members, then dashes, or else a closing
bracket, that stand for themselves. -/
def classHead (text : List Char) : List Char :=
  let text := if text.head? = some '^' then text.drop 1 else text
  let inner := text.dropWhile (· == '-')
  if inner.length = text.length ∧ inner.head? = some ']' then inner.drop 1 else inner

/-- One member of a class: the character, if it is a single one, and what follows. -/
def member? : List Char → Option (Option Char × List Char)
  | [] => none
  | '\\' :: text =>
    match escape? text with
    | some (.char c,rest) => some (some c,rest)
    | some (.charClass,rest) => some (none,rest)
    | _ => none
  | c :: rest => some (some c,rest)

/-- A member or a range of them, and what follows. -/
def memberOrRange? (text : List Char) : Option (List Char) := do
  let (first,rest) ← member? text
  match rest with
  | '-' :: ']' :: _ | '-' :: '-' :: _ => return rest
  | '-' :: rest =>
    let (last,rest) ← member? rest
    guard ((← first) ≤ (← last))
    return rest
  | _ => return rest

/-- What follows a class whose opening has been read, when so many classes lie around it. -/
def closeClass? : Nat → Nat → List Char → Option (List Char)
  | 0, _, _ => none
  | fuel+1, around, text =>
    match text with
    | [] => none
    | '[' :: rest =>
      match namedClass? rest with
      | some rest => closeClass? fuel around rest
      | none => closeClass? fuel (around+1) (classHead rest)
    | ']' :: rest =>
      match around with
      | 0 => some rest
      | around+1 => closeClass? fuel around rest
    | '&' :: '&' :: rest | '-' :: '-' :: rest | '~' :: '~' :: rest => closeClass? fuel around rest
    | _ => (memberOrRange? text).bind (closeClass? fuel around)

/-- What a group begins with. -/
inductive Head
  | plain
  | named (name : List Char)
  /-- Flags for the rest of the group around them, given by whether words of all scripts count. -/
  | flags (allScripts : Option Bool)
  /-- Flags for the group itself. -/
  | flagged (allScripts : Option Bool)
  deriving DecidableEq, Repr

/-- Flags up to a colon or bracket: each occurs once, and a dash turns off those behind it. -/
def flags? (seen : List Char) (allScripts : Option Bool) :
    List Char → Option (List Char × Option Bool × List Char)
  | [] => none
  | c :: rest =>
    if c = ':' ∨ c = ')' then
      if seen.head? = some '-' then none else some (seen,allScripts,c :: rest)
    else if seen.contains c || !"-imsUuRx".toList.contains c then none
    else flags? (c :: seen) (if c = 'u' then some (!seen.contains '-') else allScripts) rest

/-- The name of a group up to its closing mark, and what follows it. -/
def name? (text : List Char) : Option (Head × List Char) :=
  let inName (c : Char) : Bool := isAlphanumeric c || "_.[]".toList.contains c
  match text,text.dropWhile inName with
  | c :: _,'>' :: rest =>
    if (isAlphanumeric c && !c.isDigit) || c == '_' then
      some (.named (text.takeWhile inName),rest)
    else none
  | _,_ => none

/-- The beginning of a group behind its bracket, and what follows it. -/
def head? : List Char → Option (Head × List Char)
  | '?' :: 'P' :: '<' :: rest | '?' :: '<' :: rest => name? rest
  | '?' :: rest =>
    match flags? [] none rest with
    | some (_,allScripts,':' :: rest) => some (.flagged allScripts,rest)
    | some (seen,allScripts,')' :: rest) =>
      if seen.isEmpty then none else some (.flags allScripts,rest)
    | _ => none
  | rest => some (.plain,rest)

/-- How far a pattern has been read: for each group around the place, whether words of all scripts
count outside it; whether they do inside; the names given so far; and whether a repetition may
follow. -/
structure Place where
  groups : List Bool
  allScripts : Bool
  names : List (List Char)
  repeatable : Bool

/-- Whether a pattern may go on with a text. Edges of words in all scripts are not searched for. -/
def goesOn : Nat → Place → List Char → Bool
  | 0, _, _ => false
  | fuel+1, p, text =>
    let after := {p with repeatable := true}
    let fresh := {p with repeatable := false}
    match text with
    | [] => p.groups.isEmpty
    | '(' :: rest =>
      match head? rest with
      | none => false
      | some (.plain,rest) => goesOn fuel {fresh with groups := p.allScripts :: p.groups} rest
      | some (.named name,rest) =>
        !p.names.contains name &&
          goesOn fuel {fresh with
            groups := p.allScripts :: p.groups,names := name :: p.names} rest
      | some (.flags allScripts,rest) =>
        goesOn fuel {fresh with allScripts := allScripts.getD p.allScripts} rest
      | some (.flagged allScripts,rest) =>
        goesOn fuel {fresh with
          groups := p.allScripts :: p.groups,allScripts := allScripts.getD p.allScripts} rest
    | ')' :: rest =>
      match p.groups with
      | [] => false
      | outside :: groups => goesOn fuel {after with groups := groups,allScripts := outside} rest
    | '|' :: rest => goesOn fuel fresh rest
    | '{' :: _ => false
    | '[' :: rest =>
      match closeClass? rest.length.succ 0 (classHead rest) with
      | some rest => goesOn fuel after rest
      | none => false
    | '\\' :: rest =>
      match escape? rest with
      | none => false
      | some (.wordEdge,rest) => !p.allScripts && goesOn fuel after rest
      | some (_,rest) => goesOn fuel after rest
    | c :: rest =>
      if c = '*' ∨ c = '+' ∨ c = '?' then
        p.repeatable && goesOn fuel after (if rest.head? = some '?' then rest.drop 1 else rest)
      else goesOn fuel after rest

end Pattern

/-- Whether a text is a search pattern. -/
def isPattern (text : List Char) : Bool := Pattern.goesOn text.length.succ ⟨[],true,[],false⟩ text

end WorksheetUpload.Text
