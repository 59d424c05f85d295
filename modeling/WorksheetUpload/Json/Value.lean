import WorksheetUpload.Text.Utf8

/-! Values of JSON and their shortest written form. -/
namespace WorksheetUpload.Json

/-- The values that requests are made of. The members of an object keep their order. -/
inductive Value
  | text (s : String)
  | list (elements : List Value)
  | object (members : List (String × Value))

/-- The written form of a character inside quotes: quotes, backslashes and controls are escaped. -/
def writtenChar (c : Char) : List Char :=
  if c = '"' ∨ c = '\\' then ['\\',c]
  else if c = '\x08' then ['\\','b']
  else if c = '\x0c' then ['\\','f']
  else if c = '\n' then ['\\','n']
  else if c = '\r' then ['\\','r']
  else if c = '\t' then ['\\','t']
  else if c.toNat < 0x20 then
    ['\\','u','0','0',Nat.digitChar (c.toNat/16),Nat.digitChar (c.toNat%16)]
  else [c]

def writtenText (s : String) : List Char := '"' :: s.toList.flatMap writtenChar ++ ['"']

mutual

/-- The written form of a value, without any blanks. -/
def Value.render : Value → List Char
  | .text s => writtenText s
  | .list vs => '[' :: renderElements vs ++ [']']
  | .object ms => '\x7b' :: renderMembers ms ++ ['\x7d']

/-- Elements with commas between them. -/
def renderElements : List Value → List Char
  | [] => []
  | [v] => v.render
  | v :: w :: vs => v.render ++ ',' :: renderElements (w :: vs)

/-- Members with commas between them. -/
def renderMembers : List (String × Value) → List Char
  | [] => []
  | [(k,v)] => writtenText k ++ ':' :: v.render
  | (k,v) :: m :: ms => writtenText k ++ ':' :: v.render ++ ',' :: renderMembers (m :: ms)

end

end WorksheetUpload.Json
