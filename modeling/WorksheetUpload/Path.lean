import WorksheetUpload.Text.Utf8

/-! Paths of files, as octets. Slashes divide them; empty and single-dot components lead nowhere. -/
namespace WorksheetUpload.Path

def slash : UInt8 := 0x2F
def dot : Bytes := [0x2E]
def dotDot : Bytes := [0x2E,0x2E]

/-- The pieces between slashes. -/
def pieces : Bytes → List Bytes
  | [] => [[]]
  | b :: rest =>
    if b = slash then [] :: pieces rest
    else match pieces rest with
      | [] => [[b]]
      | p :: ps => (b :: p) :: ps

def isAbsolute (p : Bytes) : Bool := p.head? == some slash

/-- The steps that a path takes. A slash at its end demands a directory, as a step to itself
does. -/
def steps (p : Bytes) : List Bytes :=
  (pieces p).filter (fun c => !c.isEmpty) ++ if p.getLast? = some slash then [dot] else []

/-- The last component of a path, unless that leads up or there is none. -/
def finalName? (p : Bytes) : Option Bytes :=
  (((pieces p).filter fun c => !c.isEmpty && c != dot).getLast?).filter (· != dotDot)

/-- The path of an entry of a directory. -/
def child (p name : Bytes) : Bytes :=
  if p.getLast?.all (· == slash) then p ++ name else p ++ slash :: name

end WorksheetUpload.Path
