/-! Log lines: how much detail they give, and which part of the program they come from. -/
namespace WorksheetUpload

namespace Log

inductive Level
  | error | warn | info | debug | trace
  deriving DecidableEq, Repr

/-- Levels in the order of their detail. -/
def Level.rank : Level → Nat
  | error => 1
  | warn => 2
  | info => 3
  | debug => 4
  | trace => 5

def Level.name : Level → String
  | error => "ERROR"
  | warn => "WARN"
  | info => "INFO"
  | debug => "DEBUG"
  | trace => "TRACE"

/-- A line has named fields, of which its message is one. -/
structure Line where
  level : Level
  target : String
  message : String
  fields : List String
  deriving DecidableEq, Repr

/-- A line with nothing but a message. -/
def Line.plain (level : Level) (target message : String) : Line :=
  ⟨level,target,message,["message"]⟩

/-- A line that also tells where in the program it was written. -/
def Line.placed (level : Level) (target message : String) : Line :=
  ⟨level,target,message,["message","log.target","log.module_path","log.file","log.line"]⟩

/-- Characters that a terminal acts on are shown by their numbers. -/
def shown (c : Char) : List Char :=
  if c = '\x1b' ∨ c = '\x07' ∨ c = '\x08' ∨ c = '\x0c' ∨ c = '\x7f' then
    ['\\','x',Nat.digitChar (c.toNat/16),Nat.digitChar (c.toNat%16)]
  else if 0x80 ≤ c.toNat ∧ c.toNat < 0xA0 then
    ['\\','u','\x7b'] ++ Nat.toDigits 16 c.toNat ++ ['\x7d']
  else [c]

def Line.text (l : Line) : String :=
  l.level.name ++ " " ++ l.target ++ ": " ++ String.ofList (l.message.toList.flatMap shown)

end Log
end WorksheetUpload
