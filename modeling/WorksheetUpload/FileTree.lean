import WorksheetUpload.IoFault
import WorksheetUpload.Path

/-! Files, directories and symbolic links below a root, and how a path finds its way among them. -/
namespace WorksheetUpload

/-- What a name in a directory stands for. -/
inductive Node
  | file (contents : Bytes)
  | dir (entries : List (Bytes × Node))
  | link (target : Bytes)
  -- neither a file nor a directory: it has a name, and cannot be opened
  | socket

namespace Node

/-- The entry of a name, if the node is a directory that has it. -/
def entry? (name : Bytes) : Node → Option Node
  | dir entries => entries.lookup name
  | _ => none

/-- The node at the end of a way down. Links are not followed. -/
def find? : List Bytes → Node → Option Node
  | [], n => some n
  | name :: names, n => (n.entry? name).bind (find? names)

/-- Puts a node at the end of a way down, through directories that are made where they lack. -/
def put : List Bytes → Node → Node → Node
  | [], new, _ => new
  | name :: names, new, n =>
    let inner := (n.entry? name).getD (dir [])
    let others := match n with
      | dir entries => entries.filter (·.1 != name)
      | _ => []
    dir (others ++ [(name,put names new inner)])

mutual

/-- The paths of a node and of all that lies below it. Links lead nowhere. -/
def pathsFrom (path : Bytes) : Node → List Bytes
  | dir entries => path :: pathsOfEntries path entries
  | file _ => [path]
  | link _ => [path]
  | socket => [path]

def pathsOfEntries (path : Bytes) : List (Bytes × Node) → List Bytes
  | [] => []
  | (name,n) :: rest => pathsFrom (Path.child path name) n ++ pathsOfEntries path rest

end

end Node

/-- A root directory, and the way to the working directory. -/
structure FileTree where
  root : Node
  home : List Bytes

namespace FileTree

/-- A tree with nothing in its working directory. -/
def empty : FileTree := ⟨.dir [([0x77],.dir [])],[[0x77]]⟩

/-- Longest name of an entry, and longest path, in octets. -/
def nameLimit : Nat := 255
def pathLimit : Nat := 4096

/-- How many links one path may lead through. -/
def linkLimit : Nat := 40

/-- Where a path from somewhere leads: the way from the root to what is found there. -/
def walk (t : FileTree) (links : Nat) (here : List Bytes) (todo : List Bytes) :
    Except IoFault (List Bytes) :=
  match todo with
  | [] => .ok here
  | step :: todo =>
    match t.root.find? here with
    | some (.dir entries) =>
      if step = Path.dot then t.walk links here todo
      else if step = Path.dotDot then t.walk links here.dropLast todo
      else if nameLimit < step.length then .error .nameTooLong
      else match entries.lookup step with
        | none => .error .noEntry
        | some (.link target) =>
          match links with
          | 0 => .error .linkLoop
          | links+1 =>
            if target.isEmpty then .error .noEntry
            else
              t.walk links (if Path.isAbsolute target then [] else here) (Path.steps target ++ todo)
        | some _ => t.walk links (here ++ [step]) todo
    | _ => .error .notDirectory
termination_by (links,todo.length)

/-- Makes the directories of a way that lack, from a place on, and tells where the way leads. -/
def makeWay (t : FileTree) (here : List Bytes) : List Bytes → FileTree × List Bytes
  | [] => (t,here)
  | step :: steps =>
    match t.walk linkLimit here [step] with
    | .ok place => t.makeWay place steps
    | .error _ =>
      makeWay {t with root := Node.put (here ++ [step]) (.dir []) t.root} (here ++ [step]) steps

/-- Makes a directory, by its path from the working directory, unless it is there. -/
def makeDir (t : FileTree) (path : Bytes) : FileTree := (t.makeWay t.home (Path.steps path)).1

/-- Makes an entry, by its path from the working directory. -/
def put (t : FileTree) (path : Bytes) (n : Node) : FileTree :=
  let steps := (Path.steps path).filter (· != Path.dot)
  let (t,place) := t.makeWay t.home steps.dropLast
  {t with root := Node.put (place ++ steps.getLast?.toList) n t.root}

/-- What a path names, links followed. -/
def resolve (t : FileTree) (path : Bytes) : Except IoFault Node :=
  if path.contains 0 then .error .nulInName
  else if path.isEmpty then .error .noEntry
  else if pathLimit ≤ path.length then .error .nameTooLong
  else do
    let place ← t.walk linkLimit (if Path.isAbsolute path then [] else t.home) (Path.steps path)
    match t.root.find? place with
    | some n => .ok n
    | none => .error .noEntry

/-- The contents of a file. -/
def read (t : FileTree) (path : Bytes) : Except IoFault Bytes := do
  match ← t.resolve path with
  | .file contents => .ok contents
  | .socket => .error .noDevice
  | _ => .error .isDirectory

def isFile (t : FileTree) (path : Bytes) : Bool :=
  match t.resolve path with
  | .ok (.file _) => true
  | _ => false

def isDir (t : FileTree) (path : Bytes) : Bool :=
  match t.resolve path with
  | .ok (.dir _) => true
  | _ => false

/-- The name that means standard input to a listing. -/
def standardInput : Bytes := [0x2D]

/-- Whether a path means standard input; what leads nowhere may follow the name. -/
def isStandardInput (path : Bytes) : Bool :=
  match Path.pieces path with
  | name :: rest => name == standardInput && rest.all fun c => c.isEmpty || c == Path.dot
  | [] => false

/-- The paths at and below a root. A root that is a link is followed, links below it are not. -/
def pathsBelow (t : FileTree) (root : Bytes) : List Bytes :=
  if isStandardInput root then ["<stdin>".toUTF8.toList]
  else match t.resolve root with
    | .ok n => n.pathsFrom root
    | .error _ => []

/-- All regular files at and below some roots. -/
def filesBelow (t : FileTree) (roots : List Bytes) : List Bytes :=
  roots.flatMap fun root => (t.pathsBelow root).filter t.isFile

end FileTree
end WorksheetUpload
