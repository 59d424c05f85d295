import WorksheetUpload.Screen

/-! A user at the widget. Uploads that were begun run at once against the service, but what they
have to tell can be held back and delivered later. -/
namespace WorksheetUpload

/-- What does not change in a session. -/
structure Setting (σ : Type) where
  service : Service σ
  tree : FileTree
  target : Target

structure Session (σ : Type) where
  widget : Widget
  state : σ
  /-- The calls of all uploads so far. -/
  calls : List Call
  /-- For each attempt, what it has to tell and was not delivered. -/
  held : List (Nat × List Notice)

/-- Where the pointer is. -/
inductive Place
  | directory | file | outside | unknown
  deriving DecidableEq, Repr

namespace Place

def directoryRect : Rect := ⟨⟨20,100⟩,⟨780,200⟩⟩
def fileRect : Rect := ⟨⟨800,100⟩,⟨1560,200⟩⟩

def pointer : Place → Option Point
  | directory => some ⟨400,150⟩
  | file => some ⟨1180,150⟩
  | outside => some ⟨5,5⟩
  | unknown => none

end Place

namespace Session

def start (state : σ) : Session σ := ⟨.initial,state,[],[]⟩

def update (s : Session σ) : Session σ := {s with widget := s.widget.update}

/-- Runs a flow against the service. -/
def run (e : Setting σ) (s : Session σ) (p : PendingUpload) : Session σ × Flow σ :=
  let f := Flow.run e.service e.tree e.target (some p) s.state
  ({s with state := f.state,calls := s.calls ++ f.calls},f)

/-- Runs an upload that was begun, and holds back what it tells. -/
def runStarted (e : Setting σ) (s : Session σ) (u : Started) : Session σ :=
  let (s,f) := s.run e u.pending
  {s with held := s.held ++ [(u.attempt,f.events.map (Notice.ofEvent u.attempt))]}

/-- Delivers the next notices of an attempt, all or a number of them, and tells how many. -/
def deliver (s : Session σ) (attempt : Nat) (count : Option Nat) : Session σ × Nat :=
  let waiting := (s.held.lookup attempt).getD []
  let n := (count.map (min waiting.length)).getD waiting.length
  let held := s.held.map fun p => if p.1 = attempt then (p.1,p.2.drop n) else p
  ({s with widget := (s.widget.receiveAll (waiting.take n)).update,held},n)

/-- The user selects a file, and some of what the upload tells is delivered. -/
def select (e : Setting σ) (s : Session σ) (file : Option SelectedFile) (count : Option Nat) :
    Session σ × Nat :=
  let s := s.update
  match file with
  | none => (s,0)
  | some file =>
    let (widget,u) := s.widget.selectFile file
    (runStarted e {s with widget} u).deliver u.attempt count

/-- A flow that nobody listens to. -/
def runUnheard (e : Setting σ) (s : Session σ) (file : Option SelectedFile) :
    Session σ × Option Phase :=
  match file with
  | none => (s,none)
  | some file =>
    let (s,f) := s.run e (s.widget.form.pending file)
    (s,some f.final)

/-- Directories are listed, and the listing is delivered. -/
def capture (e : Setting σ) (s : Session σ) (roots : List Bytes) : Session σ :=
  {s with widget := (s.widget.update.receive (.captured (e.tree.filesBelow roots))).update}

/-- One frame of the window. -/
def frame (e : Setting σ) (s : Session σ) (f : Widget.Frame) : Session σ × Widget.Work :=
  let (widget,work) := s.widget.frame e.tree Place.directoryRect Place.fileRect f
  ({s with widget},work)

/-- A frame in which the user does nothing. -/
def settle (e : Setting σ) (s : Session σ) : Session σ := (s.frame e .idle).1

/-- Something hovers over the window. -/
def hover (e : Setting σ) (s : Session σ) (place : Place) (items : List DroppedItem) : Session σ :=
  ((s.settle e).frame e ⟨place.pointer,!items.isEmpty,[]⟩).1

/-- Things fall on the window, and all that this starts is brought to its end. -/
def drop (e : Setting σ) (s : Session σ) (place : Place) (items : List DroppedItem) : Session σ :=
  let (s,work) := (s.settle e).frame e ⟨place.pointer,false,items⟩
  match work with
  | .none => s
  | .listing roots => s.capture e roots
  | .uploads started =>
    let s := started.foldl (runStarted e) s
    started.foldl (fun s u => (s.deliver u.attempt none).1) s

/-- What is painted. -/
def render (e : Setting σ) (s : Session σ) : Session σ × List String :=
  let s := s.settle e
  (s,Screen.texts e.target.worksheet s.widget)

/-- A click on a text; whether there was one. -/
def click (e : Setting σ) (s : Session σ) (label : String) (nth : Nat) : Session σ × Bool :=
  let s := s.settle e
  match Screen.click? e.target.worksheet s.widget label nth with
  | some widget => (settle e {s with widget},true)
  | none => (s,false)

/-- The user types into a field. -/
def type (e : Setting σ) (s : Session σ) (field : Field) (text : String) (enter : Bool) :
    Session σ :=
  let s := s.settle e
  settle e {s with widget := Screen.type s.widget field text enter}

end Session
end WorksheetUpload
