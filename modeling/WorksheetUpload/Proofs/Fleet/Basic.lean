import WorksheetUpload.Proofs.Flow.Course
import WorksheetUpload.Screen

/-! A widget and the uploads that run beside it. Every step of an upload, every notice taken in and
everything the user does is a move of its own, so that all their orders are runs. -/
namespace WorksheetUpload

namespace Notice

/-- The phase that a notice gives to an attempt. -/
def phaseOf? (attempt : Nat) : Notice → Option Phase
  | phase i p => if i = attempt then some p else none
  | _ => none

def alert? : Notice → Option String
  | alert text => some text
  | _ => none

end Notice

/-- The phases that notices give to an attempt, in order. -/
def phasesOf (attempt : Nat) (notices : List Notice) : List Phase :=
  notices.filterMap (Notice.phaseOf? attempt)

/-- An upload under way, and what remains of it. -/
structure Underway where
  started : Started
  rest : Course

/-- A widget and its uploads, in the order in which they were begun. What the widget took in and
what the user put away are kept, so that nothing is forgotten. -/
structure Fleet where
  widget : Widget
  underway : List Underway
  taken : List Notice
  dismissed : List String

/-- What happens next: the user selects a file or dismisses the picker, an upload makes a step, a
listing arrives, the widget takes in its notices, or the user does something else to the window. -/
inductive Move
  | select (file : Option SelectedFile)
  | advance (index : Nat) (answers : Answers)
  | listed (paths : List Bytes)
  | update
  | act (action : Action)
  | type (field : Field) (text : String) (enter : Bool)
  | zones (directory file : DropZone)

/-- The files that are selected, in order. -/
def selections (moves : List Move) : List SelectedFile :=
  moves.filterMap fun
    | .select file => file
    | _ => none

namespace Fleet

def initial : Fleet := ⟨.initial,[],[],[]⟩

/-- The alert that an action puts away. -/
def putAway (u : Uploads) : Action → List String
  | .dismiss => u.alerts.take 1
  | _ => []

variable (url : Handle → String) (target : Target)

def step (f : Fleet) : Move → Fleet
  | .select none => f
  | .select (some file) =>
    let (widget,u) := f.widget.selectFile file
    {f with widget,underway := f.underway ++ [⟨u,.ofUpload url target u.pending⟩]}
  | .advance index answers =>
    match f.underway[index]? with
    | none => f
    | some u =>
      let (e,rest) := u.rest.step answers
      {f with
        widget := f.widget.receiveAll (e.toList.map (Notice.ofEvent u.started.attempt))
        underway := f.underway.set index {u with rest}}
  | .listed paths => {f with widget := f.widget.receive (.captured paths)}
  | .update => {f with widget := f.widget.update,taken := f.taken ++ f.widget.queue}
  | .act action =>
    {f with
      widget := Screen.act f.widget action
      dismissed := f.dismissed ++ putAway f.widget.uploads action}
  | .type field text enter => {f with widget := Screen.type f.widget field text enter}
  | .zones directory file =>
    {f with widget := {f.widget with directoryZone := directory,fileZone := file}}

/-- A run from the beginning. -/
def run (moves : List Move) : Fleet := moves.foldl (step url target) initial

theorem run_append_singleton (moves : List Move) (m : Move) :
    run url target (moves ++ [m]) = step url target (run url target moves) m := by
  simp [run]

end Fleet
end WorksheetUpload
