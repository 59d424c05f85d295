import WorksheetUpload.Path
import WorksheetUpload.Phase

/-! The uploads that were begun, each under a number of its own, and what they left to show. -/
namespace WorksheetUpload

structure Attempt where
  id : Nat
  fileName : String
  phase : Phase
  deriving DecidableEq, Repr

/-- All that the user can see of the uploads so far. Numbers are never given twice. -/
structure Uploads where
  attempts : List Attempt
  alerts : List String
  captured : List Bytes
  reloads : Nat
  showDetails : Bool
  nextId : Nat
  deriving DecidableEq, Repr

namespace Uploads

def initial : Uploads := ⟨[],[],[],0,false,0⟩

/-- Begins an upload. -/
def begin (u : Uploads) (fileName : String) : Uploads × Nat :=
  ({u with attempts := u.attempts ++ [⟨u.nextId,fileName,.idle⟩],nextId := u.nextId+1},u.nextId)

/-- Changes the phase of the first attempt of a number. -/
def setIn (id : Nat) (phase : Phase) : List Attempt → List Attempt
  | [] => []
  | a :: rest => if a.id = id then {a with phase} :: rest else a :: setIn id phase rest

def setPhase (u : Uploads) (id : Nat) (phase : Phase) : Uploads :=
  {u with attempts := setIn id phase u.attempts}

/-- Removes the attempt at a place. -/
def forget (u : Uploads) (index : Nat) : Uploads := {u with attempts := u.attempts.eraseIdx index}

def completed (u : Uploads) : Nat := u.attempts.countP (·.phase.isCompleted)
def failed (u : Uploads) : Nat := u.attempts.countP (·.phase.isFailed)
def inFlight (u : Uploads) : Nat := u.attempts.countP fun a => !a.phase.isFinished

def statusText (u : Uploads) : String :=
  "In progress: " ++ toString u.inFlight ++ " | ✅ Uploaded: " ++ toString u.completed ++
    " | ❌ Failed: " ++ toString u.failed

def alert (u : Uploads) (text : String) : Uploads := {u with alerts := u.alerts ++ [text]}

/-- Takes away the alert that is shown. -/
def dismiss (u : Uploads) : Uploads := {u with alerts := u.alerts.tail}

def reload (u : Uploads) : Uploads := {u with reloads := u.reloads+1}

def capture (u : Uploads) (paths : List Bytes) : Uploads := {u with captured := paths}

def toggleDetails (u : Uploads) : Uploads := {u with showDetails := !u.showDetails}

end Uploads
end WorksheetUpload
