import WorksheetUpload.Phase
import WorksheetUpload.SelectedFile
import WorksheetUpload.Service

/-! The course of one upload: a bundle is created, the file is read, and its contents are put into
the bundle. Each stage that fails ends the upload with one alert; success ends it with one reload
of the worksheet. -/
namespace WorksheetUpload

/-- What an observer sees of an upload. -/
inductive Event
  | phase (p : Phase)
  | alert (text : String)
  | reload
  deriving DecidableEq, Repr

/-- A call of the service, with its answer. -/
inductive Call
  | create (target : Target) (metadata : Metadata) (answer : Except UploadError Handle)
  | upload (handle : Handle) (params : ContentParams) (contents : Bytes)
      (answer : Except UploadError Unit)

/-- One step of an upload, to the service or to the observer. -/
inductive Step
  | call (c : Call)
  | event (e : Event)

def Step.event? : Step → Option Event
  | event e => some e
  | call _ => none

def Step.call? : Step → Option Call
  | call c => some c
  | event _ => none

/-- The end of an upload, all its steps in order, and the state that it leaves. -/
structure Flow (σ : Type) where
  final : Phase
  steps : List Step
  state : σ

namespace Flow

def events (f : Flow σ) : List Event := f.steps.filterMap Step.event?
def calls (f : Flow σ) : List Call := f.steps.filterMap Step.call?

/-- Steps that come before those of a flow. -/
def after (steps : List Step) (f : Flow σ) : Flow σ := {f with steps := steps ++ f.steps}

/-- A stage that fails. -/
def fail (stage : Stage) (e : UploadError) (s : σ) : Flow σ :=
  ⟨.failed stage,[.event (.phase (.failed stage)),.event (.alert e.message)],s⟩

def succeed (h : Handle) (s : σ) : Flow σ :=
  ⟨.completed h,[.event (.phase (.completed h)),.event .reload],s⟩

/-- The stage that puts a file into its bundle. A file that cannot be read counts as a failed
request. -/
def putContents (service : Service σ) (tree : FileTree) (file : SelectedFile) (h : Handle) (s : σ) :
    Flow σ :=
  match file.read tree with
  | .error e =>
    fail .contents (.contents (service.contentsUrl h) (UploadError.reading file.name e).message) s
  | .ok contents =>
    let params := ContentParams.ofFileName file.name
    let (answer,s) := service.upload h params contents s
    let course := match answer with
      | .ok () => succeed h s
      | .error e => fail .contents e s
    course.after [.call (.upload h params contents answer)]

/-- The course of an upload. Without a file nothing happens. -/
def run (service : Service σ) (tree : FileTree) (target : Target) (pending : Option PendingUpload)
    (s : σ) : Flow σ :=
  match pending with
  | none => ⟨.idle,[],s⟩
  | some p =>
    let (answer,s) := service.create target p.metadata s
    let course := match answer with
      | .error e => fail .creation e s
      | .ok h =>
        (putContents service tree p.file h s).after
          [.event (.phase (.created h)),.event (.phase (.uploading h))]
    course.after [.event (.phase .requested),.call (.create target p.metadata answer)]

/-- Runs uploads one after another. -/
def runAll (service : Service σ) (tree : FileTree) (target : Target) :
    List (Option PendingUpload) → σ → List (Flow σ) × σ
  | [], s => ([],s)
  | p :: ps, s =>
    let f := run service tree target p s
    let rest := runAll service tree target ps f.state
    (f :: rest.1,rest.2)

end Flow
end WorksheetUpload
