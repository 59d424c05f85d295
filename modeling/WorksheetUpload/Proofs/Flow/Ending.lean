import Mathlib.Data.List.Basic
import WorksheetUpload.Flow

/-! The ways an upload can go. Each of them fixes every call and every event in their order, and an
upload goes exactly one of them, whatever the service answers. -/
namespace WorksheetUpload

namespace Event

def phase? : Event → Option Phase
  | phase p => some p
  | _ => none

def alert? : Event → Option String
  | alert text => some text
  | _ => none

def isAlert (e : Event) : Bool := e.alert?.isSome

end Event

def Call.isUpload : Call → Bool
  | upload _ _ _ _ => true
  | create _ _ _ => false

/-- How an upload went. A file that could not be read is told by the words for it. -/
inductive Ending
  | refused (e : UploadError)
  | unread (h : Handle) (reason : String)
  | rejected (h : Handle) (contents : Bytes) (e : UploadError)
  | stored (h : Handle) (contents : Bytes)

namespace Ending

/-- What an upload ends with when a stage fails. -/
def failing (stage : Stage) (alert : String) : List Step :=
  [.event (.phase (.failed stage)),.event (.alert alert)]

/-- The steps until the contents are dealt with. -/
def opened (target : Target) (p : PendingUpload) (h : Handle) : List Step :=
  [.event (.phase .requested),.call (.create target p.metadata (.ok h)),
    .event (.phase (.created h)),.event (.phase (.uploading h))]

/-- The one call that hands over the contents. -/
def handing (p : PendingUpload) (h : Handle) (contents : Bytes) (answer : Except UploadError Unit) :
    Step :=
  .call (.upload h (.ofFileName p.file.name) contents answer)

/-- A file that could not be read fails the request that was to carry it. -/
def unreadError (url name reason : String) : UploadError :=
  .contents url ("Failed to read " ++ name ++ ": " ++ reason)

/-- All calls and events, in order. -/
def steps (url : Handle → String) (target : Target) (p : PendingUpload) : Ending → List Step
  | refused e =>
    [.event (.phase .requested),.call (.create target p.metadata (.error e))] ++
      failing .creation e.message
  | unread h reason =>
    opened target p h ++ failing .contents (unreadError (url h) p.file.name reason).message
  | rejected h contents e =>
    opened target p h ++ handing p h contents (.error e) :: failing .contents e.message
  | stored h contents =>
    opened target p h ++
      [handing p h contents (.ok ()),.event (.phase (.completed h)),.event .reload]

def final : Ending → Phase
  | refused _ => .failed .creation
  | unread _ _ => .failed .contents
  | rejected _ _ _ => .failed .contents
  | stored h _ => .completed h

/-- Whether what the service answers from a state on, and what the file holds, lead here. -/
def Fits (service : Service σ) (tree : FileTree) (target : Target) (p : PendingUpload) (s : σ) :
    Ending → Prop
  | refused e => (service.create target p.metadata s).1 = .error e
  | unread h reason =>
    (service.create target p.metadata s).1 = .ok h ∧
      ∃ fault : IoFault, p.file.read tree = .error fault ∧ fault.message = reason
  | rejected h contents e =>
    (service.create target p.metadata s).1 = .ok h ∧ p.file.read tree = .ok contents ∧
      (service.upload h (.ofFileName p.file.name) contents
        (service.create target p.metadata s).2).1 = .error e
  | stored h contents =>
    (service.create target p.metadata s).1 = .ok h ∧ p.file.read tree = .ok contents ∧
      (service.upload h (.ofFileName p.file.name) contents
        (service.create target p.metadata s).2).1 = .ok ()

variable (url : Handle → String) (target : Target) (p : PendingUpload)

end Ending

namespace Flow

/-- An upload goes the way that the answers and the file lead. -/
theorem run_fits (service : Service σ) (tree : FileTree) (target : Target) (p : PendingUpload)
    (s : σ) :
    ∃ k : Ending, k.Fits service tree target p s ∧
      (run service tree target (some p) s).final = k.final ∧
      (run service tree target (some p) s).steps = k.steps service.contentsUrl target p := by
  cases hc : (service.create target p.metadata s).1 with
  | error e =>
    refine ⟨.refused e,hc,?_⟩
    simp [run,hc,after,fail,Ending.steps,Ending.final,Ending.failing]
  | ok h =>
    cases hr : p.file.read tree with
    | error fault =>
      refine ⟨.unread h fault.message,⟨hc,fault,hr,rfl⟩,?_⟩
      simp [run,hc,putContents,hr,after,fail,Ending.steps,Ending.final,Ending.opened,Ending.failing,
        Ending.unreadError]
    | ok contents =>
      cases hu : (service.upload h (.ofFileName p.file.name) contents
          (service.create target p.metadata s).2).1 with
      | error e =>
        refine ⟨.rejected h contents e,⟨hc,hr,hu⟩,?_⟩
        simp [run,hc,putContents,hr,hu,after,fail,Ending.steps,Ending.final,Ending.opened,
          Ending.handing,Ending.failing]
      | ok _ =>
        refine ⟨.stored h contents,⟨hc,hr,hu⟩,?_⟩
        simp [run,hc,putContents,hr,hu,after,succeed,Ending.steps,Ending.final,Ending.opened,
          Ending.handing]

/-- What an upload hands over is what its file holds, under the name of the file. -/
theorem upload_mem_calls_iff {service : Service σ} {tree : FileTree} {target : Target}
    {p : PendingUpload} {s : σ} {h : Handle} {params : ContentParams} {contents : Bytes} :
    (∃ answer, .upload h params contents answer ∈ (run service tree target (some p) s).calls) ↔
      (service.create target p.metadata s).1 = .ok h ∧ .ofFileName p.file.name = params ∧
        p.file.read tree = .ok contents := by
  obtain ⟨k,fits,-,steps⟩ := run_fits service tree target p s
  rw [calls,steps]
  cases k with
  | refused e =>
    have refused : (service.create target p.metadata s).1 = .error e := fits
    simp [Ending.steps,Ending.failing,Step.call?,refused]
  | unread h' reason =>
    obtain ⟨created,fault,unread,-⟩ := fits
    simp [Ending.steps,Ending.opened,Ending.failing,Step.call?,created,unread]
  | rejected h' contents' e =>
    obtain ⟨created,read,-⟩ := fits
    simp [Ending.steps,Ending.opened,Ending.handing,Ending.failing,Step.call?,created,read]
  | stored h' contents' =>
    obtain ⟨created,read,-⟩ := fits
    simp [Ending.steps,Ending.opened,Ending.handing,Step.call?,created,read]

end Flow
end WorksheetUpload
