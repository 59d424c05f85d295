import Mathlib.Data.List.Induction
import Mathlib.Logic.Relation
import WorksheetUpload.Proofs.Flow.Ending

/-! How far an upload has come by what it told so far: its phases go forward only, and its one alert
or reload follows the phase that it ended with. -/
namespace WorksheetUpload

namespace Phase

/-- The next phase. The handle stays the one that the bundle was created with. -/
inductive Next : Phase → Phase → Prop
  | requested : Next .idle .requested
  | refused : Next .requested (.failed .creation)
  | created (h : Handle) : Next .requested (.created h)
  | uploading (h : Handle) : Next (.created h) (.uploading h)
  | rejected (h : Handle) : Next (.uploading h) (.failed .contents)
  | completed (h : Handle) : Next (.uploading h) (.completed h)

/-- A phase at or after another. -/
def Reaches : Phase → Phase → Prop := Relation.ReflTransGen Next

theorem Next.not_finished {p q : Phase} (h : p.Next q) : p.isFinished = false := by
  cases h <;> rfl

/-- An upload that ended stays as it is. -/
theorem Reaches.eq_of_finished {p q : Phase} (h : p.Reaches q) (hp : p.isFinished = true) :
    q = p := by
  cases h.cases_head with
  | inl h => exact h.symm
  | inr h =>
    obtain ⟨r,hr,-⟩ := h
    rw [hr.not_finished] at hp
    contradiction

end Phase

/-- The phase told last. An upload that told none is idle. -/
def lastOf (phases : List Phase) : Phase := phases.getLast?.getD .idle

@[simp] theorem lastOf_nil : lastOf [] = .idle := rfl

@[simp] theorem lastOf_append_singleton (phases : List Phase) (p : Phase) :
    lastOf (phases ++ [p]) = p := by simp [lastOf]

/-- What an upload may have told at some moment: the events, the phase that was told last, and
whether an alert or a reload is still due. -/
inductive Told : List Event → Phase → Bool → Prop
  | nothing : Told [] .idle false
  | phase {es p q} (h : Told es p false) (next : p.Next q) : Told (es ++ [.phase q]) q q.isFinished
  | alert {es stage} (text : String) (h : Told es (.failed stage) true) :
      Told (es ++ [.alert text]) (.failed stage) false
  | reload {es handle} (h : Told es (.completed handle) true) :
      Told (es ++ [.reload]) (.completed handle) false

namespace Told

variable {es : List Event} {p : Phase} {due : Bool}

theorem lastOf_phases (h : Told es p due) : lastOf (es.filterMap Event.phase?) = p := by
  induction h with
  | nothing => rfl
  | phase h next ih => simp [Event.phase?]
  | alert text h ih => simpa [List.filterMap_cons,Event.phase?] using ih
  | reload h ih => simpa [List.filterMap_cons,Event.phase?] using ih

/-- There is one alert for a failure, and it comes after its phase. -/
theorem alerts (h : Told es p due) : es.countP Event.isAlert = (p.isFailed && !due).toNat := by
  induction h with
  | nothing => rfl
  | @phase es p q h next ih =>
    rw [List.countP_append,ih]
    cases next <;> rfl
  | alert text h ih => rw [List.countP_append,ih]; rfl
  | reload h ih => rw [List.countP_append,ih]; rfl

/-- There is one reload for a success, and it comes after its phase. -/
theorem reloads (h : Told es p due) : es.count .reload = (p.isCompleted && !due).toNat := by
  induction h with
  | nothing => rfl
  | @phase es p q h next ih =>
    rw [List.count_append,ih]
    cases next <;> rfl
  | alert text h ih => rw [List.count_append,ih]; rfl
  | reload h ih => rw [List.count_append,ih]; rfl

/-- What was told earlier was told on the way, and the phases since then went forward. -/
theorem before {earlier later : List Event} (h : Told (earlier ++ later) p due) :
    ∃ q due', Told earlier q due' ∧ q.Reaches p := by
  induction later using List.reverseRecOn generalizing p due with
  | nil =>
    rw [List.append_nil] at h
    exact ⟨p,due,h,.refl⟩
  | append_singleton later e ih =>
    rw [← List.append_assoc] at h
    generalize hes : earlier ++ later ++ [e] = es at h
    cases h with
    | nothing => simp at hes
    | phase h next =>
      obtain ⟨rfl,-⟩ := List.append_inj' hes rfl
      obtain ⟨q,due',hq,hr⟩ := ih h
      exact ⟨q,due',hq,hr.tail next⟩
    | alert text h =>
      obtain ⟨rfl,-⟩ := List.append_inj' hes rfl
      exact ih h
    | reload h =>
      obtain ⟨rfl,-⟩ := List.append_inj' hes rfl
      exact ih h

end Told

/-- What an upload tells along any of its ways. -/
theorem Ending.told (url : Handle → String) (target : Target) (p : PendingUpload) (k : Ending) :
    Told ((k.steps url target p).filterMap Step.event?) k.final false := by
  have opened (h : Handle) :
      Told ((Ending.opened target p h).filterMap Step.event?) (.uploading h) false :=
    .phase (.phase (.phase .nothing .requested) (.created h)) (.uploading h)
  cases k with
  | refused e => exact .alert _ (.phase (.phase .nothing .requested) .refused)
  | unread h reason => exact .alert _ (.phase (opened h) (.rejected h))
  | rejected h contents e => exact .alert _ (.phase (opened h) (.rejected h))
  | stored h contents => exact .reload (.phase (opened h) (.completed h))

end WorksheetUpload
