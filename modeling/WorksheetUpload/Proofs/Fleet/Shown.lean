import WorksheetUpload.Proofs.Fleet.Basic
import WorksheetUpload.Proofs.Uploads.Identity

/-! What a widget shows is what it took in: the phase told last for each attempt, the reloads, and
the alerts less those that were put away. -/
namespace WorksheetUpload

/-- What the user types goes into the form and the tag field. -/
theorem Screen.type_eq (w : Widget) (field : Field) (text : String) (enter : Bool) :
    ∃ form tagInput, type w field text enter = {w with form,tagInput} := by
  unfold type
  split
  · exact ⟨w.form,w.tagInput,rfl⟩
  · cases field <;> cases enter <;> exact ⟨_,_,rfl⟩

theorem phasesOf_append (i : Nat) (xs ys : List Notice) :
    phasesOf i (xs ++ ys) = phasesOf i xs ++ phasesOf i ys := List.filterMap_append

namespace Widget

theorem foldl_apply_keeps (g : Widget → β) (keeps : ∀ w n, g (w.apply n) = g w) (ns : List Notice)
    (w : Widget) : g (ns.foldl apply w) = g w := by
  induction ns generalizing w with
  | nil => rfl
  | cons n ns ih => rw [List.foldl_cons,ih,keeps]

@[simp] theorem update_queue (w : Widget) : w.update.queue = [] :=
  foldl_apply_keeps (·.queue) (fun _ n => by cases n <;> rfl) _ _

theorem update_of_queue_eq_nil {w : Widget} (h : w.queue = []) : w.update = w := by
  obtain ⟨form,tagInput,directoryZone,fileZone,uploads,queue,reloadCalls⟩ := w
  obtain rfl : queue = [] := h
  rfl

@[simp] theorem update_form (w : Widget) : w.update.form = w.form :=
  foldl_apply_keeps (·.form) (fun _ n => by cases n <;> rfl) _ _

@[simp] theorem update_nextId (w : Widget) : w.update.uploads.nextId = w.uploads.nextId :=
  foldl_apply_keeps (·.uploads.nextId) (fun _ n => by cases n <;> rfl) _ _

@[simp] theorem update_fileNames (w : Widget) :
    w.update.uploads.attempts.map (·.fileName) = w.uploads.attempts.map (·.fileName) :=
  foldl_apply_keeps (·.uploads.attempts.map (·.fileName))
    (fun _ n => by
      cases n <;> simp [apply,Uploads.setPhase,Uploads.alert,Uploads.reload,Uploads.capture]) _ _

/-- What a widget shows when it took in some notices and some alerts were put away. -/
structure Shows (w : Widget) (taken : List Notice) (dismissed : List String) : Prop where
  ids : w.uploads.attempts.map (·.id) = List.range w.uploads.nextId
  phases : ∀ a ∈ w.uploads.attempts, a.phase = lastOf (phasesOf a.id taken)
  reloads : w.uploads.reloads = taken.count .reload
  calls : w.reloadCalls = taken.count .reload
  alerts : dismissed ++ w.uploads.alerts = taken.filterMap Notice.alert?

namespace Shows

variable {w v : Widget} {taken : List Notice} {dismissed : List String}

theorem initial : Widget.initial.Shows [] [] where
  ids := rfl
  phases := by simp [Widget.initial,Uploads.initial]
  reloads := rfl
  calls := rfl
  alerts := rfl

/-- Nothing else of a widget matters here. -/
theorem congr (h : w.Shows taken dismissed) (hu : v.uploads = w.uploads)
    (hc : v.reloadCalls = w.reloadCalls) : v.Shows taken dismissed := by
  obtain ⟨h₁,h₂,h₃,h₄,h₅⟩ := h
  exact ⟨hu ▸ h₁,hu ▸ h₂,hu ▸ h₃,hc ▸ h₄,hu ▸ h₅⟩

theorem nodup (h : w.Shows taken dismissed) : (w.uploads.attempts.map (·.id)).Nodup :=
  h.ids ▸ List.nodup_range

/-- Taking in one notice. -/
theorem apply (h : w.Shows taken dismissed) (n : Notice) :
    (w.apply n).Shows (taken ++ [n]) dismissed := by
  obtain ⟨hi,hp,hr,hc,ha⟩ := id h
  cases n with
  | phase i p =>
    refine ⟨?_,?_,?_,?_,?_⟩
    · simpa [Widget.apply,Uploads.setPhase] using hi
    · intro a ha
      rw [phasesOf_append]
      rcases Uploads.mem_setIn h.nodup ha with ⟨rfl,rfl⟩ | ⟨hn,ha⟩
      · simp [phasesOf,Notice.phaseOf?]
      · simpa [phasesOf,Notice.phaseOf?,Ne.symm hn] using hp a ha
    · simpa [Widget.apply,Uploads.setPhase] using hr
    · simpa [Widget.apply] using hc
    · simpa [Widget.apply,Uploads.setPhase,Notice.alert?,List.filterMap_cons] using ha
  | alert text =>
    refine ⟨hi,?_,?_,?_,?_⟩
    · simpa [Widget.apply,Uploads.alert,phasesOf,Notice.phaseOf?,List.filterMap_cons] using hp
    · simpa [Widget.apply,Uploads.alert] using hr
    · simpa [Widget.apply] using hc
    · simp [Widget.apply,Uploads.alert,Notice.alert?,← ha]
  | reload =>
    refine ⟨hi,?_,?_,?_,?_⟩
    · simpa [Widget.apply,Uploads.reload,phasesOf,Notice.phaseOf?,List.filterMap_cons] using hp
    · simp [Widget.apply,Uploads.reload,hr]
    · simp [Widget.apply,hc]
    · simpa [Widget.apply,Uploads.reload,Notice.alert?,List.filterMap_cons] using ha
  | captured paths =>
    refine ⟨hi,?_,?_,?_,?_⟩
    · simpa [Widget.apply,Uploads.capture,phasesOf,Notice.phaseOf?,List.filterMap_cons] using hp
    · simpa [Widget.apply,Uploads.capture] using hr
    · simpa [Widget.apply] using hc
    · simpa [Widget.apply,Uploads.capture,Notice.alert?,List.filterMap_cons] using ha

theorem foldl_apply (h : w.Shows taken dismissed) (ns : List Notice) :
    (ns.foldl Widget.apply w).Shows (taken ++ ns) dismissed := by
  induction ns generalizing w taken with
  | nil => simpa using h
  | cons n ns ih => simpa using ih (h.apply n)

theorem update (h : w.Shows taken dismissed) : w.update.Shows (taken ++ w.queue) dismissed :=
  (h.congr (v := {w with queue := []}) rfl rfl).foldl_apply w.queue

/-- A new attempt is idle, since nothing was told under its number. -/
theorem selectFile (h : w.Shows taken dismissed) (file : SelectedFile)
    (fresh : phasesOf w.uploads.nextId taken = []) :
    (w.selectFile file).1.Shows taken dismissed := by
  obtain ⟨hi,hp,hr,hc,ha⟩ := h
  refine ⟨?_,?_,hr,hc,ha⟩
  · simp [Widget.selectFile,Uploads.begin,hi,List.range_succ]
  · intro a ha
    rcases List.mem_append.1 ha with ha | ha
    · exact hp a ha
    · obtain rfl := List.mem_singleton.1 ha
      simp [fresh]

/-- What the user does changes alerts only when one is dismissed, which is the first. -/
theorem act (h : w.Shows taken dismissed) (action : Action) :
    (Screen.act w action).Shows taken (dismissed ++ Fleet.putAway w.uploads action) := by
  cases action with
  | dismiss =>
    obtain ⟨hi,hp,hr,hc,ha⟩ := h
    refine ⟨hi,hp,hr,hc,?_⟩
    rw [← ha,List.append_assoc]
    congr 1
    cases h : w.uploads.alerts <;> simp [Screen.act,Uploads.dismiss,Fleet.putAway,h]
  | toggleDetails =>
    obtain ⟨hi,hp,hr,hc,ha⟩ := h
    exact ⟨hi,hp,hr,hc,by simpa [Screen.act,Uploads.toggleDetails,Fleet.putAway] using ha⟩
  | nothing => exact (List.append_nil dismissed).symm ▸ h
  | removeTag index => exact (List.append_nil dismissed).symm ▸ h.congr rfl rfl
  | submitTag =>
    simp only [Screen.act,Widget.submitTag,Fleet.putAway,List.append_nil]
    exact h.congr rfl rfl
  | clear => exact (List.append_nil dismissed).symm ▸ h.congr rfl rfl

theorem type (h : w.Shows taken dismissed) (field : Field) (text : String) (enter : Bool) :
    (Screen.type w field text enter).Shows taken dismissed := by
  obtain ⟨form,tagInput,ht⟩ := Screen.type_eq w field text enter
  rw [ht]
  exact h.congr rfl rfl

end Shows
end Widget
end WorksheetUpload
