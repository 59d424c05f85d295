import WorksheetUpload.Proofs.Fleet.Shown

/-! Where the notices of a widget come from. Those it took in and those still in its queue are together
what its uploads told, each in its own order, with the listings in between. -/
namespace WorksheetUpload

/-- A notice with its origin. -/
inductive Sent
  | told (attempt : Nat) (e : Event)
  | listed (paths : List Bytes)

namespace Sent

def notice : Sent → Notice
  | told attempt e => .ofEvent attempt e
  | listed paths => .captured paths

def eventOf? (attempt : Nat) : Sent → Option Event
  | told i e => if i = attempt then some e else none
  | listed _ => none

end Sent

/-- What one upload told, in order. -/
def eventsOf (attempt : Nat) (sent : List Sent) : List Event :=
  sent.filterMap (Sent.eventOf? attempt)

@[simp] theorem eventsOf_append (i : Nat) (xs ys : List Sent) :
    eventsOf i (xs ++ ys) = eventsOf i xs ++ eventsOf i ys := List.filterMap_append

theorem eventsOf_told (i j : Nat) (es : List Event) :
    eventsOf j (es.map (Sent.told i)) = if i = j then es else [] := by
  split
  case isTrue h => simp [eventsOf,Sent.eventOf?,List.filterMap_map,Function.comp_def,h]
  case isFalse h => simp [eventsOf,Sent.eventOf?,List.filterMap_map,Function.comp_def,h]

/-- The phases in the notices of an attempt are those that its upload told. -/
theorem phasesOf_notices (i : Nat) (sent : List Sent) :
    phasesOf i (sent.map Sent.notice) = (eventsOf i sent).filterMap Event.phase? := by
  simp only [phasesOf,eventsOf,List.filterMap_map,List.filterMap_filterMap]
  congr 1
  funext s
  cases s with
  | told j e =>
    by_cases h : j = i <;> cases e <;>
      simp [Sent.notice,Notice.ofEvent,Notice.phaseOf?,Sent.eventOf?,Event.phase?,h]
  | listed paths => rfl

namespace Fleet

/-- What stands in a list with one more element stood there before, or is the new one. -/
theorem of_getElem?_concat {us : List Underway} {u v : Underway} {i : Nat}
    (h : (us ++ [v])[i]? = some u) : us[i]? = some u ∨ i = us.length ∧ u = v := by
  rw [List.getElem?_append] at h
  split at h
  · exact .inl h
  · rw [List.getElem?_singleton] at h
    split at h
    · exact .inr ⟨by omega,(Option.some.inj h).symm⟩
    · contradiction

/-- What stands in a list with one element changed is the changed one, or stood there before. -/
theorem of_getElem?_set {us : List Underway} {u v : Underway} {i j : Nat}
    (h : (us.set i v)[j]? = some u) : j = i ∧ u = v ∨ j ≠ i ∧ us[j]? = some u := by
  rw [List.getElem?_set] at h
  split at h
  case isTrue hij =>
    split at h
    · exact .inl ⟨hij.symm,(Option.some.inj h).symm⟩
    · contradiction
  case isFalse hij => exact .inr ⟨Ne.symm hij,h⟩

theorem map_set_eq {us : List Underway} {u v : Underway} {i : Nat} (g : Underway → β)
    (hu : us[i]? = some u) (hg : g v = g u) : (us.set i v).map g = us.map g := by
  obtain ⟨hi,rfl⟩ := List.getElem?_eq_some_iff.1 hu
  rw [List.map_set,hg,← List.getElem_map g (h := by simpa using hi),List.set_getElem_self]

variable (url : Handle → String) (target : Target)

/-- How the notices of a widget came to it. What an upload told so far, with any way on from where it
stands, is a way of the whole upload. -/
structure Comes (f : Fleet) (sent : List Sent) : Prop where
  notices : sent.map Sent.notice = f.taken ++ f.widget.queue
  nextId : f.widget.uploads.nextId = f.underway.length
  names : f.widget.uploads.attempts.map (·.fileName) =
    f.underway.map (·.started.pending.file.name)
  known : ∀ i e, .told i e ∈ sent → i < f.underway.length
  numbers : ∀ i (u : Underway), f.underway[i]? = some u → u.started.attempt = i
  ways : ∀ i (u : Underway), f.underway[i]? = some u → ∀ es final, u.rest.Leads es final →
    (Course.ofUpload url target u.started.pending).Leads (eventsOf i sent ++ es) final

namespace Comes

variable {url target} {f g : Fleet} {sent : List Sent}

theorem initial : Fleet.initial.Comes url target [] where
  notices := rfl
  nextId := rfl
  names := rfl
  known := by simp
  numbers := by simp [Fleet.initial]
  ways := by simp [Fleet.initial]

/-- Nothing else of a fleet matters here. -/
theorem congr (h : f.Comes url target sent)
    (hn : g.taken ++ g.widget.queue = f.taken ++ f.widget.queue)
    (hi : g.widget.uploads.nextId = f.widget.uploads.nextId)
    (hf : g.widget.uploads.attempts.map (·.fileName) = f.widget.uploads.attempts.map (·.fileName))
    (hu : g.underway = f.underway) : g.Comes url target sent := by
  obtain ⟨h₁,h₂,h₃,h₄,h₅,h₆⟩ := h
  exact ⟨hn ▸ h₁,by rw [hi,hu,h₂],by rw [hf,hu,h₃],hu ▸ h₄,hu ▸ h₅,hu ▸ h₆⟩

/-- No upload told anything under a number that was not given yet. -/
theorem eventsOf_length (h : f.Comes url target sent) : eventsOf f.underway.length sent = [] := by
  rw [eventsOf,List.filterMap_eq_nil_iff]
  intro s hs
  cases s with
  | listed paths => rfl
  | told i e =>
    simp [Sent.eventOf?,Nat.ne_of_lt (h.known i e hs)]

theorem phasesOf_nextId (h : f.Comes url target sent) :
    phasesOf f.widget.uploads.nextId f.taken = [] := by
  have hs := phasesOf_notices f.underway.length sent
  rw [h.eventsOf_length,h.notices,phasesOf_append,← h.nextId] at hs
  exact (List.append_eq_nil_iff.1 hs).1

/-- A new upload has told nothing, and all its ways are before it. -/
theorem select (h : f.Comes url target sent) (file : SelectedFile) :
    (f.step url target (.select (some file))).Comes url target sent := by
  obtain ⟨hq,hi,hf,hk,hn,hw⟩ := id h
  refine ⟨hq,?_,?_,?_,?_,?_⟩
  · simp [step,Widget.selectFile,Uploads.begin,hi]
  · simp [step,Widget.selectFile,Uploads.begin,hf,Form.pending]
  · intro i e hs
    simpa [step] using Nat.lt_succ_of_lt (hk i e hs)
  · intro i u hu
    rcases of_getElem?_concat hu with hu | ⟨rfl,rfl⟩
    · exact hn i u hu
    · exact hi
  · intro i u hu es final hl
    rcases of_getElem?_concat hu with hu | ⟨rfl,rfl⟩
    · exact hw i u hu es final hl
    · rw [h.eventsOf_length]
      exact hl

/-- What an upload tells in a step goes into the queue, and the ways on from there were ways on
before. -/
theorem advance (h : f.Comes url target sent) (index : Nat) (a : Answers) :
    ∃ later, (f.step url target (.advance index a)).Comes url target (sent ++ later) := by
  obtain ⟨hq,hi,hf,hk,hn,hw⟩ := id h
  cases hu : f.underway[index]? with
  | none => exact ⟨[],by simpa [step,hu] using h⟩
  | some u =>
    have hlt : index < f.underway.length := (List.getElem?_eq_some_iff.1 hu).1
    have he : step url target f (.advance index a) =
        {f with
          widget := f.widget.receiveAll ((u.rest.step a).1.toList.map (Notice.ofEvent index))
          underway := f.underway.set index {u with rest := (u.rest.step a).2}} := by
      simp [step,hu,hn index u hu]
    refine ⟨(u.rest.step a).1.toList.map (Sent.told index),?_⟩
    rw [he]
    refine ⟨?_,?_,?_,?_,?_,?_⟩
    · simp [Widget.receiveAll,hq,Sent.notice]
    · rw [List.length_set]; exact hi
    · exact hf.trans (map_set_eq (v := ⟨u.started,(u.rest.step a).2⟩) (·.started.pending.file.name)
        hu rfl).symm
    · intro i e hs
      rw [List.length_set]
      rcases List.mem_append.1 hs with hs | hs
      · exact hk i e hs
      · obtain ⟨_,-,h⟩ := List.mem_map.1 hs
        cases h
        exact hlt
    · intro i v hv
      rcases of_getElem?_set hv with ⟨rfl,rfl⟩ | ⟨-,hv⟩
      · exact hn _ u hu
      · exact hn i v hv
    · intro i v hv es final hl
      rw [eventsOf_append,eventsOf_told]
      rcases of_getElem?_set hv with ⟨rfl,rfl⟩ | ⟨hne,hv⟩
      · rw [if_pos rfl,List.append_assoc]
        exact hw _ u hu _ _ (.of_step hl)
      · rw [if_neg hne.symm,List.append_nil]
        exact hw i v hv es final hl

theorem listed (h : f.Comes url target sent) (paths : List Bytes) :
    (f.step url target (.listed paths)).Comes url target (sent ++ [.listed paths]) := by
  obtain ⟨hq,hi,hf,hk,hn,hw⟩ := h
  refine ⟨?_,hi,hf,?_,hn,?_⟩
  · simp [step,Widget.receive,hq,Sent.notice]
  · intro i e hs
    exact hk i e (by simpa using hs)
  · intro i u hu es final hl
    simpa [eventsOf,Sent.eventOf?,List.filterMap_cons] using hw i u hu es final hl

theorem update (h : f.Comes url target sent) : (f.step url target .update).Comes url target sent :=
  h.congr (by simp [step]) (by simp [step]) (by simp [step]) rfl

theorem act (h : f.Comes url target sent) (action : Action) :
    (f.step url target (.act action)).Comes url target sent := by
  cases action <;> simp only [step,Screen.act,Widget.submitTag,Widget.clearForm] <;>
    exact h.congr rfl rfl rfl rfl

theorem type (h : f.Comes url target sent) (field : Field) (text : String) (enter : Bool) :
    (f.step url target (.type field text enter)).Comes url target sent := by
  obtain ⟨form,tagInput,ht⟩ := Screen.type_eq f.widget field text enter
  simp only [step,ht]
  exact h.congr rfl rfl rfl rfl

/-- Every move keeps this, and what was sent before stays. -/
theorem step (h : f.Comes url target sent) (m : Move) :
    ∃ later, (f.step url target m).Comes url target (sent ++ later) := by
  have same {g : Fleet} (hg : g.Comes url target sent) :
      ∃ later, g.Comes url target (sent ++ later) := ⟨[],by rwa [List.append_nil]⟩
  cases m with
  | select file => cases file with
    | none => exact same h
    | some file => exact same (h.select file)
  | advance index a => exact h.advance index a
  | listed paths => exact ⟨_,h.listed paths⟩
  | update => exact same h.update
  | act action => exact same (h.act action)
  | type field text enter => exact same (h.type field text enter)
  | zones directory file => exact same (h.congr rfl rfl rfl rfl)

end Comes

/-- What a fleet always keeps: its widget shows what it took in, and that came from its uploads. -/
structure Sound (f : Fleet) (sent : List Sent) : Prop where
  shows : f.widget.Shows f.taken f.dismissed
  comes : f.Comes url target sent

variable {url target}

theorem Sound.step {f : Fleet} {sent : List Sent} (h : f.Sound url target sent) (m : Move) :
    ∃ later, (f.step url target m).Sound url target (sent ++ later) := by
  obtain ⟨later,hl⟩ := h.comes.step m
  refine ⟨later,?_,hl⟩
  have hs := h.shows
  cases m with
  | select file => cases file with
    | none => exact hs
    | some file => exact hs.selectFile file h.comes.phasesOf_nextId
  | advance index a =>
    simp only [Fleet.step]
    split
    · exact hs
    · exact hs.congr rfl rfl
  | listed paths => exact hs.congr rfl rfl
  | update => exact hs.update
  | act action => exact hs.act action
  | type field text enter => exact hs.type field text enter
  | zones directory file => exact hs.congr rfl rfl

end Fleet
end WorksheetUpload
