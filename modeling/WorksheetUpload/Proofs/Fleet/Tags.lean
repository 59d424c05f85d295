import WorksheetUpload.Proofs.Fleet.Calls
import WorksheetUpload.Proofs.Form.OrderedTags

/-! The tags of a session. All that its moves do to the form are edits, and what an upload asks for
carries the tags that the form had when the file was selected. So they are an ordered set in every
form and in every request, in the order of that very history. -/
namespace WorksheetUpload

/-- What an action does to the form. -/
def Action.edit? (w : Widget) : Action → Option Form.Edit
  | .removeTag index => some (.removeTag index)
  | .submitTag => some (.addTag w.tagInput)
  | .clear => some .clear
  | .nothing | .toggleDetails | .dismiss => none

/-- What typing over a field does to the form. The tag field is no part of it, and what stands there
is added by Enter. -/
def Field.edit? (w : Widget) (text : String) (enter : Bool) : Field → Option Form.Edit
  | .name => some (.name (Screen.entry .name w.form.name text enter))
  | .description => some (.description (Screen.entry .description w.form.description text enter))
  | .url => some (.url (Screen.entry .url w.form.url text enter))
  | .tag => if enter then some (.addTag (Screen.entry .tag w.tagInput text enter)) else none

namespace Screen

theorem act_form (w : Widget) (action : Action) :
    (act w action).form = (action.edit? w).toList.foldl Form.edit w.form := by
  cases action <;> rfl

/-- Under an alert nothing can be typed. -/
theorem type_form (w : Widget) (field : Field) (text : String) (enter : Bool) :
    (type w field text enter).form = if w.uploads.alerts = [] then
      (field.edit? w text enter).toList.foldl Form.edit w.form else w.form := by
  unfold type
  cases h : w.uploads.alerts with
  | nil => cases field <;> cases enter <;> rfl
  | cons alert alerts => rfl

end Screen

namespace Fleet

/-- What a move does to the form. -/
def edit? (f : Fleet) : Move → Option Form.Edit
  | .act action => action.edit? f.widget
  | .type field text enter =>
    if f.widget.uploads.alerts = [] then field.edit? f.widget text enter else none
  | .select _ | .advance _ _ | .listed _ | .update | .zones _ _ => none

variable (url : Handle → String) (target : Target)

/-- What moves do to the form, in order. -/
def editsIn (f : Fleet) (moves : List Move) : List Form.Edit :=
  yields (step url target) edit? f moves

/-- A move edits the form, and does nothing else to it. -/
theorem step_form (f : Fleet) (m : Move) :
    (f.step url target m).widget.form = (f.edit? m).toList.foldl Form.edit f.widget.form := by
  cases m with
  | select file => cases file <;> rfl
  | advance index answers =>
    simp only [step]
    split <;> rfl
  | listed paths => rfl
  | update => exact f.widget.update_form
  | act action => exact Screen.act_form f.widget action
  | type field text enter =>
    rw [step,Screen.type_form,edit?]
    split <;> rfl
  | zones directory file => rfl

/-- Whether some tags are those that the form had at a moment of a history of edits. -/
def TakenFrom (edits : List Form.Edit) (tags : List String) : Prop :=
  ∃ earlier, earlier <+: edits ∧ tags = (Form.edited earlier).tags

/-- Whether all that a course may still ask for has such tags. -/
def Asks (edits : List Form.Edit) (c : Course) : Prop :=
  ∀ calls d, c.Goes calls d → ∀ created ∈ creations calls, TakenFrom edits created.2.tags

theorem Asks.step {edits : List Form.Edit} {c : Course} (h : Asks edits c) (a : Answers) :
    (∀ created ∈ creations (c.call? a).toList, TakenFrom edits created.2.tags) ∧
      Asks edits (c.step a).2 := by
  constructor
  · intro created there
    refine h _ _ (.on a (.here _)) created ?_
    rwa [List.append_nil]
  · intro calls d goes created there
    refine h _ _ (.on a goes) created ?_
    rw [creations,List.filterMap_append]
    exact List.mem_append_right _ there

theorem Asks.append {edits : List Form.Edit} {c : Course} (h : Asks edits c)
    (more : List Form.Edit) : Asks (edits ++ more) c := by
  intro calls d goes created there
  obtain ⟨earlier,before,same⟩ := h calls d goes created there
  exact ⟨earlier,before.trans (List.prefix_append edits more),same⟩

/-- A fleet whose form was edited like this, from when nobody had touched it, and whose uploads took
their tags from it. -/
structure Edited (f : Fleet) (edits : List Form.Edit) : Prop where
  form : f.widget.form = Form.edited edits
  asks : ∀ u ∈ f.underway, Asks edits u.rest

variable {f : Fleet} {edits : List Form.Edit}

theorem edited_initial : initial.Edited [] := ⟨rfl,List.forall_mem_nil _⟩

/-- A new upload takes the tags that are in the form. -/
theorem Edited.asks_ofUpload (h : f.Edited edits) (file : SelectedFile) :
    Asks edits (.ofUpload url target (f.widget.form.pending file)) := by
  intro calls d goes created there
  obtain ⟨rest,own⟩ := (Course.creations_of_goes goes).1
  have only : created ∈ [(target,(f.widget.form.pending file).metadata)] :=
    own ▸ List.mem_append_left rest there
  rw [List.mem_singleton.1 only]
  exact ⟨edits,List.prefix_refl edits,congrArg Form.tags h.form⟩

/-- Every move keeps this, with its own edit at the end. -/
theorem Edited.step (h : f.Edited edits) (m : Move) :
    (f.step url target m).Edited (edits ++ (f.edit? m).toList) := by
  constructor
  case form => rw [step_form,h.form,Form.edited_append]
  case asks =>
    intro u hu
    refine Asks.append ?_ _
    cases m with
    | select file => cases file with
      | none => exact h.asks u hu
      | some file =>
        rcases List.mem_append.1 hu with old | new
        · exact h.asks u old
        · rw [List.mem_singleton.1 new]
          exact h.asks_ofUpload url target file
    | advance index answers =>
      simp only [Fleet.step] at hu
      split at hu
      case h_1 => exact h.asks u hu
      case h_2 v there =>
        rcases List.mem_or_eq_of_mem_set hu with old | rfl
        · exact h.asks u old
        · exact ((h.asks v (List.mem_of_getElem? there)).step answers).2
    | listed paths => exact h.asks u hu
    | update => exact h.asks u hu
    | act action => exact h.asks u hu
    | type field text enter => exact h.asks u hu
    | zones directory file => exact h.asks u hu

/-- The call that an upload makes in a move has its tags from the form, too. -/
theorem Edited.creations_callBy? (h : f.Edited edits) (i : Nat) (m : Move) :
    ∀ created ∈ creations (f.callBy? i m).toList, TakenFrom edits created.2.tags := by
  cases m with
  | advance index answers =>
    simp only [callBy?]
    split
    case isTrue =>
      cases there : f.underway[i]? with
      | none => exact List.forall_mem_nil _
      | some u => exact ((h.asks u (List.mem_of_getElem? there)).step answers).1
    case isFalse => exact List.forall_mem_nil _
  | select file => exact List.forall_mem_nil _
  | listed paths => exact List.forall_mem_nil _
  | update => exact List.forall_mem_nil _
  | act action => exact List.forall_mem_nil _
  | type field text enter => exact List.forall_mem_nil _
  | zones directory file => exact List.forall_mem_nil _

theorem Edited.foldl (h : f.Edited edits) (moves : List Move) :
    (moves.foldl (Fleet.step url target) f).Edited (edits ++ f.editsIn url target moves) := by
  induction moves generalizing f edits with
  | nil => exact (List.append_nil edits).symm ▸ h
  | cons m moves ih =>
    have next := ih (h.step url target m)
    rwa [List.append_assoc] at next

theorem Edited.creations_callsBy (h : f.Edited edits) (i : Nat) (moves : List Move) :
    ∀ created ∈ creations (f.callsBy url target i moves),
      TakenFrom (edits ++ f.editsIn url target moves) created.2.tags := by
  induction moves generalizing f edits with
  | nil => exact List.forall_mem_nil _
  | cons m moves ih =>
    intro created there
    rw [callsBy,creations,List.filterMap_append,← creations,← creations] at there
    rcases List.mem_append.1 there with now | later
    · obtain ⟨earlier,before,same⟩ := h.creations_callBy? i m created now
      exact ⟨earlier,before.trans (List.prefix_append edits _),same⟩
    · have next := ih (h.step url target m) created later
      rwa [List.append_assoc] at next

/-- However a form is edited from when nobody had touched it, its tags are pairwise distinct, none
is empty or has blanks around it, and all were added, the last time in the order in which they
stand. A tag is added just if there is something besides blanks in it and it is not there. All that
a session does to the form are edits, and every bundle that an upload of it asks for, whatever
happens meanwhile, has the tags that were in the form after some of them. -/
theorem tags_ordered_in_every_run (url : Handle → String) (target : Target) :
    (∀ edits, (Form.edited edits).tags.Nodup ∧
      (∀ tag ∈ (Form.edited edits).tags, tag ≠ "" ∧ Text.Tight tag.toList) ∧
      (∀ tag ∈ (Form.edited edits).tags, tag ∈ Form.additions edits) ∧
      (Form.edited edits).tags.Pairwise (LastBefore (Form.additions edits))) ∧
    (∀ (f : Form) (tag : String), (f.addTag tag).2 = true ↔
      Text.trimmed tag ≠ "" ∧ Text.trimmed tag ∉ f.tags) ∧
    ∀ moves, (run url target moves).widget.form =
        Form.edited (initial.editsIn url target moves) ∧
      ∀ i, ∀ created ∈ creations (initial.callsBy url target i moves), ∃ earlier,
        earlier <+: initial.editsIn url target moves ∧
          created.2.tags = (Form.edited earlier).tags := by
  refine ⟨?_,?_,?_⟩
  · intro edits
    have ordered : OrderedTags (Form.additions edits) (Form.edited edits).tags :=
      Form.orderedTags_edited edits
    exact ⟨ordered.distinct,ordered.tidy,ordered.known,ordered.order⟩
  · exact fun f tag => Form.addTag_snd_iff
  · intro moves
    refine ⟨?_,?_⟩
    · exact (edited_initial.foldl url target moves).form
    · exact fun i => edited_initial.creations_callsBy url target i moves

end Fleet
end WorksheetUpload
