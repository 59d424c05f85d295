import WorksheetUpload.Form

/-! Adding a tag and removing one. Removal undoes what was added, and the two can change places
unless the tag that is removed is the only one that kept the other from being added. Nothing is
supposed of the tags that are there: they may hold the same one twice. -/
namespace WorksheetUpload

theorem eraseIdx_length_append (l : List α) (a : α) : (l ++ [a]).eraseIdx l.length = l := by
  rw [List.eraseIdx_append_of_length_le (Nat.le_refl _),Nat.sub_self]
  exact List.append_nil l

/-- What stands elsewhere does not go with a place. -/
theorem mem_eraseIdx_iff_of_ne {l : List α} {i : Nat} {a : α} (other : l[i]? ≠ some a) :
    a ∈ l.eraseIdx i ↔ a ∈ l := by
  rw [List.mem_eraseIdx_iff_getElem?,List.mem_iff_getElem?]
  constructor
  · rintro ⟨j,-,there⟩
    exact ⟨j,there⟩
  · rintro ⟨j,there⟩
    refine ⟨j,?_,there⟩
    rintro rfl
    exact other there

namespace Form

variable {f : Form} {tag : String} {i : Nat}

theorem addTag_of_admits (h : Admits f.tags (Text.trimmed tag)) :
    f.addTag tag = ({f with tags := f.tags ++ [Text.trimmed tag]},true) := if_pos h

theorem addTag_of_not_admits (h : ¬ Admits f.tags (Text.trimmed tag)) : f.addTag tag = (f,false) :=
  if_neg h

theorem addTag_snd_iff : (f.addTag tag).2 = true ↔ Admits f.tags (Text.trimmed tag) := by
  by_cases h : Admits f.tags (Text.trimmed tag)
  · rw [addTag_of_admits h]
    exact iff_of_true rfl h
  · rw [addTag_of_not_admits h]
    exact iff_of_false Bool.false_ne_true h

theorem removeTag_of_lt (h : i < f.tags.length) : f.removeTag i =
    ({f with tags := f.tags.take i ++ f.tags.drop (i+1)},some f.tags[i]) := by
  rw [removeTag,List.eraseIdx_eq_take_drop_succ,List.getElem?_eq_getElem h]

theorem removeTag_of_le (h : f.tags.length ≤ i) : f.removeTag i = (f,none) := by
  rw [removeTag,List.eraseIdx_of_length_le h,List.getElem?_eq_none h]

/-- A tag that was added is the last one, and all is as before when it is removed. -/
theorem removeTag_addTag (h : Admits f.tags (Text.trimmed tag)) :
    (f.addTag tag).1.removeTag f.tags.length = (f,some (Text.trimmed tag)) := by
  rw [addTag_of_admits h]
  simp only [removeTag,eraseIdx_length_append,List.getElem?_concat_length]

/-- Whether it makes no difference if a tag is added before another is removed or after that: the
form is the same in the end, and so are the two answers. -/
def OrderFree (f : Form) (tag : String) (i : Nat) : Prop :=
  ((f.addTag tag).1.removeTag i).1 = ((f.removeTag i).1.addTag tag).1 ∧
  ((f.addTag tag).1.removeTag i).2 = (f.removeTag i).2 ∧
  (f.addTag tag).2 = ((f.removeTag i).1.addTag tag).2

instance (f : Form) (tag : String) (i : Nat) : Decidable (f.OrderFree tag i) := by
  unfold OrderFree; infer_instance

section

variable (h : i < f.tags.length)
include h

/-- All depends on whether the removal lets the tag in. -/
theorem orderFree_iff_admits : f.OrderFree tag i ↔
    (Admits f.tags (Text.trimmed tag) ↔ Admits (f.tags.eraseIdx i) (Text.trimmed tag)) := by
  have before : (f.addTag tag).2 = true ↔ Admits f.tags (Text.trimmed tag) := addTag_snd_iff
  have after : ((f.removeTag i).1.addTag tag).2 = true ↔
      Admits (f.tags.eraseIdx i) (Text.trimmed tag) := addTag_snd_iff
  constructor
  · rintro ⟨-,-,answers⟩
    rw [← before,answers,after]
  · intro same
    by_cases added : Admits f.tags (Text.trimmed tag)
    case pos =>
      have added' : Admits (f.removeTag i).1.tags (Text.trimmed tag) := same.1 added
      have short : i < (f.tags ++ [Text.trimmed tag]).length := by
        rw [List.length_append]
        omega
      refine ⟨?_,?_,?_⟩
      · rw [addTag_of_admits added,addTag_of_admits added']
        simp only [removeTag,List.eraseIdx_append_of_lt_length h]
      · rw [addTag_of_admits added]
        exact List.getElem?_append_left h
      · rw [addTag_of_admits added,addTag_of_admits added']
    case neg =>
      have refused' : ¬ Admits (f.removeTag i).1.tags (Text.trimmed tag) := mt same.2 added
      rw [OrderFree,addTag_of_not_admits added,addTag_of_not_admits refused']
      exact ⟨rfl,rfl,rfl⟩

/-- The order matters just where the only tag of its kind is removed. -/
theorem orderFree_iff : f.OrderFree tag i ↔ (f.tags[i] = Text.trimmed tag →
    Text.trimmed tag = "" ∨ Text.trimmed tag ∈ f.tags.eraseIdx i) := by
  rw [orderFree_iff_admits h]
  constructor
  · intro same only
    have there : Text.trimmed tag ∈ f.tags := only ▸ List.getElem_mem h
    have refused : ¬ Admits (f.tags.eraseIdx i) (Text.trimmed tag) :=
      mt same.2 fun admitted => admitted.2 there
    refine Decidable.byContradiction fun fresh => ?_
    obtain ⟨given,absent⟩ := not_or.1 fresh
    exact refused ⟨given,absent⟩
  · intro only
    by_cases own : f.tags[i] = Text.trimmed tag
    case pos =>
      have there : Text.trimmed tag ∈ f.tags := own ▸ List.getElem_mem h
      refine iff_of_false (fun admitted => admitted.2 there) fun admitted => ?_
      rcases only own with empty | left
      · exact admitted.1 empty
      · exact admitted.2 left
    case neg =>
      have other : f.tags[i]? ≠ some (Text.trimmed tag) := by
        rw [List.getElem?_eq_getElem h]
        exact fun same => own (Option.some.inj same)
      rw [Admits,Admits,mem_eraseIdx_iff_of_ne other]

end

/-- Removing the tag that was just added gives it back, without the blanks around it, and restores
the form; a tag that was not added changed nothing. Adding a tag and removing another can change
places: exactly if the one that is removed is not the tag itself, or the tag is blank, or it is
there once more. A place where no tag is changes nothing, and any other place takes its own tag out
and leaves the rest in order. -/
theorem tag_edits_undo_and_commute (f : Form) (tag : String) (i : Nat) :
    ((f.addTag tag).2 = true →
      (f.addTag tag).1.removeTag f.tags.length = (f,some (Text.trimmed tag))) ∧
    ((f.addTag tag).2 = false → (f.addTag tag).1 = f) ∧
    (∀ h : i < f.tags.length, f.tags[i] ≠ Text.trimmed tag → f.OrderFree tag i) ∧
    (∀ h : i < f.tags.length, f.OrderFree tag i ↔ (f.tags[i] = Text.trimmed tag →
      Text.trimmed tag = "" ∨ Text.trimmed tag ∈ f.tags.eraseIdx i)) ∧
    (f.tags.length ≤ i → f.removeTag i = (f,none)) ∧
    ∀ h : i < f.tags.length, f.removeTag i =
      ({f with tags := f.tags.take i ++ f.tags.drop (i+1)},some f.tags[i]) := by
  refine ⟨?_,?_,?_,?_,?_,?_⟩
  · intro added
    exact removeTag_addTag (addTag_snd_iff.1 added)
  · intro refused
    have never : ¬ Admits f.tags (Text.trimmed tag) := fun admitted =>
      Bool.false_ne_true (refused.symm.trans (addTag_snd_iff.2 admitted))
    rw [addTag_of_not_admits never]
  · intro h other
    exact (orderFree_iff h).2 fun own => absurd own other
  · exact fun h => orderFree_iff h
  · exact removeTag_of_le
  · exact removeTag_of_lt

/-- The only tag of its kind: it is not added before it is removed, but it is afterwards. -/
example : ¬ (⟨"","",["a","b"],""⟩ : Form).OrderFree " a" 0 := by decide

end Form
end WorksheetUpload
