import Mathlib.Data.List.Induction
import WorksheetUpload.Proofs.Form.Tags
import WorksheetUpload.Proofs.History
import WorksheetUpload.Proofs.Text.Blank

/-! The tags of a form that began untouched. However it was edited, they are an ordered set: none is
blank or has blanks around it, none is there twice, and each stands where it was added last. -/
namespace WorksheetUpload

/-- What the user may do to a form. -/
inductive Form.Edit
  | addTag (tag : String)
  | removeTag (index : Nat)
  | clear
  | name (text : String)
  | description (text : String)
  | url (text : String)

/-- Tags that form an ordered set, where these were added before. -/
structure OrderedTags (added tags : List String) : Prop where
  tidy : ∀ t ∈ tags, t ≠ "" ∧ Text.Tight t.toList
  order : tags.Pairwise (LastBefore added)
  known : ∀ t ∈ tags, t ∈ added

namespace OrderedTags

variable {added tags : List String}

theorem nil (added : List String) : OrderedTags added [] :=
  ⟨List.forall_mem_nil _,.nil,List.forall_mem_nil _⟩

theorem distinct (h : OrderedTags added tags) : tags.Nodup := h.order.imp LastBefore.ne

/-- The tags that are left when some go are still in order. -/
theorem sublist {fewer : List String} (h : OrderedTags added tags) (left : fewer.Sublist tags) :
    OrderedTags added fewer where
  tidy t ht := h.tidy t (left.subset ht)
  order := h.order.sublist left
  known t ht := h.known t (left.subset ht)

/-- A new tag goes behind the others, among the tags as in the history. -/
theorem add (h : OrderedTags added tags) {tag : String} (fresh : tag ∉ tags) (given : tag ≠ "")
    (tight : Text.Tight tag.toList) : OrderedTags (added ++ [tag]) (tags ++ [tag]) := by
  have other : ∀ t ∈ tags, t ≠ tag := fun t ht same => fresh (same ▸ ht)
  constructor
  case tidy =>
    intro t ht
    rcases List.mem_append.1 ht with old | new
    · exact h.tidy t old
    · rw [List.mem_singleton.1 new]
      exact ⟨given,tight⟩
  case order =>
    rw [List.pairwise_append]
    refine ⟨?_,List.pairwise_singleton _ _,?_⟩
    · refine List.Pairwise.imp_of_mem ?_ h.order
      intro t u ht hu before
      exact before.append_singleton (other t ht) (other u hu)
    · intro t ht u hu
      rw [List.mem_singleton.1 hu]
      exact lastBefore_append_singleton (h.known t ht) (other t ht)
  case known =>
    intro t ht
    rcases List.mem_append.1 ht with old | new
    · exact List.mem_append_left _ (h.known t old)
    · exact List.mem_append_right _ new

end OrderedTags

namespace Form

def edit (f : Form) : Edit → Form
  | .addTag tag => (f.addTag tag).1
  | .removeTag index => (f.removeTag index).1
  | .clear => initial
  | .name name => {f with name}
  | .description description => {f with description}
  | .url url => {f with url}

/-- An untouched form after some edits. -/
def edited (edits : List Edit) : Form := edits.foldl edit initial

/-- The tag that an edit adds. -/
def added? (f : Form) : Edit → Option String
  | .addTag tag => if (f.addTag tag).2 then some (Text.trimmed tag) else none
  | _ => none

/-- The tags that some edits added, in order. -/
def additions (edits : List Edit) : List String := yields edit added? initial edits

theorem edited_append (edits more : List Edit) :
    edited (edits ++ more) = more.foldl edit (edited edits) := List.foldl_append

theorem additions_append_singleton (edits : List Edit) (e : Edit) :
    additions (edits ++ [e]) = additions edits ++ ((edited edits).added? e).toList :=
  yields_append_singleton edit added? initial edits e

/-- One edit keeps tags an ordered set. -/
theorem orderedTags_edit {f : Form} {added : List String} (h : OrderedTags added f.tags)
    (e : Edit) : OrderedTags (added ++ (f.added? e).toList) (f.edit e).tags := by
  have same : added = added ++ [] := (List.append_nil added).symm
  cases e with
  | addTag tag =>
    by_cases admitted : Admits f.tags (Text.trimmed tag)
    case pos =>
      have tight : Text.Tight (Text.trimmed tag).toList := by
        rw [Text.trimmed,String.toList_ofList]
        exact Text.tight_trim _
      have new : f.added? (.addTag tag) = some (Text.trimmed tag) :=
        if_pos (addTag_snd_iff.2 admitted)
      rw [new,edit,addTag_of_admits admitted]
      exact h.add admitted.2 admitted.1 tight
    case neg =>
      have refused : f.added? (.addTag tag) = none := if_neg (mt addTag_snd_iff.1 admitted)
      rw [refused,edit,addTag_of_not_admits admitted]
      exact same ▸ h
  | removeTag index => exact same ▸ h.sublist (List.eraseIdx_sublist f.tags index)
  | clear => exact .nil _
  | name name => exact same ▸ h
  | description description => exact same ▸ h
  | url url => exact same ▸ h

/-- However a form was edited, its tags are an ordered set. -/
theorem orderedTags_edited (edits : List Edit) :
    OrderedTags (additions edits) (edited edits).tags := by
  induction edits using List.reverseRecOn with
  | nil => exact .nil _
  | append_singleton edits e ih =>
    rw [edited_append,additions_append_singleton]
    exact orderedTags_edit ih e

/-- A tag that was taken out of the middle and added again stands behind the others. -/
example : (edited [.addTag "a",.addTag "b",.removeTag 0,.addTag " a "]).tags = ["b","a"] := by
  decide

end Form
end WorksheetUpload
