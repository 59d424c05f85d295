import Mathlib.Data.List.Basic
import WorksheetUpload.Path

/-! The parts of a path, which are what stands between its slashes. A path that goes on behind a
slash has the parts of both sides, and the path of an entry has one more than that of its
directory. -/
namespace WorksheetUpload.Path

theorem pieces_ne_nil (p : Bytes) : pieces p ≠ [] := by
  induction p with
  | nil => simp [pieces]
  | cons b p ih =>
    rw [pieces]
    split
    · simp
    · split <;> simp

theorem pieces_append_slash (p q : Bytes) :
    pieces (p ++ slash :: q) = pieces p ++ pieces q := by
  induction p with
  | nil => simp [pieces]
  | cons b p ih =>
    simp only [List.cons_append,pieces,ih]
    split
    · rfl
    · cases hp : pieces p with
      | nil => exact absurd hp (pieces_ne_nil p)
      | cons piece more => rfl

theorem pieces_of_not_mem {name : Bytes} (h : slash ∉ name) : pieces name = [name] := by
  induction name with
  | nil => rfl
  | cons b name ih =>
    simp only [List.mem_cons,not_or] at h
    rw [pieces,if_neg (Ne.symm h.1),ih h.2]

/-- The pieces that are not just gaps between slashes. -/
def parts (p : Bytes) : List Bytes := (pieces p).filter fun c => !c.isEmpty

@[simp] theorem parts_nil : parts [] = [] := rfl

theorem steps_eq (p : Bytes) :
    steps p = parts p ++ if p.getLast? = some slash then [dot] else [] := rfl

theorem parts_append_slash (p q : Bytes) : parts (p ++ slash :: q) = parts p ++ parts q := by
  rw [parts,pieces_append_slash,List.filter_append]
  rfl

@[simp] theorem parts_concat_slash (p : Bytes) : parts (p ++ [slash]) = parts p := by
  rw [parts_append_slash,parts_nil,List.append_nil]

section

variable {name : Bytes} (present : name ≠ []) (whole : slash ∉ name)
include present whole

theorem parts_of_not_mem : parts name = [name] := by
  rw [parts,pieces_of_not_mem whole,List.filter_cons_of_pos (by simpa using present)]
  rfl

theorem parts_child (p : Bytes) : parts (child p name) = parts p ++ [name] := by
  have own : parts name = [name] := parts_of_not_mem present whole
  rw [child]
  split
  case isFalse => rw [parts_append_slash,own]
  case isTrue ends =>
    rcases List.eq_nil_or_concat p with rfl | ⟨q,b,rfl⟩
    · exact own
    · rw [List.concat_eq_append] at ends ⊢
      obtain rfl : b = slash := by simpa using ends
      rw [List.append_assoc,List.singleton_append,parts_append_slash,parts_concat_slash,own]

/-- An entry is named last, so that its path demands nothing of it. -/
theorem steps_child (p : Bytes) : steps (child p name) = parts p ++ [name] := by
  have last : (child p name).getLast? = name.getLast? := by
    rcases List.eq_nil_or_concat name with rfl | ⟨front,b,rfl⟩
    · exact absurd rfl present
    · rw [child]
      split <;> simp [List.getLast?_cons]
  have plain : name.getLast? ≠ some slash := fun h => whole (List.mem_of_getLast? h)
  rw [steps_eq,last,if_neg plain,List.append_nil,parts_child present whole]

end

theorem child_ne_nil {name : Bytes} (present : name ≠ []) (p : Bytes) : child p name ≠ [] := by
  rw [child]
  split <;> simp [present]

theorem length_lt_child {name : Bytes} (present : name ≠ []) (p : Bytes) :
    p.length < (child p name).length := by
  have := List.length_pos_of_ne_nil present
  rw [child]
  split <;> simp only [List.length_append,List.length_cons] <;> omega

theorem isAbsolute_child {p : Bytes} (h : p ≠ []) (name : Bytes) :
    isAbsolute (child p name) = isAbsolute p := by
  cases p with
  | nil => exact absurd rfl h
  | cons b p =>
    rw [child]
    split <;> rfl

theorem mem_child {p name : Bytes} {b : UInt8} (h : b ∈ child p name) :
    b ∈ p ∨ b = slash ∨ b ∈ name := by
  rw [child] at h
  split at h <;> simp at h <;> tauto

end WorksheetUpload.Path
