import Mathlib.Data.List.TakeWhile
import WorksheetUpload.Url.Encoding

/-! Cutting a text that goes on behind a separator: the cut is made where it was made before. -/
namespace WorksheetUpload.Url

variable {isEnd : Char → Bool}

/-- What follows the mark that ends a part does not move the end. -/
theorem cut_append_cons {mark : Char} (h : isEnd mark = true) (s t : List Char) :
    cut isEnd (s ++ mark :: t) = ((cut isEnd s).1,(cut isEnd s).2 ++ mark :: t) := by
  induction s with
  | nil => simp [cut,h]
  | cons c s ih =>
    simp only [cut,Prod.mk.injEq] at ih ⊢
    cases hc : isEnd c <;> simp [hc,ih]

theorem cut_append_of_forall_not {s : List Char} (h : ∀ c ∈ s, isEnd c = false) (t : List Char) :
    cut isEnd (s ++ t) = (s ++ (cut isEnd t).1,(cut isEnd t).2) := by
  simp only [cut,Prod.mk.injEq]
  have inside : ∀ c ∈ s, (!isEnd c) = true := by simpa using h
  exact ⟨List.takeWhile_append_of_pos inside,List.dropWhile_append_of_pos inside⟩

theorem cut_of_forall_not {s : List Char} (h : ∀ c ∈ s, isEnd c = false) :
    cut isEnd s = (s,[]) := by
  simpa [cut] using cut_append_of_forall_not h []

@[simp] theorem cut_fst_append_snd (s : List Char) : (cut isEnd s).1 ++ (cut isEnd s).2 = s :=
  List.takeWhile_append_dropWhile

theorem not_isEnd_of_mem_cut {s : List Char} {c : Char} (h : c ∈ (cut isEnd s).1) :
    isEnd c = false := by
  simpa using List.mem_takeWhile_imp h

variable {isSeparator : Char → Bool}

theorem splitAt_ne_nil (s : List Char) : splitAt isSeparator s ≠ [] := by
  induction s with
  | nil => simp [splitAt]
  | cons c s ih =>
    rw [splitAt]
    split
    · simp
    · split <;> simp

theorem splitAt_append_cons {c : Char} (h : isSeparator c = true) (s t : List Char) :
    splitAt isSeparator (s ++ c :: t) = splitAt isSeparator s ++ splitAt isSeparator t := by
  induction s with
  | nil => simp [splitAt,h]
  | cons d s ih =>
    simp only [List.cons_append,splitAt,ih]
    split
    · rfl
    · cases hs : splitAt isSeparator s with
      | nil => exact absurd hs (splitAt_ne_nil s)
      | cons piece pieces => rfl

theorem splitAt_of_forall_not {s : List Char} (h : ∀ c ∈ s, isSeparator c = false) :
    splitAt isSeparator s = [s] := by
  induction s with
  | nil => rfl
  | cons c s ih =>
    obtain ⟨hc,hs⟩ := List.forall_mem_cons.1 h
    simp [splitAt,hc,ih hs]

/-- A piece is part of the text, and holds no separator. -/
theorem sublist_of_mem_splitAt {s piece : List Char} (h : piece ∈ splitAt isSeparator s) :
    piece.Sublist s ∧ ∀ c ∈ piece, isSeparator c = false := by
  induction s generalizing piece with
  | nil =>
    obtain rfl := List.mem_singleton.1 h
    simp
  | cons c s ih =>
    rw [splitAt] at h
    split at h
    case isTrue =>
      rcases List.mem_cons.1 h with rfl | h
      · simp
      · exact ⟨(ih h).1.cons c,(ih h).2⟩
    case isFalse hc =>
      split at h
      case h_1 hs => exact absurd hs (splitAt_ne_nil s)
      case h_2 first pieces hs =>
        rcases List.mem_cons.1 h with rfl | h
        · obtain ⟨hsub,hnot⟩ := ih (show first ∈ splitAt isSeparator s by simp [hs])
          exact ⟨hsub.cons_cons c,List.forall_mem_cons.2 ⟨by simpa using hc,hnot⟩⟩
        · obtain ⟨hsub,hnot⟩ := ih (show piece ∈ splitAt isSeparator s by simp [hs,h])
          exact ⟨hsub.cons c,hnot⟩

end WorksheetUpload.Url
