import Mathlib.Data.List.TakeWhile
import WorksheetUpload.Text.Classes

/-! What trimming leaves of a text: that part of it which has blanks on both sides and none at its
own ends. How many blanks there are does not matter. -/
namespace WorksheetUpload.Text

/-- A text of blanks and of nothing else. -/
def Blanks (text : List Char) : Prop := ∀ c ∈ text, isBlank c = true

/-- A text with a blank at neither end. -/
structure Tight (text : List Char) : Prop where
  first : ∀ c ∈ text.head?, isBlank c = false
  last : ∀ c ∈ text.getLast?, isBlank c = false

theorem Tight.of_forall {text : List Char} (h : ∀ c ∈ text, isBlank c = false) : Tight text :=
  ⟨fun c hc => h c (List.mem_of_head? hc),fun c hc => h c (List.mem_of_getLast? hc)⟩

theorem trimStart_blanks_append {before : List Char} (h : Blanks before) (text : List Char) :
    trimStart (before ++ text) = trimStart text := List.dropWhile_append_of_pos h

theorem trimStart_of_first {text : List Char} (h : ∀ c ∈ text.head?, isBlank c = false) :
    trimStart text = text := by
  cases text with
  | nil => rfl
  | cons c text => exact List.dropWhile_cons_of_neg (by simp [h c rfl])

theorem trimStart_eq_nil_iff {text : List Char} : trimStart text = [] ↔ Blanks text :=
  List.dropWhile_eq_nil_iff

theorem trim_blanks_append {before : List Char} (h : Blanks before) (text : List Char) :
    trim (before ++ text) = trim text := by
  rw [trim,trimStart_blanks_append h,trim]

theorem trim_append_blanks (text : List Char) {after : List Char} (h : Blanks after) :
    trim (text ++ after) = trim text := by
  have behind : Blanks after.reverse := fun c hc => h c (List.mem_reverse.1 hc)
  by_cases blank : Blanks text
  case pos =>
    rw [trim_blanks_append blank,trim,trim,trimStart_eq_nil_iff.2 h,trimStart_eq_nil_iff.2 blank]
  case neg =>
    have printed : (trimStart text).isEmpty = false := by
      simpa using mt trimStart_eq_nil_iff.1 blank
    have start : trimStart (text ++ after) = trimStart text ++ after := by
      simp only [trimStart] at printed ⊢
      rw [List.dropWhile_append,printed,if_neg (by simp)]
    rw [trim,start,List.reverse_append,trimStart_blanks_append behind,trim]

/-- Blanks around a text do not matter. -/
theorem trim_padded {before after : List Char} (hb : Blanks before) (ha : Blanks after)
    (text : List Char) : trim (before ++ text ++ after) = trim text := by
  rw [trim_append_blanks _ ha,trim_blanks_append hb]

theorem Tight.trim_eq {text : List Char} (h : Tight text) : trim text = text := by
  have behind : ∀ c ∈ text.reverse.head?, isBlank c = false := by
    rw [List.head?_reverse]
    exact h.last
  rw [trim,trimStart_of_first h.first,trimStart_of_first behind,List.reverse_reverse]

theorem exists_eq_blanks_append (text : List Char) : ∃ before, Blanks before ∧
    text = before ++ trimStart text :=
  ⟨text.takeWhile isBlank,fun _ hc => List.mem_takeWhile_imp hc,
    List.takeWhile_append_dropWhile.symm⟩

theorem first_trimStart (text : List Char) : ∀ c ∈ (trimStart text).head?, isBlank c = false := by
  intro c hc
  have first := List.head?_dropWhile_not isBlank text
  rw [show (text.dropWhile isBlank).head? = some c from hc] at first
  exact first

theorem exists_trimStart_eq (text : List Char) : ∃ after, Blanks after ∧
    trimStart text = trim text ++ after := by
  obtain ⟨after,blanks,back⟩ := exists_eq_blanks_append (trimStart text).reverse
  refine ⟨after.reverse,fun c hc => blanks c (List.mem_reverse.1 hc),?_⟩
  rw [trim,← List.reverse_append,← back,List.reverse_reverse]

theorem exists_eq_padded (text : List Char) : ∃ before after, Blanks before ∧ Blanks after ∧
    text = before ++ trim text ++ after := by
  obtain ⟨before,hb,front⟩ := exists_eq_blanks_append text
  obtain ⟨after,ha,back⟩ := exists_trimStart_eq text
  exact ⟨before,after,hb,ha,by rw [List.append_assoc,← back,← front]⟩

/-- Nothing is left just of blanks. -/
theorem trim_eq_nil_iff {text : List Char} : trim text = [] ↔ Blanks text := by
  constructor
  · intro nothing
    obtain ⟨before,after,hb,ha,padded⟩ := exists_eq_padded text
    rw [nothing,List.append_nil] at padded
    rw [padded]
    exact List.forall_mem_append.2 ⟨hb,ha⟩
  · exact fun blanks => trim_append_blanks [] blanks

theorem tight_trim (text : List Char) : Tight (trim text) := by
  constructor
  case first =>
    intro c hc
    obtain ⟨after,-,back⟩ := exists_trimStart_eq text
    refine first_trimStart text c ?_
    rw [back,List.head?_append,hc]
    rfl
  case last =>
    intro c hc
    rw [trim,List.getLast?_reverse] at hc
    exact first_trimStart _ c hc

end WorksheetUpload.Text
