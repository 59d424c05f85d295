import Mathlib.Data.List.TakeWhile
import WorksheetUpload.Text.Classes

/-! Decimals that stand in a text. Their digits are not blank, and where no digit follows the number
can be read off again. -/
namespace WorksheetUpload.Text

theorem digitChar_of_isDigit {c : Char} (h : c.isDigit = true) :
    c.toNat - '0'.toNat < 10 ∧ Nat.digitChar (c.toNat - '0'.toNat) = c := by
  have bounds : 48 ≤ c.toNat ∧ c.toNat ≤ 57 := by
    simpa [Char.isDigit,UInt32.le_iff_toNat_le] using h
  have offset : c.toNat - '0'.toNat = c.toNat - 48 := rfl
  rw [offset]
  refine ⟨by omega,Char.toNat_inj.1 ?_⟩
  rw [Nat.toNat_digitChar_of_lt_ten (by omega)]
  omega

theorem not_isBlank_of_isDigit {c : Char} (h : c.isDigit = true) : isBlank c = false := by
  obtain ⟨small,same⟩ := digitChar_of_isDigit h
  have each : ∀ d < 10, isBlank (Nat.digitChar d) = false := by decide
  rw [← same]
  exact each _ small

theorem isDigit_of_mem_decimal {n : Nat} {c : Char} (h : c ∈ Nat.toDigits 10 n) :
    c.isDigit = true := Nat.isDigit_of_mem_toDigits (by decide) (by decide) h

theorem toList_toString_nat (n : Nat) : (toString n).toList = Nat.toDigits 10 n := by
  rw [Nat.toString_eq_ofList_toDigits,String.toList_ofList]

/-- The digits at the head of a text are a decimal and no more, if no digit follows it. -/
theorem takeWhile_decimal_append (n : Nat) {rest : List Char}
    (ends : ∀ c ∈ rest.head?, c.isDigit = false) :
    (Nat.toDigits 10 n ++ rest).takeWhile Char.isDigit = Nat.toDigits 10 n := by
  rw [List.takeWhile_append_of_pos fun c => isDigit_of_mem_decimal]
  cases rest with
  | nil => exact List.append_nil _
  | cons c rest => rw [List.takeWhile_cons_of_neg (by simp [ends c rfl]),List.append_nil]

/-- Two texts that begin with decimals, and go on with something else, agree in both. -/
theorem decimal_append_inj {m n : Nat} {xs ys : List Char}
    (hx : ∀ c ∈ xs.head?, c.isDigit = false) (hy : ∀ c ∈ ys.head?, c.isDigit = false)
    (h : Nat.toDigits 10 m ++ xs = Nat.toDigits 10 n ++ ys) : m = n ∧ xs = ys := by
  have digits : Nat.toDigits 10 m = Nat.toDigits 10 n := by
    rw [← takeWhile_decimal_append m hx,h,takeWhile_decimal_append n hy]
  have same : m = n := by
    rw [← Nat.ofDigitChars_ten_toDigits (n := m),digits,Nat.ofDigitChars_ten_toDigits]
  rw [digits] at h
  exact ⟨same,List.append_cancel_left h⟩

end WorksheetUpload.Text
