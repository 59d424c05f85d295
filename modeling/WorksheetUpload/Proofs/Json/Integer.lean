import WorksheetUpload.Proofs.Json.Numeral

/-! Integers as numbers of JSON. The canonical decimal of an integer is a number of JSON, and
denotes that integer. -/
namespace WorksheetUpload.Json

theorem magnitude_concat (ds : List Nat) (d : Nat) :
    Numeral.magnitude (ds ++ [d]) = Numeral.magnitude ds*10+d := by
  simp [Numeral.magnitude]

/-- The digits of a natural number. None but zero begins with a zero. -/
theorem exists_digits (n : Nat) : ∃ d : Digits, d.text = Nat.toDigits 10 n ∧
    Numeral.magnitude d.values = n ∧ (d.first = 0 → d.others = [] ∧ n = 0) := by
  induction n using Nat.strongRecOn with
  | ind n ih =>
    rcases Nat.lt_or_ge n 10 with small | large
    case inl =>
      refine ⟨⟨⟨n,small⟩,[]⟩,?_,?_,fun zero => ⟨rfl,congrArg Fin.val zero⟩⟩
      · rw [Nat.toDigits_of_lt_base small]
        rfl
      · simp [Digits.values,Numeral.magnitude]
    case inr =>
      obtain ⟨⟨first,others⟩,text,value,leading⟩ := ih (n/10) (by omega)
      have last : n%10 < 10 := Nat.mod_lt n (by decide)
      refine ⟨⟨first,others ++ [⟨n%10,last⟩]⟩,?_,?_,fun zero => ?_⟩
      · rw [Nat.toDigits_of_base_le (by decide) large,← text]
        simp [Digits.text,Digits.values]
      · have behind : (Digits.mk first (others ++ [⟨n%10,last⟩])).values =
            (Digits.mk first others).values ++ [n%10] := by simp [Digits.values]
        rw [behind,magnitude_concat,value]
        omega
      · have no_more := (leading zero).2
        omega

theorem toList_toString (n : Int) : (toString n).toList =
    (if n < 0 then ['-'] else []) ++ Nat.toDigits 10 n.natAbs := by
  rw [Int.toString_eq_repr,Int.repr_eq_if]
  by_cases negative : n < 0
  case pos =>
    have magnitude : (-n).toNat = n.natAbs := by omega
    rw [if_neg (by omega),if_pos negative]
    simp [magnitude]
  case neg =>
    have magnitude : n.toNat = n.natAbs := by omega
    rw [if_pos (by omega),if_neg negative]
    simp [magnitude]

/-- An integer can be written in a text of JSON as it is printed. -/
theorem exists_number (n : Int) : ∃ w : WrittenNumber, w.text = (toString n).toList ∧
    w.numeral.IsInteger ∧ w.numeral.integer = n := by
  obtain ⟨d,text,value,leading⟩ := exists_digits n.natAbs
  refine ⟨⟨decide (n < 0),d,none,none,fun zero => (leading zero).1⟩,?_,⟨rfl,rfl,?_⟩,?_⟩
  · rw [toList_toString,← text]
    simp [WrittenNumber.text,WrittenNumber.fractionText,WrittenNumber.exponentText]
  · rintro ⟨negative,zero⟩
    have negative : n < 0 := of_decide_eq_true negative
    rw [show (WrittenNumber.numeral _).whole = d.values from rfl,value] at zero
    omega
  · have value : (Numeral.magnitude d.values : Int) = n.natAbs := congrArg Nat.cast value
    simp only [Numeral.integer,WrittenNumber.numeral,value,decide_eq_true_eq]
    split <;> omega

end WorksheetUpload.Json
