import Mathlib.Data.List.Basic
import WorksheetUpload.Config.SortKeyText

/-! The decimal of a sort key reads back as that key, down to the least of them. -/
namespace WorksheetUpload.SortKey

theorem readDigits_cons {negative : Bool} {k k' : SortKey} {d : Nat} (hd : d < 10)
    (h : extend negative k.value d = k'.value) (rest : List Char) :
    readDigits negative k (Nat.digitChar d :: rest) = readDigits negative k' rest := by
  have hc : (Nat.digitChar d).isDigit = true := by simpa [Nat.isDigit_digitChar] using hd
  simp only [readDigits,hc,if_true,Nat.toNat_digitChar_sub_48_of_lt_ten hd,
    ofInt?_eq_some_iff.2 h]

/-- A number with a sign. -/
def signed (negative : Bool) (n : Nat) : Int := if negative then -n else n

/-- The digits of a key lead to that key, since each beginning of them is nearer to zero and so
within the bounds. -/
theorem readDigits_toDigits (negative : Bool) (n : Nat) {k : SortKey}
    (h : k.value = signed negative n) (rest : List Char) :
    readDigits negative zero (Nat.toDigits 10 n ++ rest) = readDigits negative k rest := by
  induction n using Nat.strongRecOn generalizing k rest with
  | ind n ih =>
    rcases Nat.lt_or_ge n 10 with hn | hn
    case inl =>
      rw [Nat.toDigits_of_lt_base hn,List.singleton_append,readDigits_cons hn]
      rw [h]
      cases negative <;> simp [extend,signed,zero]
    case inr =>
      have hl := k.lower
      have hu := k.upper
      have bounds : -0x8000000000000000 ≤ signed negative (n/10) ∧
          signed negative (n/10) < 0x8000000000000000 := by
        rw [h] at hl hu
        cases negative <;> simp [signed] at hl hu ⊢ <;> omega
      have last : extend negative (signed negative (n/10)) (n%10) = k.value := by
        rw [h]
        cases negative <;> simp [extend,signed] <;> omega
      rw [Nat.toDigits_of_base_le (by decide) hn,List.append_assoc,List.singleton_append,
        ih (n/10) (by omega) (k := ⟨_,bounds.1,bounds.2⟩) rfl,
        readDigits_cons (Nat.mod_lt n (by decide)) last]

theorem toList_text (k : SortKey) : k.text.toList =
    if 0 ≤ k.value then Nat.toDigits 10 k.value.toNat
    else '-' :: Nat.toDigits 10 (-k.value).toNat := by
  rw [text,Int.toString_eq_repr,Int.repr_eq_if]
  split <;> simp

/-- Digits without a sign are read as a number that is not negative. -/
theorem read_toDigits (n : Nat) :
    read (Nat.toDigits 10 n) = readDigits false zero (Nat.toDigits 10 n) := by
  obtain ⟨c,cs,hd⟩ := List.exists_cons_of_ne_nil (Nat.toDigits_ne_nil (n := n) (b := 10))
  have hc : c.isDigit = true :=
    Nat.isDigit_of_mem_toDigits (by decide) (by decide) (hd ▸ List.mem_cons_self)
  rw [hd]
  unfold read
  split <;> simp_all

theorem read_minus (n : Nat) :
    read ('-' :: Nat.toDigits 10 n) = readDigits true zero (Nat.toDigits 10 n) := by
  obtain ⟨c,cs,hd⟩ := List.exists_cons_of_ne_nil (Nat.toDigits_ne_nil (n := n) (b := 10))
  rw [hd]
  rfl

/-- A key is read back from its decimal. -/
theorem read_text (k : SortKey) : read k.text.toList = .ok k := by
  have read_all (negative : Bool) {n : Nat} (h : k.value = signed negative n) :
      readDigits negative zero (Nat.toDigits 10 n) = .ok k := by
    rw [← List.append_nil (Nat.toDigits 10 n),readDigits_toDigits negative n h]
    rfl
  rw [toList_text]
  split
  case isTrue h => rw [read_toDigits,read_all false (by simp [signed]; omega)]
  case isFalse h => rw [read_minus,read_all true (by simp [signed]; omega)]

/-- A text that spells a number in decimal: a sign may stand before the digits, of which there is one
at least. -/
def IsDecimal (text : List Char) (n : Int) : Prop :=
  ∃ sign digits, text = sign ++ digits ∧ (sign = [] ∨ sign = ['+'] ∨ sign = ['-']) ∧
    digits ≠ [] ∧ (∀ c ∈ digits, c.isDigit = true) ∧
    n = signed (sign == ['-']) (Nat.ofDigitChars 10 digits 0)

theorem extend_signed (negative : Bool) (n d : Nat) :
    extend negative (signed negative n) d = signed negative (10*n+d) := by
  cases negative <;> simp [extend,signed] <;> omega

theorem le_ofDigitChars (cs : List Char) (n : Nat) : n ≤ Nat.ofDigitChars 10 cs n := by
  induction cs generalizing n with
  | nil => exact Nat.le_refl n
  | cons c cs ih =>
    rw [Nat.ofDigitChars_cons]
    have := ih (10*n + (c.toNat - '0'.toNat))
    omega

/-- Digits are read onto a key exactly when they lead to one. What exceeds the bounds on the way never
comes back within them. -/
theorem readDigits_eq_ok_iff {negative : Bool} (cs : List Char) {key k : SortKey} {n : Nat}
    (hk : key.value = signed negative n) : readDigits negative key cs = .ok k ↔
      (∀ c ∈ cs, c.isDigit = true) ∧ k.value = signed negative (Nat.ofDigitChars 10 cs n) := by
  induction cs generalizing key n with
  | nil =>
    obtain ⟨v,lower,upper⟩ := k
    obtain ⟨w,lower',upper'⟩ := key
    simp only [readDigits,Nat.ofDigitChars_nil,List.not_mem_nil,false_imp_iff,implies_true,true_and,
      Except.ok.injEq,SortKey.mk.injEq] at hk ⊢
    rw [hk,eq_comm]
  | cons c cs ih =>
    rw [readDigits,List.forall_mem_cons,Nat.ofDigitChars_cons]
    by_cases digit : c.isDigit = true
    case neg => simp [digit]
    case pos =>
      have offset : c.toNat - 48 = c.toNat - '0'.toNat := rfl
      rw [if_pos digit,hk,extend_signed,offset]
      simp only [digit,true_and]
      generalize 10*n + (c.toNat - '0'.toNat) = m
      cases within : ofInt? (signed negative m) with
      | some key => exact ih (ofInt?_eq_some_iff.1 within).symm
      | none =>
        simp only [reduceCtorEq,false_iff,not_and]
        intro _ value
        have more := le_ofDigitChars cs m
        have lower := k.lower
        have upper := k.upper
        have bounds : -0x8000000000000000 ≤ signed negative m ∧
            signed negative m < 0x8000000000000000 := by
          rw [value] at lower upper
          cases negative <;> simp [signed] at lower upper ⊢ <;> omega
        simp [ofInt?,bounds] at within

/-- A text is read as the sort key that it spells in decimal, and as none if it spells no number within
the bounds. -/
theorem read_eq_ok_iff {text : List Char} {k : SortKey} :
    read text = .ok k ↔ IsDecimal text k.value := by
  have digits (negative : Bool) (cs : List Char) : readDigits negative zero cs = .ok k ↔
      (∀ c ∈ cs, c.isDigit = true) ∧ k.value = signed negative (Nat.ofDigitChars 10 cs 0) :=
    readDigits_eq_ok_iff cs (by cases negative <;> rfl)
  constructor
  · intro h
    unfold read at h
    split at h
    case h_1 => cases h
    case h_2 => cases h
    case h_3 => cases h
    case h_4 cs lone =>
      obtain ⟨all,value⟩ := (digits false cs).1 h
      exact ⟨['+'],cs,rfl,.inr (.inl rfl),fun empty => lone (by rw [empty]),all,value⟩
    case h_5 cs lone =>
      obtain ⟨all,value⟩ := (digits true cs).1 h
      exact ⟨['-'],cs,rfl,.inr (.inr rfl),fun empty => lone (by rw [empty]),all,value⟩
    case h_6 nonempty _ _ _ _ =>
      obtain ⟨all,value⟩ := (digits false text).1 h
      exact ⟨[],text,rfl,.inl rfl,nonempty,all,value⟩
  · rintro ⟨sign,cs,rfl,signs,nonempty,all,value⟩
    obtain ⟨c,cs,rfl⟩ := List.exists_cons_of_ne_nil nonempty
    rcases signs with rfl | rfl | rfl
    · have digit := all c List.mem_cons_self
      have plain : read (c :: cs) = readDigits false zero (c :: cs) := by
        unfold read
        split <;> simp_all
      exact plain.trans ((digits false _).2 ⟨all,value⟩)
    · exact (digits false _).2 ⟨all,value⟩
    · exact (digits true _).2 ⟨all,value⟩

end WorksheetUpload.SortKey
