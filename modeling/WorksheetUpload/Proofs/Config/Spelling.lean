import WorksheetUpload.Proofs.Config.SortKey
import WorksheetUpload.Proofs.Text.Blank
import WorksheetUpload.Proofs.Text.Decimal

/-! The texts that spell an integer in an environment: blanks may stand around it, zeros before its
digits, and a plus before what is not negative. Each of them spells one integer, and all other texts
have no digits, or something else among them. -/
namespace WorksheetUpload.SortKey

/-- A spelling of an integer. Zero may have either sign. -/
inductive Spells (n : Int) : List Char → Prop
  | of {before sign after : List Char} (zeros : Nat) (hb : Text.Blanks before)
      (ha : Text.Blanks after)
      (signs : (sign = [] ∨ sign = ['+']) ∧ 0 ≤ n ∨ sign = ['-'] ∧ n ≤ 0) :
      Spells n (before ++ (sign ++ (List.replicate zeros '0' ++ Nat.toDigits 10 n.natAbs)) ++ after)

/-- What is behind the sign of a text, if it has one. -/
def withoutSign : List Char → List Char
  | '+' :: rest => rest
  | '-' :: rest => rest
  | text => text

/-- A text that is no integer: there is nothing in it, or a sign alone, or something that is no
digit. -/
inductive Garbled : List Char → Prop
  | nothing : Garbled []
  | lone {sign : Char} (h : sign = '+' ∨ sign = '-') : Garbled [sign]
  | odd {text : List Char} {c : Char} (there : c ∈ withoutSign text) (odd : c.isDigit = false) :
      Garbled text

/-- Digits go on behind those of a number as in the decimal of the number they lead to. -/
theorem toDigits_append_of_isDigit {n : Nat} (positive : 0 < n) {cs : List Char}
    (all : ∀ c ∈ cs, c.isDigit = true) :
    Nat.toDigits 10 n ++ cs = Nat.toDigits 10 (Nat.ofDigitChars 10 cs n) := by
  induction cs generalizing n with
  | nil => simp
  | cons c cs ih =>
    obtain ⟨digit,others⟩ := List.forall_mem_cons.1 all
    obtain ⟨small,same⟩ := Text.digitChar_of_isDigit digit
    have one := Nat.toDigits_append_toDigits (b := 10) (by decide) positive small
    rw [Nat.toDigits_of_lt_base small,same] at one
    rw [Nat.ofDigitChars_cons,← ih (by omega) others,← one]
    simp

/-- Digits are zeros and behind them the decimal of a number. -/
theorem exists_zeros_append {cs : List Char} (nonempty : cs ≠ [])
    (all : ∀ c ∈ cs, c.isDigit = true) : ∃ zeros,
    cs = List.replicate zeros '0' ++ Nat.toDigits 10 (Nat.ofDigitChars 10 cs 0) := by
  induction cs with
  | nil => exact absurd rfl nonempty
  | cons c cs ih =>
    obtain ⟨digit,others⟩ := List.forall_mem_cons.1 all
    by_cases zero : c = '0'
    case pos =>
      subst zero
      by_cases empty : cs = []
      case pos =>
        subst empty
        exact ⟨0,by decide⟩
      case neg =>
        obtain ⟨zeros,h⟩ := ih empty others
        have value : Nat.ofDigitChars 10 ('0' :: cs) 0 = Nat.ofDigitChars 10 cs 0 := rfl
        refine ⟨zeros+1,?_⟩
        rw [value,List.replicate_succ,List.cons_append,← h]
    case neg =>
      obtain ⟨small,same⟩ := Text.digitChar_of_isDigit digit
      have positive : 0 < c.toNat - '0'.toNat := by
        refine Nat.pos_of_ne_zero fun zeros => zero ?_
        rw [← same,zeros]
        rfl
      have more := toDigits_append_of_isDigit positive others
      rw [Nat.toDigits_of_lt_base small,same] at more
      refine ⟨0,?_⟩
      rw [Nat.ofDigitChars_cons,Nat.mul_zero,Nat.zero_add,← more]
      rfl

theorem ofDigitChars_zeros_append (zeros n : Nat) :
    Nat.ofDigitChars 10 (List.replicate zeros '0' ++ Nat.toDigits 10 n) 0 = n := by
  rw [Nat.ofDigitChars_append,Nat.ofDigitChars_replicate_zero,Nat.mul_zero,
    Nat.ofDigitChars_ten_toDigits]

theorem tight_of_digits {sign digits : List Char} (signs : sign = [] ∨ sign = ['+'] ∨ sign = ['-'])
    (all : ∀ c ∈ digits, c.isDigit = true) : Text.Tight (sign ++ digits) := by
  refine .of_forall fun c hc => ?_
  rcases List.mem_append.1 hc with first | digit
  · rcases signs with rfl | rfl | rfl
    · cases first
    · rw [List.mem_singleton.1 first]
      decide
    · rw [List.mem_singleton.1 first]
      decide
  · exact Text.not_isBlank_of_isDigit (all c digit)

/-- To spell an integer is to be read as one, blanks aside. -/
theorem spells_iff {n : Int} {text : List Char} :
    Spells n text ↔ IsDecimal (Text.trim text) n := by
  constructor
  · intro h
    cases h with
    | @of before sign after zeros hb ha signs =>
      have digits :
          ∀ c ∈ List.replicate zeros '0' ++ Nat.toDigits 10 n.natAbs, c.isDigit = true := by
        intro c hc
        rcases List.mem_append.1 hc with zero | digit
        · rw [List.eq_of_mem_replicate zero]
          decide
        · exact Text.isDigit_of_mem_decimal digit
      have marks : sign = [] ∨ sign = ['+'] ∨ sign = ['-'] := by tauto
      rw [Text.trim_padded hb ha,(tight_of_digits marks digits).trim_eq]
      refine ⟨sign,_,rfl,marks,by simp [Nat.toDigits_ne_nil],digits,?_⟩
      rw [ofDigitChars_zeros_append]
      rcases signs with ⟨rfl | rfl,bound⟩ | ⟨rfl,bound⟩
      · exact (Int.natAbs_of_nonneg bound).symm
      · exact (Int.natAbs_of_nonneg bound).symm
      · change n = -(n.natAbs : Int)
        omega
  · rintro ⟨sign,digits,trimmed,marks,nonempty,all,value⟩
    obtain ⟨before,after,hb,ha,padded⟩ := Text.exists_eq_padded text
    obtain ⟨zeros,h⟩ := exists_zeros_append nonempty all
    have magnitude : n.natAbs = Nat.ofDigitChars 10 digits 0 := by
      rw [value]
      cases sign == ['-'] <;> simp [signed]
    rw [padded,trimmed,h,← magnitude]
    refine .of zeros hb ha ?_
    rcases marks with rfl | rfl | rfl <;> simp [signed] at value <;> simp <;> omega

theorem exists_sign_append (text : List Char) : ∃ sign,
    (sign = [] ∨ sign = ['+'] ∨ sign = ['-']) ∧ text = sign ++ withoutSign text := by
  unfold withoutSign
  split
  case h_1 => exact ⟨['+'],by simp,rfl⟩
  case h_2 => exact ⟨['-'],by simp,rfl⟩
  case h_3 => exact ⟨[],by simp,rfl⟩

theorem withoutSign_of_isDigit {c : Char} (h : c.isDigit = true) (rest : List Char) :
    withoutSign (c :: rest) = c :: rest := by
  unfold withoutSign
  split <;> simp_all

theorem withoutSign_append {sign digits : List Char}
    (marks : sign = [] ∨ sign = ['+'] ∨ sign = ['-']) (nonempty : digits ≠ [])
    (all : ∀ c ∈ digits, c.isDigit = true) : withoutSign (sign ++ digits) = digits := by
  rcases marks with rfl | rfl | rfl
  · obtain ⟨c,rest,rfl⟩ := List.exists_cons_of_ne_nil nonempty
    exact withoutSign_of_isDigit (all c List.mem_cons_self) rest
  · rfl
  · rfl

/-- No text is read as two integers. -/
theorem IsDecimal.unique {text : List Char} {n m : Int} (hn : IsDecimal text n)
    (hm : IsDecimal text m) : n = m := by
  obtain ⟨sign,digits,rfl,marks,nonempty,all,rfl⟩ := hn
  obtain ⟨sign',digits',parts,marks',nonempty',all',rfl⟩ := hm
  have behind := withoutSign_append marks nonempty all
  rw [parts,withoutSign_append marks' nonempty' all'] at behind
  subst behind
  rw [List.append_cancel_right parts]

theorem Spells.unique {text : List Char} {n m : Int} (hn : Spells n text) (hm : Spells m text) :
    n = m := (spells_iff.1 hn).unique (spells_iff.1 hm)

/-- A text is read as an integer just if there are digits behind its sign, and nothing else. -/
theorem exists_isDecimal_iff {text : List Char} : (∃ n, IsDecimal text n) ↔
    withoutSign text ≠ [] ∧ ∀ c ∈ withoutSign text, c.isDigit = true := by
  constructor
  · rintro ⟨n,sign,digits,rfl,marks,nonempty,all,-⟩
    rw [withoutSign_append marks nonempty all]
    exact ⟨nonempty,all⟩
  · rintro ⟨nonempty,all⟩
    obtain ⟨sign,marks,parts⟩ := exists_sign_append text
    exact ⟨_,sign,_,parts,marks,nonempty,all,rfl⟩

theorem garbled_iff_withoutSign {text : List Char} : Garbled text ↔
    ¬ (withoutSign text ≠ [] ∧ ∀ c ∈ withoutSign text, c.isDigit = true) := by
  constructor
  · rintro (_ | mark | ⟨there,odd⟩) ⟨nonempty,all⟩
    · exact nonempty rfl
    · rcases mark with rfl | rfl <;> exact nonempty rfl
    · rw [all _ there] at odd
      cases odd
  · intro bad
    by_cases empty : withoutSign text = []
    case pos =>
      obtain ⟨sign,marks,parts⟩ := exists_sign_append text
      rw [empty,List.append_nil] at parts
      subst parts
      rcases marks with rfl | rfl | rfl
      · exact .nothing
      · exact .lone (.inl rfl)
      · exact .lone (.inr rfl)
    case neg =>
      obtain ⟨c,there,odd⟩ : ∃ c ∈ withoutSign text, ¬ c.isDigit = true := by
        by_contra all
        exact bad ⟨empty,fun c hc => by_contra fun odd => all ⟨c,hc,odd⟩⟩
      exact .odd there (Bool.eq_false_iff.2 odd)

/-- A text that spells no integer is garbled. -/
theorem garbled_iff {text : List Char} :
    Garbled (Text.trim text) ↔ ∀ n, ¬ Spells n text := by
  rw [garbled_iff_withoutSign,← exists_isDecimal_iff,not_exists]
  simp only [spells_iff]

end WorksheetUpload.SortKey
