import Mathlib.Data.List.Basic
import WorksheetUpload.Proofs.Text.Utf8
import WorksheetUpload.Url.Encoding

/-! What percent codes denote. Octets come back from their codes, encoding a text does not change
what it denotes, and a text denotes its own octets exactly when it holds no code. -/
namespace WorksheetUpload.Url

theorem hexDigit?_digitChar {n : Nat} (h : n < 16) :
    hexDigit? (Nat.digitChar n).toUpper = some n := by
  decide +revert

/-- Whether two digits come first, as behind the percent sign of a code. -/
def startsWithDigits : List Char → Bool
  | a :: b :: _ => (hexDigit? a).isSome && (hexDigit? b).isSome
  | _ => false

/-- Whether a text begins with a percent code. -/
def startsWithCode : List Char → Bool
  | c :: rest => c == '%' && startsWithDigits rest
  | [] => false

/-- Whether a text holds a percent code. -/
def hasCode : List Char → Bool
  | [] => false
  | c :: rest => startsWithCode (c :: rest) || hasCode rest

theorem startsWithCode_eq_true {text : List Char} (h : startsWithCode text = true) :
    ∃ a b rest x y, text = '%' :: a :: b :: rest ∧ hexDigit? a = some x ∧ hexDigit? b = some y := by
  match text with
  | [] | [c] | [c,a] => simp [startsWithCode,startsWithDigits] at h
  | c :: a :: b :: rest =>
    simp only [startsWithCode,startsWithDigits,Bool.and_eq_true,beq_iff_eq,
      Option.isSome_iff_exists] at h
    obtain ⟨rfl,⟨x,ha⟩,y,hb⟩ := h
    exact ⟨a,b,rest,x,y,rfl,ha,hb⟩

/-- Texts are read code by code, and character by character where there is none. -/
@[elab_as_elim] theorem code_induction {P : List Char → Prop} (nil : P [])
    (code : ∀ a b rest x y, hexDigit? a = some x → hexDigit? b = some y → P rest →
      P ('%' :: a :: b :: rest))
    (other : ∀ c rest, startsWithCode (c :: rest) = false → P rest → P (c :: rest)) :
    ∀ text, P text
  | [] => nil
  | c :: rest =>
    if h : startsWithCode (c :: rest) = true then by
      obtain ⟨a,b,rest',x,y,he,ha,hb⟩ := startsWithCode_eq_true h
      obtain ⟨rfl,rfl⟩ := List.cons_eq_cons.1 he
      exact code a b rest' x y ha hb (code_induction nil code other rest')
    else other c rest (by simpa using h) (code_induction nil code other rest)
termination_by text => text.length

@[simp] theorem decode_nil : decode [] = [] := by rw [decode]

theorem decode_code {a b : Char} {x y : Nat} (ha : hexDigit? a = some x) (hb : hexDigit? b = some y)
    (rest : List Char) : decode ('%' :: a :: b :: rest) = UInt8.ofNat (x*16+y) :: decode rest := by
  rw [decode,ha,hb]

/-- A character that begins no code denotes its own octets. -/
theorem decode_cons {c : Char} {rest : List Char} (h : startsWithCode (c :: rest) = false) :
    decode (c :: rest) = String.utf8EncodeChar c ++ decode rest := by
  by_cases hc : c = '%'
  case neg => rw [decode]; rintro a b t rfl; exact absurd rfl hc
  case pos =>
    subst hc
    match rest with
    | [] => rfl
    | [a] => rw [decode]; simp
    | a :: b :: rest =>
      rw [decode]
      cases ha : hexDigit? a <;> cases hb : hexDigit? b <;>
        simp_all [startsWithCode,startsWithDigits] <;> rfl

theorem decode_percentOctet (b : UInt8) (rest : List Char) :
    decode (percentOctet b ++ rest) = b :: decode rest := by
  have hb : b.toNat < 256 := b.toNat_lt
  have hn : b.toNat/16*16 + b.toNat%16 = b.toNat := by omega
  simp only [percentOctet,List.cons_append,List.nil_append]
  rw [decode_code (hexDigit?_digitChar (by omega)) (hexDigit?_digitChar (by omega)),hn,
    UInt8.ofNat_toNat]

theorem decode_percentOctets (bytes : Bytes) (rest : List Char) :
    decode (bytes.flatMap percentOctet ++ rest) = bytes ++ decode rest := by
  induction bytes with
  | nil => rfl
  | cons b bytes ih => rw [List.flatMap_cons,List.append_assoc,decode_percentOctet,ih,List.cons_append]

theorem length_decode_le (text : List Char) : (decode text).length ≤ (Utf8.encode text).length := by
  induction text using code_induction with
  | nil => simp
  | code a b rest x y ha hb ih =>
    have hp : 0 < (String.utf8EncodeChar '%').length := by decide
    simp only [decode_code ha hb,Utf8.encode_cons,List.length_append,List.length_cons]
    omega
  | other c rest h ih => simpa [decode_cons h] using ih

/-- A code stands for one octet, and takes three. -/
theorem length_decode_lt {text : List Char} (h : hasCode text = true) :
    (decode text).length < (Utf8.encode text).length := by
  induction text using code_induction with
  | nil => simp [hasCode] at h
  | code a b rest x y ha hb _ =>
    have hr := length_decode_le rest
    have hp : 0 < (String.utf8EncodeChar '%').length := by decide
    have hl : 0 < (String.utf8EncodeChar a).length := by
      simp [String.length_utf8EncodeChar,Char.utf8Size_pos]
    simp only [decode_code ha hb,Utf8.encode_cons,List.length_append,List.length_cons]
    omega
  | other c rest hc ih => simpa [decode_cons hc] using ih (by simpa [hasCode,hc] using h)

theorem decode_eq_encode_iff (text : List Char) :
    decode text = Utf8.encode text ↔ hasCode text = false := by
  constructor
  · intro h
    by_contra hc
    have hl : (decode text).length < (Utf8.encode text).length :=
      length_decode_lt (by simpa using hc)
    rw [h] at hl
    exact Nat.lt_irrefl _ hl
  · intro h
    induction text with
    | nil => simp
    | cons c rest ih =>
      obtain ⟨hc,hr⟩ := Bool.or_eq_false_iff.1 h
      rw [decode_cons hc,ih hr,Utf8.encode_cons]

section

variable {marks : MarkSet}

theorem encodeChar_of_isPlain {c : Char} (h : isPlain marks c = true) : encodeChar marks c = [c] := by
  rw [encodeChar,if_pos h]

/-- A character that cannot stand as it is turns into codes, one at least. -/
theorem encodeChar_of_not_isPlain {c : Char} (h : isPlain marks c = false) :
    ∃ rest, encodeChar marks c = '%' :: rest := by
  rw [encodeChar,if_neg (by simp [h])]
  obtain ⟨b,bytes,hb⟩ := List.exists_cons_of_ne_nil (String.utf8EncodeChar_ne_nil (c := c))
  exact ⟨_,by rw [hb,List.flatMap_cons,percentOctet,List.cons_append]⟩

theorem hexDigit?_bounds {c : Char} {n : Nat} (h : hexDigit? c = some n) :
    0x20 ≤ c.toNat ∧ c.toNat < 0x7F := by
  have le_iff (a b : Char) : a ≤ b ↔ a.toNat ≤ b.toNat := UInt32.le_iff_toNat_le
  simp only [hexDigit?,le_iff,Char.reduceToNat] at h
  split at h
  case isTrue => omega
  split at h
  case isTrue => omega
  split at h
  case isTrue => omega
  cases h

theorem startsWithDigits_percent (rest : List Char) : startsWithDigits ('%' :: rest) = false := by
  have hp : hexDigit? '%' = none := by decide
  cases rest <;> simp [startsWithDigits,hp]

variable (hm : ∀ c ∈ marks, hexDigit? c = none)
include hm

theorem isPlain_of_hexDigit? {c : Char} {n : Nat} (h : hexDigit? c = some n) :
    isPlain marks c = true := by
  have hc : c ∉ marks := fun hc => by simp [hm c hc] at h
  simpa [isPlain,hc] using hexDigit?_bounds h

/-- Encoding leaves digits where they are, and puts no new ones behind a percent sign. -/
theorem startsWithDigits_encode (text : List Char) :
    startsWithDigits (encode marks text) = startsWithDigits text := by
  have none_of_not_plain {c : Char} (h : isPlain marks c = false) : hexDigit? c = none :=
    Option.eq_none_iff_forall_ne_some.2 fun n hn => by simp [isPlain_of_hexDigit? hm hn] at h
  match text with
  | [] => rfl
  | a :: text =>
    cases ha : isPlain marks a with
    | false =>
      obtain ⟨rest,hr⟩ := encodeChar_of_not_isPlain ha
      rw [encode_cons,hr,List.cons_append,startsWithDigits_percent]
      cases text <;> simp [startsWithDigits,none_of_not_plain ha]
    | true =>
      match text with
      | [] => simp [encodeChar_of_isPlain ha,startsWithDigits]
      | b :: text =>
        cases hb : isPlain marks b with
        | true => simp [encodeChar_of_isPlain ha,encodeChar_of_isPlain hb,startsWithDigits]
        | false =>
          obtain ⟨rest,hr⟩ := encodeChar_of_not_isPlain hb
          have hp : hexDigit? '%' = none := by decide
          simp [encodeChar_of_isPlain ha,hr,startsWithDigits,none_of_not_plain hb,hp]

/-- Encoding a text does not change what it denotes. -/
theorem decode_encode (hp : '%' ∉ marks) (text : List Char) :
    decode (encode marks text) = decode text := by
  have plain_percent : isPlain marks '%' = true := by simp [isPlain,hp]
  induction text using code_induction with
  | nil => rfl
  | code a b rest x y ha hb ih =>
    simp only [encode_cons,encodeChar_of_isPlain plain_percent,
      encodeChar_of_isPlain (isPlain_of_hexDigit? hm ha),
      encodeChar_of_isPlain (isPlain_of_hexDigit? hm hb),List.cons_append,List.nil_append,
      decode_code ha hb,ih]
  | other c rest h ih =>
    rw [encode_cons,decode_cons h]
    cases hc : isPlain marks c with
    | true =>
      rw [encodeChar_of_isPlain hc,List.singleton_append,decode_cons,ih]
      simpa [startsWithCode,startsWithDigits_encode hm] using h
    | false => rw [encodeChar,if_neg (by simp [hc]),decode_percentOctets,ih]

end

end WorksheetUpload.Url
