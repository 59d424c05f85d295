import Mathlib.Data.List.Induction
import WorksheetUpload.Proofs.Text.Utf8

/-! ASCII cases and ASCII endings, in characters and in octets. The octets of all other characters lie
past those of ASCII, so that capitals are made small before encoding or after it alike, and an ASCII
text ends the octets of a text just where it ends the text itself. -/
namespace WorksheetUpload

namespace Text

theorem le_iff_toNat_le {c d : Char} : c ≤ d ↔ c.toNat ≤ d.toNat := UInt32.le_iff_toNat_le

theorem isAlpha_iff {c : Char} : c.isAlpha = true ↔ 'a' ≤ c ∧ c ≤ 'z' ∨ 'A' ≤ c ∧ c ≤ 'Z' := by
  have upper : c.isUpper = true ↔ 'A' ≤ c ∧ c ≤ 'Z' := decide_eq_true_iff
  have lower : c.isLower = true ↔ 'a' ≤ c ∧ c ≤ 'z' := by
    have both : c.isLower = (decide ('a' ≤ c) && decide (c ≤ 'z')) := rfl
    rw [both,Bool.and_eq_true,decide_eq_true_iff,decide_eq_true_iff]
  have letter : c.isAlpha = (c.isUpper || c.isLower) := rfl
  rw [letter,Bool.or_eq_true,upper,lower,or_comm]

theorem isAlphanum_iff {c : Char} :
    c.isAlphanum = true ↔ c.isAlpha = true ∨ '0' ≤ c ∧ c ≤ '9' := by
  have digit : c.isDigit = true ↔ '0' ≤ c ∧ c ≤ '9' := by
    have both : c.isDigit = (decide ('0' ≤ c) && decide (c ≤ '9')) := rfl
    rw [both,Bool.and_eq_true,decide_eq_true_iff,decide_eq_true_iff]
  have either : c.isAlphanum = (c.isAlpha || c.isDigit) := rfl
  rw [either,Bool.or_eq_true,digit]

end Text

namespace Utf8

/-- An octet with the capitals of ASCII made small. -/
def lower (b : UInt8) : UInt8 := if 0x41 ≤ b ∧ b ≤ 0x5A then b+0x20 else b

theorem lower_of_past {b : UInt8} (h : 0x80 ≤ b.toNat) : lower b = b := by
  refine if_neg fun letter => ?_
  have upper := UInt8.le_iff_toNat_le.1 letter.2
  exact absurd (Nat.le_trans h upper) (by decide)

theorem toLower_of_past {c : Char} (h : 0x80 ≤ c.toNat) : c.toLower = c := by
  refine dif_neg fun letter => ?_
  have upper := UInt32.le_iff_toNat_le.1 letter.2
  exact absurd (Nat.le_trans h upper) (by decide)

/-- What holds of ASCII, and of whatever is its own small letter, holds of all characters. -/
theorem forall_of_ascii {P : Char → Prop} (ascii : ∀ n < 0x80, P (Char.ofNat n))
    (past : ∀ c : Char, c.toLower = c → P c) (c : Char) : P c := by
  rcases Nat.lt_or_ge c.toNat 0x80 with small | large
  · have here := ascii c.toNat small
    rwa [Char.ofNat_toNat] at here
  · exact past c (toLower_of_past large)

theorem encodeChar_of_ascii {c : Char} (h : c.toNat < 0x80) :
    String.utf8EncodeChar c = [UInt8.ofNat c.toNat] := by
  rcases octets_encodeChar c with ⟨-,octet⟩ | ⟨past,-⟩
  · exact octet
  · omega

theorem map_lower_encodeChar (c : Char) :
    (String.utf8EncodeChar c).map lower = String.utf8EncodeChar c.toLower := by
  rcases octets_encodeChar c with ⟨ascii,octet⟩ | ⟨past,octets⟩
  case inl =>
    have letters : ∀ n < 0x80, lower (UInt8.ofNat n) = UInt8.ofNat (Char.ofNat n).toLower.toNat ∧
        (Char.ofNat n).toLower.toNat < 0x80 := by
      decide
    obtain ⟨same,small⟩ := letters c.toNat ascii
    rw [Char.ofNat_toNat] at same small
    rw [octet,encodeChar_of_ascii small,List.map_singleton,same]
  case inr =>
    rw [toLower_of_past past]
    exact (List.map_congr_left fun b hb => lower_of_past (octets b hb)).trans (List.map_id _)

theorem map_lower_encode (text : List Char) :
    (encode text).map lower = encode (text.map Char.toLower) := by
  induction text with
  | nil => rfl
  | cons c text ih =>
    rw [encode_cons,List.map_append,map_lower_encodeChar,ih,List.map_cons,encode_cons]

/-- A text whose octets end in that of an ASCII character ends in the character. -/
theorem exists_eq_concat_of_encode {s : List Char} {c : Char} (ascii : c.toNat < 0x80)
    {front : Bytes} (h : encode s = front ++ [UInt8.ofNat c.toNat]) :
    ∃ rest, s = rest ++ [c] ∧ encode rest = front := by
  rcases List.eq_nil_or_concat s with rfl | ⟨rest,d,rfl⟩
  case inl => simp at h
  case inr =>
    rw [List.concat_eq_append] at h ⊢
    rw [encode_append,encode_cons,encode_nil,List.append_nil] at h
    rcases octets_encodeChar d with ⟨small,octet⟩ | ⟨-,octets⟩
    case inl =>
      rw [octet] at h
      obtain ⟨rfl,same⟩ := List.append_singleton_inj.1 h
      have number := congrArg UInt8.toNat same
      rw [UInt8.toNat_ofNat_of_lt' (Nat.lt_trans small (by decide)),
        UInt8.toNat_ofNat_of_lt' (Nat.lt_trans ascii (by decide))] at number
      exact ⟨rest,by rw [Char.toNat_inj.1 number],rfl⟩
    case inr =>
      -- The last octet of such a character is past that of the other.
      obtain ⟨before,b,last⟩ :=
        (List.eq_nil_or_concat _).resolve_left (String.utf8EncodeChar_ne_nil (c := d))
      rw [last,List.concat_eq_append,← List.append_assoc] at h
      have past : 0x80 ≤ b.toNat := octets b (by simp [last])
      rw [(List.append_singleton_inj.1 h).2,
        UInt8.toNat_ofNat_of_lt' (Nat.lt_trans ascii (by decide))] at past
      omega

/-- An ASCII text ends the octets of a text just where it ends the text. -/
theorem encode_suffix_encode_iff {t : List Char} (ascii : ∀ c ∈ t, c.toNat < 0x80)
    {s : List Char} : encode t <:+ encode s ↔ t <:+ s := by
  constructor
  case mpr =>
    rintro ⟨front,rfl⟩
    rw [encode_append]
    exact List.suffix_append _ _
  case mp =>
    induction t using List.reverseRecOn generalizing s with
    | nil => exact fun _ => List.nil_suffix
    | append_singleton t c ih =>
      rintro ⟨front,h⟩
      have small : c.toNat < 0x80 := ascii c (by simp)
      rw [encode_append,encode_cons,encode_nil,List.append_nil,encodeChar_of_ascii small,
        ← List.append_assoc] at h
      obtain ⟨rest,rfl,octets⟩ := exists_eq_concat_of_encode small h.symm
      obtain ⟨more,rfl⟩ : t <:+ rest := ih (fun d hd => ascii d (by simp [hd])) ⟨front,octets.symm⟩
      exact ⟨more,by simp⟩

theorem length_encode (text : List Char) :
    (encode text).length = (String.ofList text).utf8ByteSize := by
  rw [← String.size_toByteArray,String.toByteArray_ofList,List.utf8Encode,List.size_toByteArray,
    encode]

theorem length_ofString (s : String) : (ofString s).length = s.utf8ByteSize := by
  rw [ofString,length_encode,String.ofList_toList]

end Utf8
end WorksheetUpload
