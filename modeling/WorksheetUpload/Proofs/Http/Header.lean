import WorksheetUpload.Http.Request
import WorksheetUpload.Proofs.Text.Utf8

/-! Texts in headers. A text goes into a header octet by octet; which texts may stand there is a matter
of their characters all the same. -/
namespace WorksheetUpload.Http

/-- Whether a text can stand in a header: it holds no control but the tab. -/
def FitsHeader (s : String) : Prop := ∀ c ∈ s.toList, c = '\t' ∨ 0x20 ≤ c.toNat ∧ c ≠ '\x7f'

theorem octets_fit_iff (c : Char) :
    ((String.utf8EncodeChar c).all fun b => (0x20 ≤ b && b != 0x7F) || b == 0x09) = true ↔
      (c = '\t' ∨ 0x20 ≤ c.toNat ∧ c ≠ '\x7f') := by
  rcases Utf8.octets_encodeChar c with ⟨one,octets⟩ | ⟨several,octets⟩
  case inl =>
    have ascii : ∀ n < 0x80, ((0x20 ≤ UInt8.ofNat n && UInt8.ofNat n != 0x7F) ||
        UInt8.ofNat n == 0x09) = true ↔
          (Char.ofNat n = '\t' ∨ 0x20 ≤ n ∧ Char.ofNat n ≠ '\x7f') := by decide
    rw [octets,List.all_cons,List.all_nil,Bool.and_true,ascii c.toNat one,Char.ofNat_toNat]
  case inr =>
    refine iff_of_true (List.all_eq_true.2 fun b hb => ?_) (.inr ⟨by omega,?_⟩)
    · have high := octets b hb
      have low : 0x20 ≤ b := UInt8.le_iff_toNat_le.2 (Nat.le_trans (by decide) high)
      have other : b ≠ 0x7F := by rintro rfl; exact absurd high (by decide)
      simp [low,other]
    · rintro rfl
      exact absurd several (by decide)

theorem isHeaderText_iff (s : String) : isHeaderText s = true ↔ FitsHeader s := by
  rw [isHeaderText,Utf8.ofString,Utf8.encode,List.all_flatMap,List.all_eq_true]
  exact forall₂_congr fun c _ => octets_fit_iff c

end WorksheetUpload.Http
