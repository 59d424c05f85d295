import Mathlib.Data.List.Basic
import WorksheetUpload.Json.Text
import WorksheetUpload.Proofs.Json.Written
import WorksheetUpload.Proofs.Text.Utf8

/-! Strings of JSON are read as the characters that their pieces stand for, and whoever skips a string
ends behind the same quote. -/
namespace WorksheetUpload.Json

/-- An octet that stands for itself inside quotes. -/
def IsPlainOctet (b : UInt8) : Prop := b ≠ 0x22 ∧ b ≠ 0x5C ∧ ¬ b < 0x20

theorem isPlainOctet_of_toNat {b : UInt8} (low : 0x20 ≤ b.toNat) (quote : b.toNat ≠ 0x22)
    (backslash : b.toNat ≠ 0x5C) : IsPlainOctet b := by
  refine ⟨?_,?_,?_⟩
  · rintro rfl
    exact quote rfl
  · rintro rfl
    exact backslash rfl
  · rw [UInt8.lt_iff_toNat_lt]
    exact Nat.not_lt.2 low

/-- The octets of a plain character are plain: where it takes several, they all lie past the
marks. -/
theorem isPlainOctet_of_mem_encodeChar {c : Char} (ok : c ≠ '"' ∧ c ≠ '\\' ∧ 0x20 ≤ c.toNat) :
    ∀ b ∈ String.utf8EncodeChar c, IsPlainOctet b := by
  intro b hb
  rcases Utf8.octets_encodeChar c with ⟨one,octets⟩ | ⟨-,octets⟩
  case inl =>
    rw [octets,List.mem_singleton] at hb
    have number : b.toNat = c.toNat := by rw [hb,UInt8.toNat_ofNat_of_lt' (Nat.lt_trans one (by decide))]
    refine isPlainOctet_of_toNat ?_ ?_ ?_ <;> rw [number]
    · exact ok.2.2
    · exact fun h => ok.1 (Char.toNat_inj.1 h)
    · exact fun h => ok.2.1 (Char.toNat_inj.1 h)
  case inr =>
    have past := octets b hb
    exact isPlainOctet_of_toNat (by omega) (by omega) (by omega)

/-- The octet of a digit. -/
def HexDigit.octet (d : HexDigit) : UInt8 := UInt8.ofNat d.char.toNat

theorem HexDigit.encodeChar (d : HexDigit) : String.utf8EncodeChar d.char = [d.octet] := by
  have all : ∀ (v : Fin 16) (capital : Bool),
      String.utf8EncodeChar (char ⟨v,capital⟩) = [octet ⟨v,capital⟩] := by decide
  exact all d.value d.capital

theorem HexDigit.hexValue_octet (d : HexDigit) : hexValue d.octet = some d.value.val := by
  have all : ∀ (v : Fin 16) (capital : Bool), hexValue (octet ⟨v,capital⟩) = some v.val := by
    decide
  exact all d.value d.capital

namespace CodeUnit

/-- The octets of the digits. -/
def octets (u : CodeUnit) : Bytes :=
  [u.first.octet,u.second.octet,u.third.octet,u.fourth.octet]

theorem encode_text (u : CodeUnit) : Utf8.encode u.text = 0x5C :: 0x75 :: u.octets := by
  simp only [text,Utf8.encode_cons,Utf8.encode_nil,HexDigit.encodeChar]
  rfl

theorem hexFour_octets (u : CodeUnit) (rest : Bytes) :
    hexFour (u.octets ++ rest) = .ok (u.value,rest) := by
  simp only [octets,List.cons_append,List.nil_append,hexFour,HexDigit.hexValue_octet]
  rfl

theorem isHighSurrogate_value {u : CodeUnit} : isHighSurrogate u.value = true ↔ u.IsHigh := by
  simp [isHighSurrogate,IsHigh]

theorem isLowSurrogate_value {u : CodeUnit} : isLowSurrogate u.value = true ↔ u.IsLow := by
  simp [isLowSurrogate,IsLow]

theorem not_isLow_of_isHigh {u : CodeUnit} (h : u.IsHigh) : ¬ u.IsLow := by
  intro l
  have := h.2
  have := l.1
  omega

end CodeUnit

theorem encode_short (s : Short) : ∃ b, Utf8.encode ['\\',s.letter] = [0x5C,b] ∧ b ≠ 0x75 ∧
    ∃ c, shortEscape b = some c ∧ Char.ofNat c.toNat = s.char := by
  cases s <;> exact ⟨_,rfl,by decide,_,rfl,by decide⟩

/-- An escape is read as its character. -/
theorem readEscape_short (s : Short) (rest : Bytes) :
    ∃ b, Utf8.encode ['\\',s.letter] = [0x5C,b] ∧
      readEscape (b :: rest) = .ok (s.char,rest) ∧ skipEscape (b :: rest) = .ok rest := by
  obtain ⟨b,he,hu,c,hc,hs⟩ := encode_short s
  refine ⟨b,he,?_,?_⟩
  · simp [readEscape,hu,hc,hs]
  · simp [skipEscape,hu,hc]

theorem skipEscape_code (u : CodeUnit) (rest : Bytes) :
    skipEscape (0x75 :: u.octets ++ rest) = .ok rest := by
  simp [skipEscape,u.hexFour_octets,Except.map]

theorem readEscape_code {u : CodeUnit} (ok : ¬ u.IsHigh ∧ ¬ u.IsLow) (rest : Bytes) :
    readEscape (0x75 :: u.octets ++ rest) = .ok (Char.ofNat u.value,rest) := by
  simp [readEscape,u.hexFour_octets,CodeUnit.isHighSurrogate_value,CodeUnit.isLowSurrogate_value,
    ok.1,ok.2,bind,Except.bind]

theorem readEscape_pair {high low : CodeUnit} (ok : high.IsHigh ∧ low.IsLow) (rest : Bytes) :
    readEscape (0x75 :: high.octets ++ (0x5C :: 0x75 :: low.octets ++ rest)) =
      .ok (Char.ofNat (0x10000 + (high.value-0xD800)*0x400 + (low.value-0xDC00)),rest) := by
  have second : lowSurrogate high.value (0x5C :: 0x75 :: low.octets ++ rest) =
      .ok (Char.ofNat (0x10000 + (high.value-0xD800)*0x400 + (low.value-0xDC00)),rest) := by
    simp [lowSurrogate,low.hexFour_octets,CodeUnit.isLowSurrogate_value,ok.2,bind,Except.bind]
  simp only [readEscape,List.cons_append,if_true,high.hexFour_octets,bind,Except.bind]
  rw [if_neg (by simpa [CodeUnit.isLowSurrogate_value] using CodeUnit.not_isLow_of_isHigh ok.1),
    if_pos (CodeUnit.isHighSurrogate_value.2 ok.1)]
  exact second

theorem unescape_plain {bs : Bytes} (plain : ∀ b ∈ bs, IsPlainOctet b) (rest : Bytes) :
    unescape (bs ++ rest) = (unescape rest).map fun p => (bs ++ p.1,p.2) := by
  induction bs with
  | nil => cases h : unescape rest <;> simp [h,Except.map]
  | cons b bs ih =>
    obtain ⟨⟨quote,backslash,low⟩,plain⟩ := List.forall_mem_cons.1 plain
    rw [List.cons_append,unescape,if_neg quote,if_neg backslash,if_neg low,ih plain]
    cases unescape rest <;> rfl

theorem skipText_plain {bs : Bytes} (plain : ∀ b ∈ bs, IsPlainOctet b) (rest : Bytes) :
    skipText (bs ++ rest) = skipText rest := by
  induction bs with
  | nil => rfl
  | cons b bs ih =>
    obtain ⟨⟨quote,backslash,low⟩,plain⟩ := List.forall_mem_cons.1 plain
    rw [List.cons_append,skipText,if_neg quote,if_neg backslash,if_neg low,ih plain]

theorem unescape_escape {text rest : Bytes} {c : Char} (h : readEscape text = .ok (c,rest)) :
    unescape (0x5C :: text) =
      (unescape rest).map fun p => (String.utf8EncodeChar c ++ p.1,p.2) := by
  rw [unescape,if_neg (by decide),if_pos rfl]
  split
  case h_1 he => rw [h] at he; cases he
  case h_2 he => rw [h] at he; cases he; rfl

theorem skipText_escape {text rest : Bytes} (h : skipEscape text = .ok rest) :
    skipText (0x5C :: text) = skipText rest := by
  rw [skipText,if_neg (by decide),if_pos rfl]
  split
  case h_1 he => rw [h] at he; cases he
  case h_2 he => rw [h] at he; cases he; rfl

theorem unescape_piece (p : Piece) (rest : Bytes) :
    unescape (Utf8.encode p.text ++ rest) =
      (unescape rest).map fun r => (String.utf8EncodeChar p.char ++ r.1,r.2) := by
  cases p with
  | plain c ok =>
    simpa [Piece.text,Piece.char] using
      unescape_plain (isPlainOctet_of_mem_encodeChar ok) rest
  | short s =>
    obtain ⟨b,he,hr,-⟩ := readEscape_short s rest
    rw [Piece.text,he]
    exact unescape_escape hr
  | code u ok =>
    rw [Piece.text,u.encode_text]
    exact unescape_escape (readEscape_code ok rest)
  | pair high low ok =>
    rw [Piece.text,Utf8.encode_append,high.encode_text,low.encode_text,List.append_assoc]
    exact unescape_escape (readEscape_pair ok rest)

theorem skipText_piece (p : Piece) (rest : Bytes) :
    skipText (Utf8.encode p.text ++ rest) = skipText rest := by
  cases p with
  | plain c ok =>
    simpa [Piece.text] using skipText_plain (isPlainOctet_of_mem_encodeChar ok) rest
  | short s =>
    obtain ⟨b,he,-,hs⟩ := readEscape_short s rest
    rw [Piece.text,he]
    exact skipText_escape hs
  | code u ok =>
    rw [Piece.text,u.encode_text]
    exact skipText_escape (skipEscape_code u rest)
  | pair high low ok =>
    rw [Piece.text,Utf8.encode_append,high.encode_text,low.encode_text,List.append_assoc]
    exact (skipText_escape (skipEscape_code high _)).trans
      (skipText_escape (skipEscape_code low rest))

namespace Quoted

/-- The octets of a string, from behind its opening quote. -/
def octets (q : Quoted) : Bytes := Utf8.encode q.text

theorem octets_nil : octets [] = [0x22] := rfl

theorem octets_cons (p : Piece) (q : Quoted) :
    octets (p :: q) = Utf8.encode p.text ++ octets q := by
  simp [octets,text]

theorem unescape_octets (q : Quoted) (rest : Bytes) :
    unescape (q.octets ++ rest) = .ok (Utf8.encode (q.map Piece.char),rest) := by
  induction q with
  | nil => rw [octets_nil,List.singleton_append,unescape,if_pos rfl]; rfl
  | cons p q ih =>
    rw [octets_cons,List.append_assoc,unescape_piece,ih]
    rfl

theorem skipText_octets (q : Quoted) (rest : Bytes) : skipText (q.octets ++ rest) = .ok rest := by
  induction q with
  | nil => rw [octets_nil,List.singleton_append,skipText,if_pos rfl]
  | cons p q ih => rw [octets_cons,List.append_assoc,skipText_piece,ih]

theorem readText_octets (q : Quoted) (rest : Bytes) :
    readText (q.octets ++ rest) = .ok (q.string,rest.length) := by
  simp [readText,unescape_octets,string,bind,Except.bind]

end Quoted
end WorksheetUpload.Json
