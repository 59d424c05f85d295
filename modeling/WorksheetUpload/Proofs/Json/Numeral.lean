import Mathlib.Data.List.Basic
import WorksheetUpload.Json.Token
import WorksheetUpload.Proofs.Json.Written
import WorksheetUpload.Proofs.Text.Utf8

/-! Numbers of JSON are scanned into their parts, as far as they go, and a numeral counts as a whole
number when it is written as one that 64 bits can hold. -/
namespace WorksheetUpload.Json

/-- What may follow a value: the end, a blank, a comma or a closing bracket. -/
def Ends (rest : Bytes) : Prop :=
  ∀ b ∈ rest.head?, isSpace b = true ∨ b = 0x2C ∨ b = 0x5D ∨ b = 0x7D

theorem Ends.not_in_number {b : UInt8} {rest : Bytes} (h : Ends (b :: rest)) :
    isDigit b = false ∧ b ≠ 0x2E ∧ b ≠ 0x65 ∧ b ≠ 0x45 := by
  have hb : isSpace b = true ∨ b = 0x2C ∨ b = 0x5D ∨ b = 0x7D := h b rfl
  simp only [isSpace,Bool.or_eq_true,beq_iff_eq] at hb
  rcases hb with (((rfl | rfl) | rfl) | rfl) | rfl | rfl | rfl <;> decide

/-- Whether no digit comes first. -/
def EndsDigits (rest : Bytes) : Prop := ∀ b ∈ rest.head?, isDigit b = false

theorem endsDigits_cons {b : UInt8} (h : isDigit b = false) (rest : Bytes) :
    EndsDigits (b :: rest) := by
  intro c hc
  obtain rfl : b = c := Option.some.inj hc
  exact h

theorem Ends.endsDigits {rest : Bytes} (h : Ends rest) : EndsDigits rest := by
  cases rest with
  | nil => exact nofun
  | cons b rest => exact endsDigits_cons h.not_in_number.1 rest

theorem digits_of_endsDigits {rest : Bytes} (h : EndsDigits rest) : digits rest = ([],rest) := by
  cases rest with
  | nil => rfl
  | cons b rest => simp [digits,h b rfl]

/-- The octet of a digit. -/
def digitOctet (v : Nat) : UInt8 := UInt8.ofNat (v+0x30)

theorem digitOctet_spec : ∀ v < 10, String.utf8EncodeChar (Nat.digitChar v) = [digitOctet v] ∧
    isDigit (digitOctet v) = true ∧ (digitOctet v).toNat-0x30 = v ∧
    (digitOctet v = 0x30 ↔ v = 0) := by
  decide

theorem sign_ne_of_isDigit {b : UInt8} (h : isDigit b = true) : b ≠ 0x2D ∧ b ≠ 0x2B := by
  constructor
  · rintro rfl
    contradiction
  · rintro rfl
    contradiction

theorem digits_map {vs : List Nat} (small : ∀ v ∈ vs, v < 10) {rest : Bytes}
    (h : EndsDigits rest) : digits (vs.map digitOctet ++ rest) = (vs,rest) := by
  induction vs with
  | nil => exact digits_of_endsDigits h
  | cons v vs ih =>
    obtain ⟨hv,small⟩ := List.forall_mem_cons.1 small
    obtain ⟨-,digit,value,-⟩ := digitOctet_spec v hv
    rw [List.map_cons,List.cons_append,digits,if_pos digit,ih small,value]

namespace Digits

theorem values_lt {d : Digits} : ∀ v ∈ d.values, v < 10 := by
  intro v hv
  obtain ⟨w,-,rfl⟩ := List.mem_map.1 hv
  exact w.isLt

def octets (d : Digits) : Bytes := d.values.map digitOctet

theorem encode_text (d : Digits) : Utf8.encode d.text = d.octets := by
  have each : ∀ vs : List Nat, (∀ v ∈ vs, v < 10) →
      Utf8.encode (vs.map Nat.digitChar) = vs.map digitOctet := by
    intro vs small
    induction vs with
    | nil => rfl
    | cons v vs ih =>
      obtain ⟨hv,small⟩ := List.forall_mem_cons.1 small
      rw [List.map_cons,Utf8.encode_cons,(digitOctet_spec v hv).1,ih small]
      rfl
  exact each d.values values_lt

/-- Digits begin with one, which is zero only if the first of them is. -/
theorem exists_octets_eq (d : Digits) : ∃ b more, d.octets = b :: more ∧ isDigit b = true ∧
    (b = 0x30 ↔ d.first = 0) := by
  obtain ⟨-,digit,-,zero⟩ := digitOctet_spec _ d.first.isLt
  exact ⟨_,_,rfl,digit,zero.trans Fin.val_eq_zero_iff⟩

theorem digits_octets (d : Digits) {rest : Bytes} (h : EndsDigits rest) :
    digits (d.octets ++ rest) = (d.values,rest) := digits_map values_lt h

end Digits

namespace Exponent

def signOctets : Option Bool → Bytes
  | none => []
  | some true => [0x2D]
  | some false => [0x2B]

def letter (capital : Bool) : UInt8 := if capital then 0x45 else 0x65

def octets (e : Exponent) : Bytes :=
  letter e.capital :: (signOctets e.sign ++ e.digits.octets)

theorem encode_text (e : Exponent) : Utf8.encode e.text = e.octets := by
  obtain ⟨capital,sign,digits⟩ := e
  rw [text,List.cons_append,Utf8.encode_cons,Utf8.encode_append,Digits.encode_text,octets]
  cases capital <;> rcases sign with _ | _ | _ <;> rfl

end Exponent

namespace WrittenNumber

def exponentOctets : Option Exponent → Bytes
  | none => []
  | some e => e.octets

def fractionOctets : Option Digits → Bytes
  | none => []
  | some d => 0x2E :: d.octets

def octets (n : WrittenNumber) : Bytes :=
  (if n.negative then [0x2D] else []) ++ (n.whole.octets ++
    (fractionOctets n.fraction ++ exponentOctets n.exponent))

theorem encode_text (n : WrittenNumber) : Utf8.encode n.text = n.octets := by
  have sign : Utf8.encode (if n.negative then ['-'] else []) =
      if n.negative then [0x2D] else [] := by cases n.negative <;> rfl
  have fraction : ∀ f : Option Digits, Utf8.encode (fractionText f) = fractionOctets f := by
    rintro (_ | d)
    · rfl
    · rw [fractionText,Utf8.encode_cons,Digits.encode_text]
      rfl
  have exponent : ∀ e : Option Exponent, Utf8.encode (exponentText e) = exponentOctets e := by
    rintro (_ | e)
    · rfl
    · exact e.encode_text
  simp only [text,Utf8.encode_append,sign,Digits.encode_text,fraction,exponent,octets,
    List.append_assoc]

end WrittenNumber

open WrittenNumber in
/-- Digits end where an exponent, or what follows a number, begins. -/
theorem endsDigits_exponent (e : Option Exponent) {rest : Bytes} (h : Ends rest) :
    EndsDigits (exponentOctets e ++ rest) := by
  rcases e with _ | ⟨capital,sign,d⟩
  · exact h.endsDigits
  · apply endsDigits_cons
    cases capital <;> rfl

open WrittenNumber in
theorem endsDigits_fraction (f : Option Digits) (e : Option Exponent) {rest : Bytes}
    (h : Ends rest) : EndsDigits (fractionOctets f ++ (exponentOctets e ++ rest)) := by
  cases f with
  | none => exact endsDigits_exponent e h
  | some d => exact endsDigits_cons rfl _

namespace Numeral

open WrittenNumber

theorem scanExponent_octets (n : Numeral) (e : Exponent) {rest : Bytes} (h : EndsDigits rest) :
    scanExponent n (e.octets ++ rest) =
      .ok ({n with exponent := some (e.sign == some true,e.digits.values)},rest) := by
  obtain ⟨capital,sign,d⟩ := e
  obtain ⟨b,more,hd,digit,-⟩ := d.exists_octets_eq
  obtain ⟨minus,plus⟩ := sign_ne_of_isDigit digit
  have letter : Exponent.letter capital = 0x65 ∨ Exponent.letter capital = 0x45 := by
    cases capital <;> decide
  have read := d.digits_octets h
  rw [hd,List.cons_append] at read
  rcases sign with _ | _ | _ <;>
    simp [scanExponent,Exponent.octets,Exponent.signOctets,hd,letter,minus,plus,digit,read]

theorem scanExponent_exponentOctets {n : Numeral} (hn : n.exponent = none) (e : Option Exponent)
    {rest : Bytes} (h : Ends rest) :
    scanExponent n (exponentOctets e ++ rest) =
      .ok ({n with exponent := exponentValue e},rest) := by
  cases e with
  | some e => exact scanExponent_octets n e h.endsDigits
  | none =>
    have same : {n with exponent := exponentValue none} = n := by
      obtain ⟨negative,whole,fraction,exponent⟩ := n
      cases hn
      rfl
    rw [same]
    cases rest with
    | nil => rfl
    | cons b rest =>
      obtain ⟨-,-,small,capital⟩ := h.not_in_number
      simp [exponentOctets,scanExponent,small,capital]

/-- What is no point begins no fraction. -/
theorem scanFraction_of_no_point (n : Numeral) {text : Bytes} (h : text.head? ≠ some 0x2E) :
    scanFraction n text = scanExponent n text := by
  unfold scanFraction
  split
  case h_1 => exact absurd rfl h
  case h_2 => rfl

theorem scanFraction_fractionOctets {n : Numeral} (hf : n.fraction = []) (hn : n.exponent = none)
    (f : Option Digits) (e : Option Exponent) {rest : Bytes} (h : Ends rest) :
    scanFraction n (fractionOctets f ++ (exponentOctets e ++ rest)) =
      .ok ({n with fraction := fractionValue f,exponent := exponentValue e},rest) := by
  cases f with
  | none =>
    have noPoint : (exponentOctets e ++ rest).head? ≠ some 0x2E := by
      rcases e with _ | ⟨capital,sign,d⟩
      · cases rest with
        | nil => exact nofun
        | cons b rest => exact fun he => h.not_in_number.2.1 (Option.some.inj he)
      · cases capital <;> exact nofun
    rw [fractionOctets,List.nil_append,scanFraction_of_no_point n noPoint,
      scanExponent_exponentOctets hn e h]
    obtain ⟨negative,whole,fraction,exponent⟩ := n
    cases hf
    rfl
  | some d =>
    obtain ⟨b,more,hd,digit,-⟩ := d.exists_octets_eq
    have read := d.digits_octets (endsDigits_exponent e h)
    rw [hd,List.cons_append] at read
    have scanned := scanExponent_exponentOctets (n := {n with fraction := d.values}) hn e h
    simp only [fractionOctets,hd,List.cons_append,scanFraction,digit,if_true,read,scanned]
    rfl

theorem scanWhole_octets (negative : Bool) {w : Digits} (alone : w.first = 0 → w.others = [])
    (f : Option Digits) (e : Option Exponent) {rest : Bytes} (h : Ends rest) :
    scanWhole negative (w.octets ++ (fractionOctets f ++ (exponentOctets e ++ rest))) =
      .ok (⟨negative,w.values,fractionValue f,exponentValue e⟩,rest) := by
  have follows := endsDigits_fraction f e h
  have scanned (whole : List Nat) := scanFraction_fractionOctets
    (n := ⟨negative,whole,[],none⟩) rfl rfl f e h
  generalize fractionOctets f ++ (exponentOctets e ++ rest) = after at follows scanned
  by_cases zero : w.first = 0
  case pos =>
    have hw : w.octets = [0x30] ∧ w.values = [0] := by
      obtain ⟨first,others⟩ := w
      cases zero
      cases alone rfl
      exact ⟨rfl,rfl⟩
    rw [hw.1,hw.2,← scanned [0]]
    cases after with
    | nil => rfl
    | cons b after => simp [scanWhole,follows b rfl]
  case neg =>
    obtain ⟨b,more,hd,digit,hz⟩ := w.exists_octets_eq
    have read := w.digits_octets follows
    rw [hd,List.cons_append] at read
    simp only [hd,List.cons_append,scanWhole,if_neg (mt hz.1 zero),digit,if_true,read]
    exact scanned w.values

/-- A number is scanned into its numeral. -/
theorem scan_octets (n : WrittenNumber) {rest : Bytes} (h : Ends rest) :
    scan (n.octets ++ rest) = .ok (n.numeral,rest) := by
  have scanned := scanWhole_octets n.negative n.alone n.fraction n.exponent h
  obtain ⟨b,more,hd,digit,-⟩ := n.whole.exists_octets_eq
  simp only [WrittenNumber.octets,List.append_assoc]
  cases hn : n.negative with
  | true =>
    rw [hn] at scanned
    simpa [scan,numeral,hn] using scanned
  | false =>
    rw [hn] at scanned
    rw [if_neg (by decide),List.nil_append]
    unfold scan
    split
    case h_1 rest' he =>
      rw [hd] at he
      exact absurd (List.cons.inj he).1 (sign_ne_of_isDigit digit).1
    case h_2 => simpa [numeral,hn] using scanned

/-- The number that digits denote. -/
def magnitude (digits : List Nat) : Nat := digits.foldl (fun value d => value*10+d) 0

/-- The number that the digits before the point denote, with its sign. -/
def integer (n : Numeral) : Int := if n.negative then -magnitude n.whole else magnitude n.whole

/-- A numeral that is written as an integer. Zero has no sign. -/
structure IsInteger (n : Numeral) : Prop where
  no_fraction : n.fraction = []
  no_exponent : n.exponent = none
  unsigned_zero : ¬ (n.negative = true ∧ magnitude n.whole = 0)

theorem le_foldl_digits (ds : List Nat) (value : Nat) :
    value ≤ ds.foldl (fun value d => value*10+d) value := by
  induction ds generalizing value with
  | nil => exact Nat.le_refl _
  | cons d ds ih =>
    have := ih (value*10+d)
    rw [List.foldl_cons]
    omega

/-- Digits are gathered until they exceed the limit, and what exceeds it once never comes back. -/
theorem gather_eq (limit : Nat) (ds : List Nat) (value : Nat) (h : value ≤ limit) :
    if ds.foldl (fun value d => value*10+d) value ≤ limit then
      gather limit value ds = (ds.foldl (fun value d => value*10+d) value,[])
    else (gather limit value ds).2 ≠ [] := by
  induction ds generalizing value with
  | nil => simp [gather,h]
  | cons d ds ih =>
    rw [List.foldl_cons,gather]
    by_cases fits : value*10+d ≤ limit
    case pos => rw [if_pos fits]; exact ih _ fits
    case neg =>
      have := le_foldl_digits ds (value*10+d)
      rw [if_neg fits,if_neg (by omega)]
      exact List.cons_ne_nil d ds

/-- A numeral counts as whole when it is written as an integer that 64 bits hold, with a sign or
without. -/
theorem whole?_eq_some_iff {n : Numeral} {v : Int} : n.whole? = some v ↔
    n.IsInteger ∧ v = n.integer ∧ -0x8000000000000000 ≤ v ∧ v ≤ 0xFFFFFFFFFFFFFFFF := by
  obtain ⟨negative,whole,fraction,exponent⟩ := n
  by_cases plain : fraction = [] ∧ exponent = none
  case neg =>
    have isNone : whole? ⟨negative,whole,fraction,exponent⟩ = none := by
      rw [whole?,if_neg (by simpa using plain)]
    rw [isNone]
    exact ⟨nofun,fun h => absurd ⟨h.1.no_fraction,h.1.no_exponent⟩ plain⟩
  case pos =>
    obtain ⟨rfl,rfl⟩ := plain
    have gathered := gather_eq 0xFFFFFFFFFFFFFFFF whole 0 (Nat.zero_le _)
    rw [← magnitude] at gathered
    have isInteger : IsInteger ⟨negative,whole,[],none⟩ ↔ ¬ (negative = true ∧ magnitude whole = 0) :=
      ⟨fun h => h.unsigned_zero,fun h => ⟨rfl,rfl,h⟩⟩
    rw [isInteger,integer]
    split at gathered
    case isTrue small =>
      simp only [whole?,List.isEmpty_nil,Option.isNone_none,Bool.and_self,if_true,gathered]
      cases negative with
      | false => simp; omega
      | true => simp; omega
    case isFalse large =>
      have isNone : whole? ⟨negative,whole,[],none⟩ = none := by
        simp only [whole?,List.isEmpty_nil,Option.isNone_none,Bool.and_self,if_true]
        split
        case h_1 he => exact absurd (congrArg Prod.snd he) gathered
        case h_2 => rfl
      rw [isNone]
      cases negative with
      | false => simp; omega
      | true => simp; omega

end Numeral
end WorksheetUpload.Json
