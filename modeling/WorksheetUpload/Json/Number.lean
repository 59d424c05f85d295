import WorksheetUpload.Decimal.Shortest
import WorksheetUpload.Json.Fault

/-! Numbers of JSON. A numeral is scanned first and valued second, so that a reader that skips a
number need not care for its size. -/
namespace WorksheetUpload.Json

def isDigit (b : UInt8) : Bool := 0x30 ≤ b && b ≤ 0x39

/-- The digits at the head of a text, as numbers below ten, and what follows them. -/
def digits : Bytes → List Nat × Bytes
  | [] => ([],[])
  | b :: rest =>
    if isDigit b then ((b.toNat-0x30) :: (digits rest).1,(digits rest).2) else ([],b :: rest)

theorem digits_length (text : Bytes) : (digits text).2.length ≤ text.length := by
  induction text with
  | nil => simp [digits]
  | cons b rest ih =>
    rw [digits]
    split
    · exact Nat.le_succ_of_le ih
    · simp

/-- The written parts of a number. -/
structure Numeral where
  negative : Bool
  whole : List Nat
  fraction : List Nat
  exponent : Option (Bool × List Nat)
  deriving DecidableEq, Repr

namespace Numeral

/-- A numeral that breaks off: how many octets are left, and whether the text ended there. -/
structure Broken where
  left : Nat
  ended : Bool

/-- The exponent, with its sign, if there is one. -/
def scanExponent (n : Numeral) (text : Bytes) : Except Broken (Numeral × Bytes) :=
  match text with
  | b :: rest =>
    if b = 0x65 ∨ b = 0x45 then
      let (minus,rest) := match rest with
        | s :: more =>
          if s = 0x2D then (true,more) else if s = 0x2B then (false,more) else (false,rest)
        | [] => (false,[])
      match rest with
      | [] => .error ⟨0,true⟩
      | d :: more =>
        if isDigit d then .ok ({n with exponent := some (minus,(digits rest).1)},(digits rest).2)
        else .error ⟨more.length,false⟩
    else .ok (n,text)
  | [] => .ok (n,[])

/-- The fraction, if there is one, and what may follow it. -/
def scanFraction (n : Numeral) (text : Bytes) : Except Broken (Numeral × Bytes) :=
  match text with
  | 0x2E :: rest =>
    match rest with
    | [] => .error ⟨0,true⟩
    | d :: more =>
      if isDigit d then
        scanExponent {n with fraction := (digits rest).1} (digits rest).2
      else .error ⟨more.length,false⟩
  | _ => scanExponent n text

/-- What follows the sign. A leading zero stands alone. -/
def scanWhole (negative : Bool) (text : Bytes) : Except Broken (Numeral × Bytes) :=
  match text with
  | [] => .error ⟨0,true⟩
  | b :: rest =>
    if b = 0x30 then
      match rest with
      | d :: more =>
        if isDigit d then .error ⟨more.length,false⟩ else scanFraction ⟨negative,[0],[],none⟩ rest
      | [] => scanFraction ⟨negative,[0],[],none⟩ rest
    else if isDigit b then scanFraction ⟨negative,(digits text).1,[],none⟩ (digits text).2
    else .error ⟨rest.length,false⟩

def scan (text : Bytes) : Except Broken (Numeral × Bytes) :=
  match text with
  | 0x2D :: rest => scanWhole true rest
  | _ => scanWhole false text

theorem scanExponent_length {n m : Numeral} {text rest : Bytes}
    (h : scanExponent n text = .ok (m,rest)) : rest.length ≤ text.length := by
  unfold scanExponent at h
  split at h
  · split at h
    · dsimp only at h
      split at h
      · cases h
      · rename_i sign more he
        split at h
        · injection h with h; injection h with _ h; subst h
          refine Nat.le_trans (digits_length _) ?_
          split
          · split
            · simp; omega
            · split <;> simp
              omega
          · simp
        · cases h
    · injection h with h; injection h with _ h; subst h; exact Nat.le_refl _
  · injection h with h; injection h with _ h; subst h; simp

theorem scanFraction_length {n m : Numeral} {text rest : Bytes}
    (h : scanFraction n text = .ok (m,rest)) : rest.length ≤ text.length := by
  unfold scanFraction at h
  split at h
  · split at h
    · cases h
    · split at h
      · refine Nat.le_trans (scanExponent_length h) ?_
        exact Nat.le_succ_of_le (digits_length _)
      · cases h
  · exact scanExponent_length h

theorem scanWhole_length {negative : Bool} {m : Numeral} {text rest : Bytes}
    (h : scanWhole negative text = .ok (m,rest)) : rest.length ≤ text.length := by
  unfold scanWhole at h
  split at h
  · cases h
  · split at h
    · split at h
      · split at h
        · cases h
        · exact Nat.le_succ_of_le (scanFraction_length h)
      · exact Nat.le_succ_of_le (scanFraction_length h)
    · split at h
      · exact Nat.le_trans (scanFraction_length h) (digits_length _)
      · cases h

end Numeral

/-- The value of a numeral: a whole number of at most 64 bits, or a real one. -/
inductive Number
  | whole (value : Int)
  | real (value : Float)

def Number.found : Number → Found
  | whole n => .whole n
  | real x => .real (Decimal.ofBits x.toBits.toNat)

/-- Appends digits to a number as long as it stays within a limit, and tells which did not fit. -/
def gather (limit : Nat) : Nat → List Nat → Nat × List Nat
  | value, [] => (value,[])
  | value, d :: ds => if value*10+d ≤ limit then gather limit (value*10+d) ds else (value,d :: ds)

/-- x · 10^e in steps that stay within the range of the format; `none` is beyond that range. -/
def scaled (x : Float) (e : Int) : Option Float :=
  let power (n : Nat) : Float := Float.ofScientific 1 false n
  if x == 0 then some x
  else if 308 < e then none
  else if 0 ≤ e then
    let y := x * power e.toNat
    if y.isInf then none else some y
  else if -308 ≤ e then some (x / power (-e).toNat)
  else if -616 ≤ e then some (x / power 308 / power (-e-308).toNat)
  else some 0

namespace Numeral

/-- The significand and the power of ten that go with it. Digits that do not fit into 64 bits are
dropped: before the point they raise the power, after it they count for nothing. -/
def significand (n : Numeral) : Nat × Int :=
  let (value,dropped) := gather 0xFFFFFFFFFFFFFFFF 0 n.whole
  let (value',late) := gather 0xFFFFFFFFFFFFFFFF value n.fraction
  (value',(dropped.length : Int) - (n.fraction.length - late.length : Nat))

/-- A whole number that fits into 64 bits, when the numeral is written as one. Negative zero is
no whole number. -/
def whole? (n : Numeral) : Option Int :=
  if n.fraction.isEmpty && n.exponent.isNone then
    match gather 0xFFFFFFFFFFFFFFFF 0 n.whole with
    | (value,[]) =>
      if !n.negative then some value
      else if value ≠ 0 ∧ value ≤ 0x8000000000000000 then some (-value) else none
    | _ => none
  else none

/-- The value of a numeral, or the number of its octets behind the point where it proved too
large. -/
def value (n : Numeral) : Except Nat Number :=
  match n.whole? with
  | some v => .ok (.whole v)
  | none =>
    let (m,e) := n.significand
    let signed (x : Float) : Number := .real (if n.negative then -x else x)
    let x := (UInt64.ofNat m).toFloat
    match n.exponent with
    | none => (scaled x e).elim (.error 0) (.ok ∘ signed)
    | some (minus,ds) =>
      match gather 0x7FFFFFFF 0 ds with
      | (p,[]) => (scaled x (if minus then e-p else e+p)).elim (.error 0) (.ok ∘ signed)
      | (_,_ :: late) => if m ≠ 0 ∧ !minus then .error late.length else .ok (signed 0)

end Numeral

/-- Reads the number at the head of a text; the second part is what is left behind it. -/
def readNumber (text : Bytes) : Except Fault (Number × Nat) :=
  match Numeral.scan text with
  | .error b => .error ⟨if b.ended then .endInValue else .badNumber,b.left⟩
  | .ok (n,rest) =>
    match n.value with
    | .ok v => .ok (v,rest.length)
    | .error late => .error ⟨.numberTooLarge,rest.length+late⟩

/-- Passes over a number without valuing it. -/
def skipNumber (text : Bytes) : Except Fault Bytes :=
  match Numeral.scan text with
  | .error b => .error ⟨.badNumber,b.left⟩
  | .ok (_,rest) => .ok rest

end WorksheetUpload.Json
