/-! Shortest decimals: the fewest digits that read back as the same binary number of 64 bits,
and of those the nearest to it. -/
namespace WorksheetUpload.Decimal

/-- A positive binary number m·2^e, with its distance to the next smaller one halved when the
numbers below it lie twice as dense. -/
structure Binary where
  significand : Nat
  exponent : Int
  dense_below : Bool

/-- The positive number with the given bits, when it is finite. -/
def Binary.ofBits (bits : Nat) : Binary :=
  let field := (bits >>> 52) % 0x800
  let low := bits % 0x10000000000000
  if field = 0 then ⟨low,-1074,false⟩
  else ⟨low + 0x10000000000000,(field : Int) - 1075,low == 0 && field != 1⟩

/-- Digits d₁d₂… standing for 0.d₁d₂… · 10^point. -/
structure Digits where
  digits : List Char
  point : Int
  deriving DecidableEq, Repr

/-- A fraction a/b with a·2^e and a·10^e moved into the side where the power is whole. -/
def shift (base : Nat) (e : Int) (fraction : Nat × Nat) : Nat × Nat :=
  if 0 ≤ e then (fraction.1 * base.pow e.toNat,fraction.2)
  else (fraction.1,fraction.2 * base.pow (-e).toNat)

/-- The number of digits before the decimal point, negative when zeros follow it. -/
def pointOf (a b : Nat) : Int :=
  let guess : Int := ((Nat.toDigits 10 a).length : Int) - (Nat.toDigits 10 b).length
  let (x,y) := shift 10 (-guess) (a,b)
  if x < y then guess else guess + 1

/-- The multiple of 10^unit inside the rounding interval that is nearest to the number; halfway
between two, the even one. -/
def onGrid (x : Binary) (unit : Int) : Option Nat :=
  let (a,b) := shift 10 (-unit) (shift 2 (x.exponent-2) (1,1))
  let middle := 4*x.significand
  let low := if x.dense_below then middle-1 else middle-2
  let high := middle+2
  let even := x.significand % 2 == 0
  let inside (n : Nat) : Bool :=
    if even then low*a ≤ n*b && n*b ≤ high*a else low*a < n*b && n*b < high*a
  let below := middle*a/b
  match inside below, inside (below+1) with
  | true, false => some below
  | false, true => some (below+1)
  | true, true =>
    let half := (2*below+1)*b
    if 2*middle*a = half then some (below + below%2)
    else some (if 2*middle*a < half then below else below+1)
  | false, false => none

/-- Tries grids of one digit, two digits and so on. Seventeen digits always suffice. -/
def search (x : Binary) (point : Int) (digits : Nat) : Nat → Digits
  | 0 => ⟨[],point⟩
  | fuel+1 =>
    match onGrid x (point-digits) with
    | some n =>
      let written := Nat.toDigits 10 n
      ⟨(written.reverse.dropWhile (· == '0')).reverse,point - digits + written.length⟩
    | none => search x point (digits+1) fuel

/-- The shortest digits of a positive finite number. -/
def shortest (x : Binary) : Digits :=
  let (a,b) := shift 2 x.exponent (x.significand,1)
  search x (pointOf a b) 1 17

/-- Writes digits positionally when the exponent of the first lies from -5 to 15, and with a signed
exponent otherwise. A whole number keeps `.0`. -/
def Digits.render (d : Digits) : List Char :=
  let count := d.digits.length
  let e := d.point - 1
  if -5 ≤ e ∧ e ≤ 15 then
    if d.point ≤ 0 then '0' :: '.' :: List.replicate (-d.point).toNat '0' ++ d.digits
    else if count ≤ d.point.toNat then
      d.digits ++ List.replicate (d.point.toNat-count) '0' ++ ['.','0']
    else d.digits.take d.point.toNat ++ '.' :: d.digits.drop d.point.toNat
  else
    let mantissa := match d.digits with
      | [] => []
      | [c] => [c]
      | c :: cs => c :: '.' :: cs
    mantissa ++ 'e' :: (if e < 0 then '-' else '+') :: Nat.toDigits 10 e.natAbs

/-- The text of a number given by its bits; a sign is kept also on zero. -/
def ofBits (bits : Nat) : String :=
  let magnitude := bits % 0x8000000000000000
  let digits := if magnitude = 0 then "0.0".toList else (shortest (.ofBits magnitude)).render
  String.ofList (if bits < 0x8000000000000000 then digits else '-' :: digits)

end WorksheetUpload.Decimal
