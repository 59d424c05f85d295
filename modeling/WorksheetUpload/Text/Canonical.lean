import WorksheetUpload.Text.Canonical.Order
import WorksheetUpload.Text.Canonical.Pairs
import WorksheetUpload.Text.Canonical.Twins

/-! The composed form of a text: twins are replaced, marks stand in canonical order, and pairs that
one character can stand for are written with it. -/
namespace WorksheetUpload.Text.Canonical

/-- Syllables of the Korean script stand for a lead and a vowel, or for a shorter syllable and a
tail, by the place they have in the table of all syllables. -/
def syllablePair? (n : Nat) : Option (Nat × Nat) :=
  let i := n-0xAC00
  if n < 0xAC00 ∨ 11172 ≤ i then none
  else if i%28 = 0 then some (0x1100+i/588,0x1161+i%588/28)
  else some (n-i%28,0x11A7+i%28)

/-- The syllable that stands for a pair. -/
def syllable? (a b : Nat) : Option Nat :=
  if 0x1100 ≤ a ∧ a < 0x1113 ∧ 0x1161 ≤ b ∧ b < 0x1176 then
    some (0xAC00+((a-0x1100)*21+(b-0x1161))*28)
  else if 0xAC00 ≤ a ∧ a < 0xAC00+11172 ∧ (a-0xAC00)%28 = 0 ∧ 0x11A7 < b ∧ b < 0x11C3 then
    some (a+(b-0x11A7))
  else none

/-- What a character stands for. -/
def parts (c : Char) : List Char :=
  let n := c.toNat
  if n < 0xC0 then [c]
  else match syllablePair? n with
  | some (a,b) => [Char.ofNat a,Char.ofNat b]
  | none =>
    match lowerTwins.find? (·.1 == n) <|> upperTwins.find? (·.1 == n) with
    | some (_,d) => [Char.ofNat d]
    | none =>
      match lowerPairs.find? (·.1 == n) <|> upperPairs.find? (·.1 == n) <|>
          loosePairs.find? (·.1 == n) with
      | some (_,a,b) => [Char.ofNat a,Char.ofNat b]
      | none => [c]

/-- No character needs more than three rounds. -/
def decompose (text : List Char) : List Char :=
  ((text.flatMap parts).flatMap parts).flatMap parts

/-- The character that stands for a pair. -/
def join? (c d : Char) : Option Char :=
  if d.toNat < 0x300 then none
  else match syllable? c.toNat d.toNat with
  | some n => some (Char.ofNat n)
  | none =>
    let isPair (p : Nat × Nat × Nat) : Bool := p.2 == (c.toNat,d.toNat)
    (lowerPairs.find? isPair <|> upperPairs.find? isPair).map fun p => Char.ofNat p.1

/-- Nothing that stayed behind a character keeps a later mark from it. -/
def isFree (held : List Char) (c : Char) : Bool :=
  match held with
  | [] => true
  | d :: _ => order d < order c

/-- Joins a character with what follows it; `held` are the marks that stayed, the last one first. -/
def absorb (base : Char) (held : List Char) : List Char → List Char
  | [] => base :: held.reverse
  | c :: rest =>
    match if isFree held c then join? base c else none with
    | some joined => absorb joined held rest
    | none =>
      if order c = 0 then base :: held.reverse ++ absorb c [] rest
      else absorb base (c :: held) rest

/-- Marks before the first other character stay as they are. -/
def compose : List Char → List Char
  | [] => []
  | c :: rest => if order c = 0 then absorb c [] rest else c :: compose rest

end Canonical

def composed (text : List Char) : List Char :=
  Canonical.compose (Canonical.arrange (Canonical.decompose text))

end WorksheetUpload.Text
