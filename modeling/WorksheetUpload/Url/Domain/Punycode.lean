/-! Punycode: a label with characters beyond ASCII in letters, digits and hyphens. Its ASCII
characters come first; then, in the order of code points, how far one goes through the growing label
to reach the place of each other character, as a number whose digits tell where it ends. -/
namespace WorksheetUpload.Url.Punycode

/-- Digits are written `a` to `z` and `0` to `9`. -/
def digit (n : Nat) : Char := Char.ofNat (if n < 26 then 0x61+n else 0x16+n)

def digit? (c : Char) : Option Nat :=
  if c.isDigit then some (c.toNat-0x16)
  else if c.isAlpha then some (c.toLower.toNat-0x61)
  else none

/-- A digit below the threshold is the last one of its number. -/
def threshold (weight bias : Nat) : Nat := min 26 (max 1 (weight-bias))

theorem threshold_pos (weight bias : Nat) : 0 < threshold weight bias := by
  unfold threshold
  omega

/-- Counts how often a distance goes down to a thirty-fifth, in steps of thirty-six. -/
def settle (weight distance : Nat) : Nat :=
  if 455 < distance then settle (weight+36) (distance/35)
  else weight + 36*distance/(distance+38)
termination_by distance
decreasing_by omega

/-- The bias for the next number, by the distance just gone and the characters now in place. -/
def adapt (isFirst : Bool) (distance count : Nat) : Nat :=
  let d := distance / (if isFirst then 700 else 2)
  settle 0 (d+d/count)

/-- The digits of a number, the least first. -/
def digits (weight bias n : Nat) : List Char :=
  let t := threshold weight bias
  if n < t then [digit n]
  else digit (t+(n-t)%(36-t)) :: digits (weight+36) bias ((n-t)/(36-t))
termination_by n
decreasing_by
  have h := threshold_pos weight bias
  have := Nat.div_le_self (n-threshold weight bias) (36-threshold weight bias)
  omega

/-- Reads a number, and what follows it. -/
def number? (weight bias unit : Nat) : List Char → Option (Nat × List Char)
  | [] => none
  | c :: rest => do
    let d ← digit? c
    let t := threshold weight bias
    if d < t then some (d*unit,rest)
    else
      let (n,rest) ← number? (weight+36) bias (unit*(36-t)) rest
      some (d*unit+n,rest)

theorem number?_length {weight bias unit n : Nat} {text rest : List Char}
    (h : number? weight bias unit text = some (n,rest)) : rest.length < text.length := by
  induction text generalizing weight unit n rest with
  | nil => simp [number?] at h
  | cons c text ih =>
    simp only [number?,Option.bind_eq_bind,Option.bind_eq_some_iff] at h
    obtain ⟨d,_,h⟩ := h
    split at h
    · simp_all
    · simp only [Option.bind_eq_some_iff] at h
      obtain ⟨⟨m,more⟩,hm,h⟩ := h
      simp only [Option.some.injEq,Prod.mk.injEq] at h
      rw [← h.2]
      exact Nat.lt_succ_of_lt (ih hm)

/-- How far the writing of a label has come: the number so far, the bias, how many characters are
in place, and the digits written. -/
structure Progress where
  distance : Nat
  bias : Nat
  count : Nat
  written : List Char

def isAscii (c : Char) : Bool := c.toNat < 0x80

/-- Passes one character of the label on the round for code point `n`. -/
def Progress.pass (isFirst : Progress → Bool) (n : Nat) (p : Progress) (c : Char) : Progress :=
  if c.toNat < n then {p with distance := p.distance+1}
  else if c.toNat = n then
    ⟨0,adapt (isFirst p) p.distance (p.count+1),p.count+1,p.written ++ digits 36 p.bias p.distance⟩
  else p

/-- Rounds through the label for each code point beyond ASCII, from the least; `reached` is where
the last round ended. -/
def rounds (label : List Char) (basic : Nat) : Nat → Progress → List Nat → List Char
  | _, p, [] => p.written
  | reached, p, n :: more =>
    let p := {p with distance := p.distance+(n-reached)*(p.count+1)}
    let p := label.foldl (Progress.pass (fun p => p.count == basic) n) p
    rounds label basic (n+1) {p with distance := p.distance+1} more

/-- The written form of a label; a hyphen follows its ASCII characters, if there are any. -/
def encode (label : List Char) : List Char :=
  let basic := label.filter isAscii
  let others := ((label.filter (!isAscii ·)).map Char.toNat).mergeSort.eraseReps
  basic ++ (if basic.isEmpty then [] else ['-']) ++
    rounds label basic.length 0x80 ⟨0,72,basic.length,[]⟩ others

/-- Whether a number is the code point of a character. -/
def isCodePoint (n : Nat) : Bool := n < 0xD800 || (0xDFFF < n && n < 0x110000)

/-- Puts the characters of the numbers in their places. `place` is where the last one stands next
to, `n` its code point. -/
def insertAll (bias n place : Nat) (label : List Char) (text : List Char) : Option (List Char) :=
  if text.isEmpty then some label
  else match _h : number? 36 bias 1 text with
  | none => none
  | some (distance,rest) =>
    let count := label.length+1
    let reached := place+distance
    let n := n+reached/count
    if isCodePoint n then
      insertAll (adapt (place == 0) distance count) n (reached%count+1)
        (label.insertIdx (reached%count) (Char.ofNat n)) rest
    else none
termination_by text.length
decreasing_by exact number?_length ‹_›

/-- The label of a written form. The last hyphen ends the ASCII characters, unless nothing stands
before it. -/
def decode? (text : List Char) : Option (List Char) :=
  let tail := (text.reverse.takeWhile (· != '-')).reverse
  match text.length-tail.length with
  | 0 | 1 => insertAll 72 0x80 0 [] text
  | n+2 => insertAll 72 0x80 0 (text.take (n+1)) tail

end WorksheetUpload.Url.Punycode
