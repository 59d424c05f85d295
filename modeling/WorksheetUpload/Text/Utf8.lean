/-! UTF-8 as octets. Decoding reports an ill-formed stretch once, at its longest well-formed
beginning, so that a strict reader and a lossy one are two views of the same scan. -/
namespace WorksheetUpload

/-- Octets, as files, requests and responses carry them. -/
abbrev Bytes := List UInt8

namespace Utf8

def encode (text : List Char) : Bytes := text.flatMap String.utf8EncodeChar

@[simp] theorem encode_nil : encode [] = [] := rfl

@[simp] theorem encode_cons (c : Char) (text : List Char) :
    encode (c :: text) = String.utf8EncodeChar c ++ encode text := rfl

@[simp] theorem encode_append (s t : List Char) : encode (s++t) = encode s ++ encode t := by
  simp [encode]

def ofString (s : String) : Bytes := encode s.toList

/-- What a first octet announces: how many octets follow, the bounds of the next one, and the
bits it contributes itself. -/
structure Lead where
  following : Nat
  low : UInt8
  high : UInt8
  bits : Nat

/-- The bounds after E0, ED, F0 and F4 shut out overlong forms, surrogates and numbers past
U+10FFFF. -/
def lead? (b : UInt8) : Option Lead :=
  if b < 0x80 then some ⟨0,0x80,0xBF,b.toNat⟩
  else if b < 0xC2 then none
  else if b < 0xE0 then some ⟨1,0x80,0xBF,b.toNat-0xC0⟩
  else if b = 0xE0 then some ⟨2,0xA0,0xBF,0⟩
  else if b = 0xED then some ⟨2,0x80,0x9F,0x0D⟩
  else if b < 0xF0 then some ⟨2,0x80,0xBF,b.toNat-0xE0⟩
  else if b = 0xF0 then some ⟨3,0x90,0xBF,0⟩
  else if b < 0xF4 then some ⟨3,0x80,0xBF,b.toNat-0xF0⟩
  else if b = 0xF4 then some ⟨3,0x80,0x8F,4⟩
  else none

/-- Collects the octets that a first one announced; an octet out of bounds is left for later. -/
def follow : Nat → UInt8 → UInt8 → Nat → Bytes → Option Char × Bytes
  | 0, _, _, value, rest => (some (Char.ofNat value),rest)
  | _+1, _, _, _, [] => (none,[])
  | n+1, low, high, value, b :: rest =>
    if low ≤ b ∧ b ≤ high then follow n 0x80 0xBF (value*64 + (b.toNat-0x80)) rest
    else (none,b :: rest)

theorem follow_length (n : Nat) (low high : UInt8) (value : Nat) (rest : Bytes) :
    (follow n low high value rest).2.length ≤ rest.length := by
  induction n generalizing low high value rest with
  | zero => simp [follow]
  | succ n ih =>
    cases rest with
    | nil => simp [follow]
    | cons b rest =>
      rw [follow]
      split
      · exact Nat.le_succ_of_le (ih ..)
      · simp

/-- One character, or one ill-formed stretch, from a nonempty text. -/
def next (b : UInt8) (rest : Bytes) : Option Char × Bytes :=
  match lead? b with
  | some l => follow l.following l.low l.high l.bits rest
  | none => (none,rest)

theorem next_length (b : UInt8) (rest : Bytes) : (next b rest).2.length ≤ rest.length := by
  rw [next]
  split
  · exact follow_length ..
  · simp

/-- The characters of a text, with one `none` for each ill-formed stretch. -/
def scan : Bytes → List (Option Char)
  | [] => []
  | b :: rest => (next b rest).1 :: scan (next b rest).2
termination_by bytes => bytes.length
decreasing_by exact Nat.lt_succ_of_le (next_length b rest)

/-- Each ill-formed stretch becomes one replacement character. -/
def lossy (bytes : Bytes) : List Char := (scan bytes).map (·.getD '\uFFFD')

/-- The characters of a well-formed text. -/
def decode? (bytes : Bytes) : Option (List Char) := (scan bytes).mapM id

end Utf8
end WorksheetUpload
