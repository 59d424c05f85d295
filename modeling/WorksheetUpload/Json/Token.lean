import WorksheetUpload.Json.Number
import WorksheetUpload.Json.Text

/-! Tokens of JSON. A token knows how much of the text lies behind its first octet and behind its
last; one that breaks off keeps its fault instead and ends the sequence. -/
namespace WorksheetUpload.Json

inductive Lexeme
  | openObject | closeObject | openList | closeList | comma | colon
  | null
  | truth (value : Bool)
  /-- A number, with the text from its first octet on. -/
  | number (text : Bytes)
  /-- A string, with the text behind its opening quote. -/
  | text (body : Bytes)
  /-- An octet that begins no token. -/
  | strange
  deriving DecidableEq, Repr

/-- A token with the number of octets left before it, and of those left behind it. -/
structure Token where
  lexeme : Lexeme
  start : Nat
  stop : Except Fault Nat

def isSpace (b : UInt8) : Bool := b == 0x20 || b == 0x0A || b == 0x09 || b == 0x0D

/-- The rest of a literal word. -/
def literal : Bytes → Bytes → Except Fault Bytes
  | [], rest => .ok rest
  | _ :: _, [] => .error ⟨.endInValue,0⟩
  | w :: ws, b :: rest => if b = w then literal ws rest else .error ⟨.badLiteral,rest.length⟩

theorem literal_length {word text rest : Bytes} (h : literal word text = .ok rest) :
    rest.length ≤ text.length := by
  induction word generalizing text with
  | nil => simp only [literal, Except.ok.injEq] at h; subst h; exact Nat.le_refl _
  | cons w ws ih =>
    cases text with
    | nil => cases h
    | cons b more =>
      rw [literal] at h
      split at h
      · exact Nat.le_succ_of_le (ih h)
      · cases h

/-- The punctuation marks. -/
def mark? (b : UInt8) : Option Lexeme :=
  if b = 0x7B then some .openObject
  else if b = 0x7D then some .closeObject
  else if b = 0x5B then some .openList
  else if b = 0x5D then some .closeList
  else if b = 0x2C then some .comma
  else if b = 0x3A then some .colon
  else none

/-- The literal words by their first octet, with the octets that must follow. -/
def word? (b : UInt8) : Option (Lexeme × Bytes) :=
  if b = 0x6E then some (.null,[0x75,0x6C,0x6C])
  else if b = 0x74 then some (.truth true,[0x72,0x75,0x65])
  else if b = 0x66 then some (.truth false,[0x61,0x6C,0x73,0x65])
  else none

/-- The lexeme that begins with an octet, and what lies behind it when it is skipped. -/
def lexeme (b : UInt8) (rest : Bytes) : Lexeme × Except Fault Bytes :=
  match mark? b with
  | some l => (l,.ok rest)
  | none =>
    if b = 0x22 then (.text rest,skipText rest)
    else if b = 0x2D ∨ isDigit b then (.number (b :: rest),skipNumber (b :: rest))
    else match word? b with
      | some (l,word) => (l,literal word rest)
      | none => (.strange,.error ⟨.badValue,rest.length⟩)

theorem skipNumber_cons_length {b : UInt8} {more rest : Bytes} (hb : b = 0x2D ∨ isDigit b)
    (h : skipNumber (b :: more) = .ok rest) : rest.length ≤ more.length := by
  unfold skipNumber at h
  split at h
  · cases h
  · rename_i n after hs
    injection h with h
    subst h
    by_cases hm : b = 0x2D
    · subst hm
      exact Numeral.scanWhole_length hs
    · have hd : isDigit b := by simpa [hm] using hb
      have hs' : Numeral.scanWhole false (b :: more) = .ok (n,after) := by
        unfold Numeral.scan at hs
        split at hs
        · rename_i he
          simp only [List.cons.injEq] at he
          exact absurd he.1 hm
        · exact hs
      unfold Numeral.scanWhole at hs'
      simp only at hs'
      split at hs'
      · split at hs'
        · split at hs'
          · cases hs'
          · exact Numeral.scanFraction_length hs'
        · exact Numeral.scanFraction_length hs'
      · refine Nat.le_trans (Numeral.scanFraction_length hs') ?_
        rw [digits, if_pos hd]
        exact digits_length more

theorem lexeme_length {b : UInt8} {more rest : Bytes} (h : (lexeme b more).2 = .ok rest) :
    rest.length ≤ more.length := by
  unfold lexeme at h
  split at h
  · injection h with h; subst h; exact Nat.le_refl _
  · split at h
    · exact Nat.le_of_lt (skipText_length h)
    · split at h
      · rename_i hb
        exact skipNumber_cons_length hb h
      · split at h
        · exact literal_length h
        · cases h

/-- The tokens of a text, up to the first that breaks off. -/
def tokens : Bytes → List Token
  | [] => []
  | b :: rest =>
    if isSpace b then tokens rest
    else match _h : (lexeme b rest).2 with
      | .ok after => ⟨(lexeme b rest).1,rest.length+1,.ok after.length⟩ :: tokens after
      | .error f => [⟨(lexeme b rest).1,rest.length+1,.error f⟩]
termination_by text => text.length
decreasing_by
  · exact Nat.lt_succ_self _
  · exact Nat.lt_succ_of_le (lexeme_length _h)

/-- A fault that shows at the first octet of a token. -/
def Token.fault (t : Token) (c : Cause) : Fault := ⟨c,t.start-1⟩

end WorksheetUpload.Json
