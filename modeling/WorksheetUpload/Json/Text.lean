import WorksheetUpload.Json.Fault

/-! Strings of JSON, from behind the opening quote. A string that is read must denote characters;
one that is skipped must only be well formed. -/
namespace WorksheetUpload.Json

def hexValue (b : UInt8) : Option Nat :=
  if 0x30 ≤ b ∧ b ≤ 0x39 then some (b.toNat-0x30)
  else if 0x61 ≤ b ∧ b ≤ 0x66 then some (b.toNat-0x57)
  else if 0x41 ≤ b ∧ b ≤ 0x46 then some (b.toNat-0x37)
  else none

/-- The four digits of a numeric escape. -/
def hexFour : Bytes → Except Fault (Nat × Bytes)
  | a :: b :: c :: d :: rest =>
    match hexValue a, hexValue b, hexValue c, hexValue d with
    | some a, some b, some c, some d => .ok (((a*16+b)*16+c)*16+d,rest)
    | _, _, _, _ => .error ⟨.badEscape,rest.length⟩
  | _ => .error ⟨.endInText,0⟩

theorem hexFour_length {text rest : Bytes} {n : Nat} (h : hexFour text = .ok (n,rest)) :
    rest.length + 4 = text.length := by
  unfold hexFour at h
  split at h
  · split at h
    · injection h with h
      injection h with _ h
      subst h
      rfl
    · cases h
  · cases h

/-- The character that a short escape stands for. -/
def shortEscape (b : UInt8) : Option UInt8 :=
  if b = 0x22 ∨ b = 0x5C ∨ b = 0x2F then some b
  else if b = 0x62 then some 0x08
  else if b = 0x66 then some 0x0C
  else if b = 0x6E then some 0x0A
  else if b = 0x72 then some 0x0D
  else if b = 0x74 then some 0x09
  else none

def isHighSurrogate (n : Nat) : Bool := 0xD800 ≤ n && n ≤ 0xDBFF
def isLowSurrogate (n : Nat) : Bool := 0xDC00 ≤ n && n ≤ 0xDFFF

/-- The second half of a surrogate pair, given the first. -/
def lowSurrogate (high : Nat) : Bytes → Except Fault (Char × Bytes)
  | [] => .error ⟨.endInText,0⟩
  | b :: rest =>
    if b ≠ 0x5C then .error ⟨.cutSurrogate,rest.length⟩
    else match rest with
      | [] => .error ⟨.endInText,0⟩
      | u :: rest =>
        if u ≠ 0x75 then .error ⟨.cutSurrogate,rest.length⟩
        else do
          let (low,rest) ← hexFour rest
          if isLowSurrogate low then
            .ok (Char.ofNat (0x10000 + (high-0xD800)*0x400 + (low-0xDC00)),rest)
          else .error ⟨.loneSurrogate,rest.length⟩

/-- The character that an escape denotes, from behind the backslash. -/
def readEscape : Bytes → Except Fault (Char × Bytes)
  | [] => .error ⟨.endInText,0⟩
  | b :: rest =>
    if b = 0x75 then do
      let (n,rest) ← hexFour rest
      if isLowSurrogate n then .error ⟨.loneSurrogate,rest.length⟩
      else if isHighSurrogate n then lowSurrogate n rest
      else .ok (Char.ofNat n,rest)
    else match shortEscape b with
      | some c => .ok (Char.ofNat c.toNat,rest)
      | none => .error ⟨.badEscape,rest.length⟩

/-- Passes over an escape. -/
def skipEscape : Bytes → Except Fault Bytes
  | [] => .error ⟨.endInText,0⟩
  | b :: rest =>
    if b = 0x75 then (hexFour rest).map (·.2)
    else if (shortEscape b).isSome then .ok rest
    else .error ⟨.badEscape,rest.length⟩

theorem lowSurrogate_length {high : Nat} {text rest : Bytes} {c : Char}
    (h : lowSurrogate high text = .ok (c,rest)) : rest.length < text.length := by
  unfold lowSurrogate at h
  split at h
  · cases h
  · split at h
    · cases h
    · split at h
      · cases h
      · split at h
        · cases h
        · rename_i more _
          cases hf : hexFour more with
          | error f => simp [hf, bind, Except.bind] at h
          | ok p =>
            simp only [hf, bind, Except.bind] at h
            split at h
            · injection h with h
              injection h with _ h
              have := hexFour_length hf
              subst h
              simp only [List.length_cons]
              omega
            · cases h

theorem readEscape_length {text rest : Bytes} {c : Char} (h : readEscape text = .ok (c,rest)) :
    rest.length < text.length := by
  unfold readEscape at h
  split at h
  · cases h
  · split at h
    · rename_i more _
      cases hf : hexFour more with
      | error f => simp [hf, bind, Except.bind] at h
      | ok p =>
        have := hexFour_length hf
        simp only [hf, bind, Except.bind] at h
        split at h
        · cases h
        · split at h
          · have := lowSurrogate_length h
            simp only [List.length_cons]
            omega
          · injection h with h
            injection h with _ h
            subst h
            simp only [List.length_cons]
            omega
    · split at h
      · injection h with h
        injection h with _ h
        subst h
        simp
      · cases h

theorem skipEscape_length {text rest : Bytes} (h : skipEscape text = .ok rest) :
    rest.length < text.length := by
  unfold skipEscape at h
  split at h
  · cases h
  · split at h
    · rename_i more _
      cases hf : hexFour more with
      | error f => simp [hf, Except.map] at h
      | ok p =>
        have := hexFour_length hf
        simp only [hf, Except.map, Except.ok.injEq] at h
        subst h
        simp only [List.length_cons]
        omega
    · split at h
      · injection h with h
        subst h
        simp
      · cases h

/-- The octets that a string denotes, and what follows its closing quote. -/
def unescape : Bytes → Except Fault (Bytes × Bytes)
  | [] => .error ⟨.endInText,0⟩
  | b :: rest =>
    if b = 0x22 then .ok ([],rest)
    else if b = 0x5C then
      match _h : readEscape rest with
      | .error f => .error f
      | .ok (c,after) => (unescape after).map fun p => (String.utf8EncodeChar c ++ p.1,p.2)
    else if b < 0x20 then .error ⟨.rawControl,rest.length⟩
    else (unescape rest).map fun p => (b :: p.1,p.2)
termination_by text => text.length
decreasing_by
  · exact Nat.lt_succ_of_lt (readEscape_length _h)
  · exact Nat.lt_succ_self _

/-- Passes over a string. -/
def skipText : Bytes → Except Fault Bytes
  | [] => .error ⟨.endInText,0⟩
  | b :: rest =>
    if b = 0x22 then .ok rest
    else if b = 0x5C then
      match _h : skipEscape rest with
      | .error f => .error f
      | .ok after => skipText after
    else if b < 0x20 then .error ⟨.rawControl,rest.length+1⟩
    else skipText rest
termination_by text => text.length
decreasing_by
  · exact Nat.lt_succ_of_lt (skipEscape_length _h)
  · exact Nat.lt_succ_self _

theorem skipText_length {text rest : Bytes} (h : skipText text = .ok rest) :
    rest.length < text.length := by
  fun_induction skipText text with
  | case1 => cases h
  | case2 => injection h with h; subst h; exact Nat.lt_succ_self _
  | case3 => cases h
  | case4 more after hs _ ih =>
    exact Nat.lt_succ_of_lt (Nat.lt_trans (ih h) (skipEscape_length hs))
  | case5 => cases h
  | case6 b more _ _ _ ih => exact Nat.lt_succ_of_lt (ih h)

/-- Reads a string; the second part is the number of octets left behind it. -/
def readText (body : Bytes) : Except Fault (String × Nat) := do
  let (octets,rest) ← unescape body
  match Utf8.decode? octets with
  | some cs => .ok (String.ofList cs,rest.length)
  | none => .error ⟨.badCharacter,rest.length⟩

end WorksheetUpload.Json
