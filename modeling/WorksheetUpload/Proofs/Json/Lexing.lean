import WorksheetUpload.Json.Token
import WorksheetUpload.Proofs.Json.Numeral
import WorksheetUpload.Proofs.Json.Quoted

/-! The tokens of a written value. Blanks leave none, and each part of the value leaves its own, with
the tokens of what follows behind them. -/
namespace WorksheetUpload.Json

/-- A token from the beginning of one text to the beginning of another. -/
def Token.spanning (l : Lexeme) (text rest : Bytes) : Token := ⟨l,text.length,.ok rest.length⟩

theorem tokens_cons {b : UInt8} {rest after : Bytes} {l : Lexeme} (space : isSpace b = false)
    (h : lexeme b rest = (l,.ok after)) :
    tokens (b :: rest) = .spanning l (b :: rest) after :: tokens after := by
  rw [tokens,if_neg (by simp [space])]
  split
  case h_1 he =>
    rw [h] at he
    cases he
    rw [h]
    rfl
  case h_2 he => rw [h] at he; cases he

theorem tokens_mark {b : UInt8} {l : Lexeme} (space : isSpace b = false) (h : mark? b = some l)
    (rest : Bytes) : tokens (b :: rest) = .spanning l (b :: rest) rest :: tokens rest :=
  tokens_cons space (by rw [lexeme,h])

def Gap.octets (g : Gap) : Bytes := Utf8.encode g.text

@[simp] theorem tokens_gap (g : Gap) (rest : Bytes) : tokens (g.octets ++ rest) = tokens rest := by
  induction g with
  | nil => rfl
  | cons b g ih =>
    have blank : ∃ o, String.utf8EncodeChar b.char = [o] ∧ isSpace o = true := by
      cases b <;> exact ⟨_,rfl,rfl⟩
    obtain ⟨o,encoded,space⟩ := blank
    have cons : Gap.octets (b :: g) = o :: Gap.octets g := by
      simp [Gap.octets,Gap.text,encoded]
    rw [cons,List.cons_append,tokens,if_pos space,ih]

theorem tokens_string (q : Quoted) (rest : Bytes) :
    tokens (0x22 :: (q.octets ++ rest)) =
      .spanning (.text (q.octets ++ rest)) (0x22 :: (q.octets ++ rest)) rest :: tokens rest :=
  tokens_cons rfl (by
    simp only [lexeme,mark?]
    rw [q.skipText_octets]
    rfl)

/-- A number begins with an octet that begins nothing else. -/
theorem lexeme_number {b : UInt8} (hb : b = 0x2D ∨ isDigit b = true) (rest : Bytes) :
    isSpace b = false ∧ lexeme b rest = (.number (b :: rest),skipNumber (b :: rest)) := by
  have ne : ∀ c : UInt8, ¬ (c = 0x2D ∨ isDigit c = true) → b ≠ c := by
    rintro c hc rfl
    exact hc hb
  constructor
  · simp [isSpace,ne 0x20 (by decide),ne 0x0A (by decide),ne 0x09 (by decide),ne 0x0D (by decide)]
  · simp [lexeme,mark?,hb,ne 0x7B (by decide),ne 0x7D (by decide),ne 0x5B (by decide),
      ne 0x5D (by decide),ne 0x2C (by decide),ne 0x3A (by decide),ne 0x22 (by decide)]

theorem tokens_numeral (n : WrittenNumber) {rest : Bytes} (h : Ends rest) :
    tokens (n.octets ++ rest) =
      .spanning (.number (n.octets ++ rest)) (n.octets ++ rest) rest :: tokens rest := by
  have first : ∃ b more, n.octets = b :: more ∧ (b = 0x2D ∨ isDigit b = true) := by
    obtain ⟨b,more,hd,digit,-⟩ := n.whole.exists_octets_eq
    rw [WrittenNumber.octets,hd]
    cases n.negative with
    | true => exact ⟨_,_,rfl,.inl rfl⟩
    | false => exact ⟨_,_,rfl,.inr digit⟩
  obtain ⟨b,more,hn,hb⟩ := first
  have skipped : skipNumber (n.octets ++ rest) = .ok rest := by
    rw [skipNumber,Numeral.scan_octets n h]
  rw [hn,List.cons_append] at skipped ⊢
  obtain ⟨space,lexed⟩ := lexeme_number hb (more ++ rest)
  exact tokens_cons space (by rw [lexed,skipped])

theorem ends_cons {b : UInt8} (h : isSpace b = true ∨ b = 0x2C ∨ b = 0x5D ∨ b = 0x7D)
    (rest : Bytes) : Ends (b :: rest) := by
  intro c hc
  obtain rfl : b = c := Option.some.inj hc
  exact h

theorem ends_gap (g : Gap) {rest : Bytes} (h : Ends rest) : Ends (g.octets ++ rest) := by
  cases g with
  | nil => exact h
  | cons b g => cases b <;> exact ends_cons (.inl rfl) _

/-- The octets of a value. -/
def Written.octets (w : Written) : Bytes := Utf8.encode w.render

/-- The octets of elements, and of the bracket that closes the list. -/
def placesOctets (first : Bool) (es : List (Placed Written)) : Bytes :=
  Utf8.encode (renderPlaces first es) ++ [0x5D]

/-- The octets of members, and of the bracket that closes the object. -/
def entriesOctets (first : Bool) (ms : List (Entry Written)) : Bytes :=
  Utf8.encode (renderEntries first ms) ++ [0x7D]

/-- The octets of the comma before a part that is not the first. -/
def commaOctets (first : Bool) : Bytes := if first then [] else [0x2C]

theorem encode_comma (first : Bool) :
    Utf8.encode (if first then [] else [',']) = commaOctets first := by
  cases first <;> rfl

theorem placesOctets_cons (first : Bool) (e : Placed Written) (es : List (Placed Written)) :
    placesOctets first (e :: es) = commaOctets first ++ (e.before.octets ++ (e.value.octets ++
      (e.after.octets ++ placesOctets false es))) := by
  simp only [placesOctets,renderPlaces,Utf8.encode_append,encode_comma,List.append_assoc,
    Gap.octets,Written.octets]

theorem entriesOctets_cons (first : Bool) (m : Entry Written) (ms : List (Entry Written)) :
    entriesOctets first (m :: ms) = commaOctets first ++ (m.name.before.octets ++
      (0x22 :: (m.name.value.octets ++ (m.name.after.octets ++ (0x3A ::
        (m.value.before.octets ++ (m.value.value.octets ++ (m.value.after.octets ++
          entriesOctets false ms)))))))) := by
  have quote : String.utf8EncodeChar '"' = [0x22] := rfl
  have colon : String.utf8EncodeChar ':' = [0x3A] := rfl
  simp only [entriesOctets,renderEntries,Utf8.encode_append,Utf8.encode_cons,encode_comma,
    List.append_assoc,Gap.octets,Quoted.octets,Written.octets,quote,colon,List.cons_append,
    List.nil_append]

namespace Written

/-- The lexeme that a value begins with, when a text follows it. -/
def lexeme (after : Bytes) : Written → Lexeme
  | null => .null
  | truth b => .truth b
  | number n => .number (n.octets ++ after)
  | text q => .text (q.octets ++ after)
  | list _ _ => .openList
  | object _ _ => .openObject

/-- What is left behind the first token of a value, when a text follows the value. -/
def behind (after : Bytes) : Written → Bytes
  | list _ es => placesOctets true es ++ after
  | object _ ms => entriesOctets true ms ++ after
  | _ => after

/-- A value begins with its token. -/
theorem exists_tokens_eq (w : Written) {after : Bytes} (h : Ends after) :
    ∃ t left, t.lexeme = w.lexeme after ∧ t.stop = .ok left ∧
      tokens (w.octets ++ after) = t :: tokens (w.behind after) := by
  cases w with
  | null => exact ⟨_,_,rfl,rfl,tokens_cons rfl rfl⟩
  | truth b => cases b <;> exact ⟨_,_,rfl,rfl,tokens_cons rfl rfl⟩
  | number n =>
    rw [octets,render,n.encode_text]
    exact ⟨_,_,rfl,rfl,tokens_numeral n h⟩
  | text q => exact ⟨_,_,rfl,rfl,tokens_string q after⟩
  | list gap es =>
    have octets_eq : octets (list gap es) = 0x5B :: (gap.octets ++ placesOctets true es) := by
      simp [octets,render,placesOctets,Gap.octets]
      rfl
    rw [octets_eq,List.cons_append,List.append_assoc,tokens_mark rfl rfl,tokens_gap]
    exact ⟨_,_,rfl,rfl,rfl⟩
  | object gap ms =>
    have octets_eq : octets (object gap ms) = 0x7B :: (gap.octets ++ entriesOctets true ms) := by
      simp [octets,render,entriesOctets,Gap.octets]
      rfl
    rw [octets_eq,List.cons_append,List.append_assoc,tokens_mark rfl rfl,tokens_gap]
    exact ⟨_,_,rfl,rfl,rfl⟩

end Written

section

variable (after : Bytes)

theorem exists_tokens_close_list (first : Bool) :
    ∃ t, t.lexeme = .closeList ∧ tokens (placesOctets first [] ++ after) = t :: tokens after :=
  ⟨_,rfl,tokens_mark rfl rfl after⟩

theorem exists_tokens_close_object (first : Bool) :
    ∃ t, t.lexeme = .closeObject ∧ tokens (entriesOctets first [] ++ after) = t :: tokens after :=
  ⟨_,rfl,tokens_mark rfl rfl after⟩

/-- The octets behind an element. -/
def behindPlace (e : Placed Written) (es : List (Placed Written)) : Bytes :=
  e.after.octets ++ (placesOctets false es ++ after)

/-- The octets behind the value of a member. -/
def behindEntry (m : Entry Written) (ms : List (Entry Written)) : Bytes :=
  m.value.after.octets ++ (entriesOctets false ms ++ after)

theorem ends_behindPlace (e : Placed Written) (es : List (Placed Written)) :
    Ends (behindPlace after e es) := by
  apply ends_gap
  cases es with
  | nil => exact ends_cons (.inr (.inr (.inl rfl))) _
  | cons e es =>
    rw [placesOctets_cons]
    exact ends_cons (.inr (.inl rfl)) _

theorem ends_behindEntry (m : Entry Written) (ms : List (Entry Written)) :
    Ends (behindEntry after m ms) := by
  apply ends_gap
  cases ms with
  | nil => exact ends_cons (.inr (.inr (.inr rfl))) _
  | cons m ms =>
    rw [entriesOctets_cons]
    exact ends_cons (.inr (.inl rfl)) _

theorem tokens_first_place (e : Placed Written) (es : List (Placed Written)) :
    tokens (placesOctets true (e :: es) ++ after) =
      tokens (e.value.octets ++ behindPlace after e es) := by
  simp [placesOctets_cons,commaOctets,behindPlace]

theorem exists_tokens_next_place (e : Placed Written) (es : List (Placed Written)) :
    ∃ t, t.lexeme = .comma ∧ tokens (placesOctets false (e :: es) ++ after) =
      t :: tokens (e.value.octets ++ behindPlace after e es) := by
  rw [placesOctets_cons]
  simp only [commaOctets,List.append_assoc,List.cons_append,List.nil_append,Bool.false_eq_true,
    if_false]
  rw [tokens_mark rfl rfl,tokens_gap]
  exact ⟨_,rfl,rfl⟩

/-- The tokens of a name and its colon. -/
theorem exists_tokens_first_entry (m : Entry Written) (ms : List (Entry Written)) :
    ∃ t u left, ∃ more : Bytes, t.lexeme = .text (m.name.value.octets ++ more) ∧
      t.stop = .ok left ∧ u.lexeme = .colon ∧ tokens (entriesOctets true (m :: ms) ++ after) =
        t :: u :: tokens (m.value.value.octets ++ behindEntry after m ms) := by
  rw [entriesOctets_cons]
  simp only [commaOctets,List.append_assoc,List.cons_append,List.nil_append,if_true,tokens_gap,
    tokens_string]
  rw [tokens_mark rfl rfl,tokens_gap]
  exact ⟨_,_,_,_,rfl,rfl,rfl,rfl⟩

theorem exists_tokens_next_entry (m : Entry Written) (ms : List (Entry Written)) :
    ∃ t, t.lexeme = .comma ∧ tokens (entriesOctets false (m :: ms) ++ after) =
      t :: tokens (entriesOctets true (m :: ms) ++ after) := by
  rw [entriesOctets_cons,entriesOctets_cons]
  simp only [commaOctets,List.append_assoc,List.cons_append,List.nil_append,Bool.false_eq_true,
    if_false,if_true]
  rw [tokens_mark rfl rfl]
  exact ⟨_,rfl,rfl⟩

end

/-- A whole text has the tokens of its value. -/
theorem tokens_render (p : Placed Written) : tokens (Utf8.encode p.render) =
    tokens (p.value.octets ++ p.after.octets) := by
  have octets_eq : Utf8.encode p.render =
      p.before.octets ++ (p.value.octets ++ p.after.octets) := by
    simp only [Placed.render,Utf8.encode_append,List.append_assoc,Gap.octets,Written.octets]
  rw [octets_eq,tokens_gap]

theorem ends_octets (g : Gap) : Ends g.octets := by
  rw [← List.append_nil g.octets]
  exact ends_gap g nofun

theorem tokens_octets (g : Gap) : tokens g.octets = [] := by
  rw [← List.append_nil g.octets,tokens_gap,tokens]

end WorksheetUpload.Json
