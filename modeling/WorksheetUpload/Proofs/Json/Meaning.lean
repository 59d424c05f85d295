import Mathlib.Data.List.Basic
import WorksheetUpload.Proofs.Json.Skip

/-! What readers make of written values. A reader has a meaning when what it takes, and what it makes
of that, depends on the datum alone and not on how it is written; whatever it takes, it leaves the
tokens that follow. -/
namespace WorksheetUpload.Json

/-- What a reader makes of tokens and which it leaves, when it does not fail. -/
def Reader.result (read : Reader α) (ts : List Token) : Option (α × List Token) :=
  (read ts).toOption.map fun p => (p.1,p.2.1)

/-- To change what was read is no matter of the tokens. -/
theorem Reader.result_map (read : Reader α) {read' : Reader β} {f : α → β} {ts : List Token}
    (h : read' ts = (read ts).map fun p => (f p.1,p.2)) :
    read'.result ts = (read.result ts).map fun p => (f p.1,p.2) := by
  rw [result,h,result]
  cases read ts <;> rfl

/-- Nor is an opening bracket in front of them. -/
theorem Reader.result_enter (read : Reader α) {read' : Reader α} {t : Token} {ts : List Token}
    (h : read' (t :: ts) = (read ts).map fun p => (p.1,⟨p.2.1,Nat.lt_succ_of_lt p.2.2⟩)) :
    read'.result (t :: ts) = read.result ts := by
  rw [result,h,result]
  cases read ts <;> rfl

def Reader.Means (read : Reader α) (meaning : Datum → Option α) : Prop :=
  ∀ (w : Written) (after : Bytes), Ends after →
    read.result (tokens (w.octets ++ after)) = (meaning w.datum).map (·,tokens after)

namespace Datum

def text? : Datum → Option String
  | text s => some s
  | _ => none

/-- The value of a number that is written as an integer and that 64 bits hold. -/
def whole? : Datum → Option Int
  | number n => n.whole?
  | _ => none

def orNull (meaning : Datum → Option α) : Datum → Option (Option α)
  | null => some none
  | d => (meaning d).map some

def list? (meaning : Datum → Option α) : Datum → Option (List α)
  | list ds => ds.mapM meaning
  | _ => none

end Datum

theorem means_text : Reader.Means text Datum.text? := by
  intro w after h
  obtain ⟨t,left,ht,-,he⟩ := w.exists_tokens_eq h
  rw [he]
  cases w with
  | text q =>
    simp [Reader.result,text,ht,Written.lexeme,q.readText_octets,Except.map,Except.toOption,
      Written.datum,Datum.text?,Written.behind]
  | _ => simp [Reader.result,text,ht,Written.lexeme,Except.toOption,Written.datum,Datum.text?]

/-- The value of a numeral that is not whole is a real number, if it is not too large. -/
theorem Numeral.value_of_whole?_eq_none {n : Numeral} (h : n.whole? = none) :
    (∃ x, n.value = .ok (.real x)) ∨ ∃ late, n.value = .error late := by
  have real (x : Option Float) (f : Float → Float) :
      let value : Except Nat Number := x.elim (.error 0) (.ok ∘ fun y => .real (f y))
      (∃ y, value = .ok (.real y)) ∨ ∃ late, value = .error late := by
    cases x with
    | none => exact .inr ⟨0,rfl⟩
    | some x => exact .inl ⟨f x,rfl⟩
  unfold value
  rw [h]
  simp only
  split
  case h_1 => exact real _ _
  case h_2 =>
    split
    case h_1 => exact real _ _
    case h_2 =>
      split
      case isTrue => exact .inr ⟨_,rfl⟩
      case isFalse => exact .inl ⟨_,rfl⟩

theorem means_whole (wanted : String) (accept : Int → Option α) :
    Reader.Means (whole wanted accept) fun d => d.whole?.bind accept := by
  intro w after h
  obtain ⟨t,left,ht,-,he⟩ := w.exists_tokens_eq h
  rw [he]
  cases w with
  | number n =>
    have scanned := Numeral.scan_octets n h
    simp only [Reader.result,whole,ht,Written.lexeme,readNumber,scanned,Written.datum,Datum.whole?,
      Written.behind]
    cases hw : n.numeral.whole? with
    | some v =>
      have value : n.numeral.value = .ok (.whole v) := by simp [Numeral.value,hw]
      simp only [value,Option.bind_some]
      cases accept v <;> rfl
    | none =>
      rcases Numeral.value_of_whole?_eq_none hw with ⟨x,value⟩ | ⟨late,value⟩
      · simp only [value]
        rfl
      · simp only [value]
        rfl
  | _ => simp [Reader.result,whole,ht,Written.lexeme,Except.toOption,Written.datum,Datum.whole?]

theorem result_orNull (read : Reader α) {t : Token} (ht : t.lexeme ≠ .null) (ts : List Token) :
    Reader.result (orNull read) (t :: ts) =
      (read.result (t :: ts)).map fun p => (some p.1,p.2) := by
  apply Reader.result_map read
  simp only [orNull]

theorem means_orNull {read : Reader α} {meaning : Datum → Option α} (hr : read.Means meaning) :
    Reader.Means (orNull read) (Datum.orNull meaning) := by
  intro w after h
  obtain ⟨t,left,ht,hs,he⟩ := w.exists_tokens_eq h
  have given := hr w after h
  rw [he] at given ⊢
  cases w with
  | null =>
    simp [Reader.result,orNull,ht,Written.lexeme,hs,Except.map,Except.toOption,Written.datum,
      Datum.orNull,Written.behind]
  | _ =>
    rw [result_orNull read (by simp [ht,Written.lexeme]),given]
    simp [Written.datum,Datum.orNull,Option.map_map,Function.comp_def]

theorem means_ignore : Reader.Means (@ignore σ) fun _ => some id := by
  intro w after h
  have skipped := skip_written w h
  unfold Reader.result ignore
  split
  case h_1 he => rw [skipped] at he; cases he
  case h_2 he => rw [skipped] at he; cases he; rfl

theorem means_field {read : Reader α} {meaning : Datum → Option α} (hr : read.Means meaning)
    (name : String) (set : α → σ → σ) :
    (Field.of name read set).read.Means fun d => (meaning d).map set := by
  intro w after h
  rw [Reader.result_map read (f := set) rfl,hr w after h]
  simp [Option.map_map,Function.comp_def]

section

variable {read : Reader α} {first : Bool} {ts : List Token}

theorem result_elements_closed {left : Nat} {rest : Rest ts}
    (h : nextElement first ts = .ok (.closed left rest)) :
    Reader.result (elements read first) ts = some ([],rest.1) := by
  rw [Reader.result,elements,h]
  rfl

theorem result_elements_here {rest : List Token} {le : rest.length ≤ ts.length}
    (h : nextElement first ts = .ok (.here rest le)) :
    Reader.result (elements read first) ts =
      (read.result rest).bind fun p =>
        (Reader.result (elements read false) p.2).map fun q => (p.1 :: q.1,q.2) := by
  rw [Reader.result,elements,h]
  unfold Reader.result
  simp only
  cases read rest with
  | error f => rfl
  | ok p =>
    simp only [Except.toOption,Option.map_some,Option.bind_some]
    cases elements read false p.2.1 <;> rfl

theorem nextElement_close {t : Token} (ht : t.lexeme = .closeList) :
    nextElement first (t :: ts) = .ok (.closed (t.start-1) ⟨ts,Nat.lt_succ_self _⟩) := by
  simp only [nextElement,ht,if_true]

theorem nextElement_first {t : Token} (ht : t.lexeme ≠ .closeList) :
    nextElement true (t :: ts) = .ok (.here (t :: ts) (Nat.le_refl _)) := by
  simp only [nextElement,ht,if_false,if_true]

theorem nextElement_comma {t u : Token} (ht : t.lexeme = .comma) (hu : u.lexeme ≠ .closeList) :
    nextElement false (t :: u :: ts) = .ok (.here (u :: ts) (Nat.le_succ _)) := by
  simp [nextElement,ht,hu]

end

/-- The next element of a list is where its value is written. -/
theorem nextElement_places (first : Bool) (e : Placed Written) (es : List (Placed Written))
    (after : Bytes) : ∃ le, nextElement first (tokens (placesOctets first (e :: es) ++ after)) =
      .ok (.here (tokens (e.value.octets ++ behindPlace after e es)) le) := by
  obtain ⟨t,ts,he,ht⟩ := exists_tokens_open e.value (ends_behindPlace after e es)
  cases first with
  | true =>
    rw [tokens_first_place,he]
    exact ⟨_,nextElement_first ht⟩
  | false =>
    obtain ⟨u,hu,hc⟩ := exists_tokens_next_place after e es
    rw [hc,he]
    exact ⟨_,nextElement_comma hu ht⟩

/-- The elements of a list mean what they mean one by one. -/
theorem result_elements {read : Reader α} {meaning : Datum → Option α} (hr : read.Means meaning)
    (es : List (Placed Written)) (first : Bool) (after : Bytes) :
    Reader.result (elements read first) (tokens (placesOctets first es ++ after)) =
      ((placesData es).mapM meaning).map (·,tokens after) := by
  induction es generalizing first with
  | nil =>
    obtain ⟨t,ht,he⟩ := exists_tokens_close_list after first
    rw [he,result_elements_closed (nextElement_close ht)]
    rfl
  | cons e es ih =>
    obtain ⟨le,here⟩ := nextElement_places first e es after
    rw [result_elements_here here,hr _ _ (ends_behindPlace after e es)]
    rw [placesData,List.mapM_cons]
    cases meaning e.value.datum with
    | none => rfl
    | some a =>
      simp only [Option.map_some,Option.bind_some,behindPlace,tokens_gap,ih]
      cases (placesData es).mapM meaning <;> rfl

theorem means_list {read : Reader α} {meaning : Datum → Option α} (hr : read.Means meaning) :
    Reader.Means (list read) (Datum.list? meaning) := by
  intro w after h
  obtain ⟨t,left,ht,-,he⟩ := w.exists_tokens_eq h
  rw [he]
  cases w with
  | list gap es =>
    rw [Reader.result_enter (elements read true) (by simp only [list,ht,Written.lexeme])]
    exact result_elements hr es true after
  | _ => simp [Reader.result,list,ht,Written.lexeme,Except.toOption,Written.datum,Datum.list?]

/-- A text is read whole, or not at all. -/
theorem toOption_parse (read : Reader α) (bytes : Bytes) : (parse read bytes).toOption =
    (read.result (tokens bytes)).bind fun p => if p.2.isEmpty then some p.1 else none := by
  rw [parse,Reader.result]
  cases read (tokens bytes) with
  | error f => rfl
  | ok q =>
    obtain ⟨a,⟨rest,lt⟩⟩ := q
    cases rest <;> rfl

/-- A whole text is read as what it denotes. -/
theorem parse_render {read : Reader α} {meaning : Datum → Option α} (hr : read.Means meaning)
    (p : Placed Written) :
    (parse read (Utf8.encode p.render)).toOption = meaning p.value.datum := by
  rw [toOption_parse,tokens_render,hr p.value _ (ends_octets p.after),tokens_octets]
  cases meaning p.value.datum <;> rfl

end WorksheetUpload.Json
