import WorksheetUpload.Json.Value
import WorksheetUpload.Proofs.Json.Denotes

/-! The written form of a value is JSON that denotes that value: each character has an escape or stands
for itself, and commas stand between the parts. -/
namespace WorksheetUpload.Json

mutual

def Value.datum : Value → Datum
  | .text s => .text s
  | .list vs => .list (elementsDatum vs)
  | .object ms => .object (membersDatum ms)

def elementsDatum : List Value → List Datum
  | [] => []
  | v :: vs => v.datum :: elementsDatum vs

def membersDatum : List (String × Value) → List (String × Datum)
  | [] => []
  | (k,v) :: ms => (k,v.datum) :: membersDatum ms

end

/-- The code of a control character. -/
def CodeUnit.control (n : Nat) (h : n < 0x20) : CodeUnit :=
  ⟨⟨0,false⟩,⟨0,false⟩,⟨⟨n/16,by omega⟩,false⟩,⟨⟨n%16,by omega⟩,false⟩⟩

theorem CodeUnit.value_control (n : Nat) (h : n < 0x20) : (control n h).value = n := by
  simp only [control,value]
  change ((0*16+0)*16 + n/16)*16 + n%16 = n
  omega

/-- Each character is written by a piece that stands for it. -/
theorem exists_piece (c : Char) : ∃ p : Piece, p.text = writtenChar c ∧ p.char = c := by
  unfold writtenChar
  split_ifs with mark backspace formFeed newLine carriageReturn tab low
  · rcases mark with rfl | rfl
    · exact ⟨.short .quote,rfl,rfl⟩
    · exact ⟨.short .backslash,rfl,rfl⟩
  · exact ⟨.short .backspace,rfl,backspace.symm⟩
  · exact ⟨.short .formFeed,rfl,formFeed.symm⟩
  · exact ⟨.short .newLine,rfl,newLine.symm⟩
  · exact ⟨.short .carriageReturn,rfl,carriageReturn.symm⟩
  · exact ⟨.short .tab,rfl,tab.symm⟩
  · have value := CodeUnit.value_control c.toNat low
    have ok : ¬ (CodeUnit.control c.toNat low).IsHigh ∧
        ¬ (CodeUnit.control c.toNat low).IsLow := by
      simp only [CodeUnit.IsHigh,CodeUnit.IsLow,value]
      omega
    refine ⟨.code (.control c.toNat low) ok,rfl,?_⟩
    rw [Piece.char,value,Char.ofNat_toNat]
  · obtain ⟨quote,backslash⟩ := not_or.1 mark
    exact ⟨.plain c ⟨quote,backslash,Nat.le_of_not_lt low⟩,rfl,rfl⟩

theorem exists_quoted (s : String) : ∃ q : Quoted, '"' :: q.text = writtenText s ∧ q.string = s := by
  have each : ∀ cs : List Char, ∃ ps : List Piece,
      ps.flatMap Piece.text = cs.flatMap writtenChar ∧ ps.map Piece.char = cs := by
    intro cs
    induction cs with
    | nil => exact ⟨[],rfl,rfl⟩
    | cons c cs ih =>
      obtain ⟨p,text,char⟩ := exists_piece c
      obtain ⟨ps,texts,chars⟩ := ih
      exact ⟨p :: ps,by simp [text,texts],by simp [char,chars]⟩
  obtain ⟨ps,texts,chars⟩ := each s.toList
  refine ⟨ps,?_,?_⟩
  · rw [Quoted.text,texts,writtenText,List.cons_append]
  · rw [Quoted.string,chars,String.ofList_toList]

/-- The comma that goes before some parts. -/
def commaBefore {α : Type} (parts : List α) : List Char := if parts.isEmpty then [] else [',']

theorem renderElements_cons (v : Value) (vs : List Value) :
    renderElements (v :: vs) = v.render ++ (commaBefore vs ++ renderElements vs) := by
  cases vs <;> simp [renderElements,commaBefore]

theorem renderMembers_cons (k : String) (v : Value) (ms : List (String × Value)) :
    renderMembers ((k,v) :: ms) =
      writtenText k ++ ':' :: v.render ++ (commaBefore ms ++ renderMembers ms) := by
  cases ms <;> simp [renderMembers,commaBefore]

mutual

theorem exists_written (v : Value) : ∃ w : Written, w.render = v.render ∧ w.datum = v.datum := by
  match v with
  | .text s =>
    obtain ⟨q,text,string⟩ := exists_quoted s
    exact ⟨.text q,by rw [Written.render,Value.render,text],by rw [Written.datum,string,Value.datum]⟩
  | .list vs =>
    obtain ⟨es,text,-,data⟩ := exists_places vs
    exact ⟨.list [] es,by simp [Written.render,Value.render,Gap.text,text],
      by rw [Written.datum,data,Value.datum]⟩
  | .object ms =>
    obtain ⟨es,text,-,data⟩ := exists_entries ms
    exact ⟨.object [] es,by simp [Written.render,Value.render,Gap.text,text],
      by rw [Written.datum,data,Value.datum]⟩

/-- Elements are written as the first of a list, or behind others. -/
theorem exists_places (vs : List Value) : ∃ es : List (Placed Written),
    renderPlaces true es = renderElements vs ∧
      renderPlaces false es = commaBefore vs ++ renderElements vs ∧
      placesData es = elementsDatum vs := by
  match vs with
  | [] => exact ⟨[],rfl,rfl,rfl⟩
  | v :: vs =>
    obtain ⟨w,text,datum⟩ := exists_written v
    obtain ⟨es,-,texts,data⟩ := exists_places vs
    refine ⟨⟨[],w,[]⟩ :: es,?_,?_,by rw [placesData,datum,data,elementsDatum]⟩
    · simp [renderPlaces,renderElements_cons,Gap.text,text,texts]
    · simp [renderPlaces,renderElements_cons,Gap.text,text,texts,commaBefore]

theorem exists_entries (ms : List (String × Value)) : ∃ es : List (Entry Written),
    renderEntries true es = renderMembers ms ∧
      renderEntries false es = commaBefore ms ++ renderMembers ms ∧
      entriesData es = membersDatum ms := by
  match ms with
  | [] => exact ⟨[],rfl,rfl,rfl⟩
  | (k,v) :: ms =>
    obtain ⟨q,name,string⟩ := exists_quoted k
    obtain ⟨w,text,datum⟩ := exists_written v
    obtain ⟨es,-,texts,data⟩ := exists_entries ms
    refine ⟨⟨⟨[],q,[]⟩,⟨[],w,[]⟩⟩ :: es,?_,?_,by rw [entriesData,string,datum,data,membersDatum]⟩
    · simp [renderEntries,renderMembers_cons,Gap.text,← name,text,texts]
    · simp [renderEntries,renderMembers_cons,Gap.text,← name,text,texts,commaBefore]

end

/-- The written form of a value denotes that value and nothing else. -/
theorem denotes_render_iff (v : Value) (d : Datum) : Denotes v.render d ↔ d = v.datum := by
  obtain ⟨w,text,datum⟩ := exists_written v
  have denotes : Denotes v.render v.datum := by
    refine ⟨⟨[],w,[]⟩,?_,datum⟩
    simp [Placed.render,Gap.text,text]
  exact ⟨fun h => h.unique denotes,fun h => h ▸ denotes⟩

end WorksheetUpload.Json
