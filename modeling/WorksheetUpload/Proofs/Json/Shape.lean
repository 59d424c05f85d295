import Mathlib.Data.List.Basic
import WorksheetUpload.Proofs.Json.Meaning

/-! Objects of a shape, as they mean. The members may come in any order and others among them; what an
object comes to is found by going through the names and values that its text denotes. -/
namespace WorksheetUpload.Json

namespace Shape

variable (s : Shape σ) (meaning : String → Datum → Option (σ → σ))

def names : List String := s.fields.map (·.name)

/-- Whether the fields of a shape have the meanings that go with their names. -/
def FieldsMean : Prop := ∀ f ∈ s.fields, f.read.Means (meaning f.name)

/-- What the members of an object come to, when some names were seen before: no field may be seen
twice, members of other names do not count. -/
def collect : List String → σ → List (String × Datum) → Option σ
  | seen, value, [] => if (s.missing? seen).isSome then none else some value
  | seen, value, (name,d) :: ms =>
    if name ∈ s.names then
      if name ∈ seen then none
      else (meaning name d).bind fun change => collect (name :: seen) (change value) ms
    else collect (name :: seen) value ms

/-- What the elements of a list come to, when they stand for fields in order. -/
def inOrder : List (Field σ) → σ → List Datum → Option σ
  | [], value, [] => some value
  | [], _, _ :: _ => none
  | _ :: _, value, [] => if s.mandatory then none else some value
  | f :: fields, value, d :: ds =>
    (meaning f.name d).bind fun change => inOrder fields (change value) ds

/-- What a datum comes to as an object of a shape. -/
def ofDatum : Datum → Option σ
  | .object ms => s.collect meaning [] s.blank ms
  | .list ds => s.inOrder meaning s.fields s.blank ds
  | _ => none

end Shape

section

variable {s : Shape σ} {first : Bool} {seen : List String} {value : σ} {ts : List Token}

theorem result_members_closed {left : Nat} {rest : Rest ts}
    (h : nextMember first ts = .ok (.closed left rest)) :
    Reader.result (members s first seen value) ts =
      if (s.missing? seen).isSome then none else some (value,rest.1) := by
  rw [Reader.result,members,h]
  simp only
  cases s.missing? seen <;> rfl

/-- The reader of the values that go with a name. -/
def Shape.reader (s : Shape σ) (name : String) : Reader (σ → σ) :=
  (s.fields.find? (·.name == name)).elim ignore Field.read

theorem result_members_name {body : Bytes} {name : String} {left : Nat} {u : Token}
    {inner : List Token} {lt : (u :: inner).length < ts.length}
    (h : nextMember first ts = .ok (.name body ⟨u :: inner,lt⟩))
    (hn : readText body = .ok (name,left)) (hu : u.lexeme = .colon) :
    Reader.result (members s first seen value) ts =
      if name ∈ s.names ∧ name ∈ seen then none
      else ((s.reader name).result inner).bind fun p =>
        Reader.result (members s false (name :: seen) (p.1 value)) p.2 := by
  have known : (s.fields.find? (·.name == name)).isSome = true ↔ name ∈ s.names := by
    simp [Shape.names]
  rw [Reader.result,members,h]
  simp only [hn]
  by_cases twice : name ∈ s.names ∧ name ∈ seen
  case pos =>
    rw [if_pos twice,if_pos (by simpa [known] using twice)]
    rfl
  case neg =>
    rw [if_neg twice,if_neg (by simpa [known] using twice)]
    have colon : afterColon (u :: inner) = .ok ⟨inner,Nat.lt_succ_self _⟩ := by
      simp only [afterColon,hu,if_true]
    simp only [colon]
    unfold Shape.reader Reader.result
    cases (s.fields.find? (·.name == name)).elim ignore Field.read inner with
    | error f => rfl
    | ok p =>
      simp only [Except.toOption,Option.map_some,Option.bind_some]
      cases members s false (name :: seen) (p.1 value) p.2.1 <;> rfl

theorem nextMember_close {t : Token} (ht : t.lexeme = .closeObject) :
    nextMember first (t :: ts) = .ok (.closed (t.start-1) ⟨ts,Nat.lt_succ_self _⟩) := by
  simp only [nextMember,ht]

theorem nextMember_first {t : Token} {body : Bytes} (ht : t.lexeme = .text body) :
    nextMember true (t :: ts) = .ok (.name body ⟨ts,Nat.lt_succ_self _⟩) := by
  simp only [nextMember,ht]

theorem nextMember_comma {t u : Token} {body : Bytes} (ht : t.lexeme = .comma)
    (hu : u.lexeme = .text body) : nextMember false (t :: u :: ts) =
      .ok (.name body ⟨ts,Nat.lt_succ_of_lt (Nat.lt_succ_self _)⟩) := by
  simp only [nextMember,ht,hu]

end

/-- A member is read as its name and its value, whether or not it is the first. -/
theorem result_members_cons (s : Shape σ) (first : Bool) (seen : List String) (value : σ)
    (m : Entry Written) (ms : List (Entry Written)) (after : Bytes) :
    Reader.result (members s first seen value) (tokens (entriesOctets first (m :: ms) ++ after)) =
      if m.name.value.string ∈ s.names ∧ m.name.value.string ∈ seen then none
      else ((s.reader m.name.value.string).result
          (tokens (m.value.value.octets ++ behindEntry after m ms))).bind fun p =>
        Reader.result (members s false (m.name.value.string :: seen) (p.1 value)) p.2 := by
  obtain ⟨t,u,left,more,ht,-,hu,he⟩ := exists_tokens_first_entry after m ms
  have named := m.name.value.readText_octets more
  cases first with
  | true =>
    rw [he]
    exact result_members_name (nextMember_first ht) named hu
  | false =>
    obtain ⟨v,hv,hc⟩ := exists_tokens_next_entry after m ms
    rw [hc,he]
    exact result_members_name (nextMember_comma hv ht) named hu

theorem result_positional_here {s : Shape σ} {first : Bool} {count : Nat} {value : σ} {f : Field σ}
    {fields : List (Field σ)} {ts rest : List Token} {le : rest.length ≤ ts.length}
    (h : nextElement first ts = .ok (.here rest le)) :
    Reader.result (positional s first count value (f :: fields)) ts =
      (f.read.result rest).bind fun p =>
        Reader.result (positional s false (count+1) (p.1 value) fields) p.2 := by
  rw [Reader.result,positional,h]
  unfold Reader.result
  simp only
  cases f.read rest with
  | error e => rfl
  | ok p =>
    simp only [Except.toOption,Option.map_some,Option.bind_some]
    cases positional s false (count+1) (p.1 value) fields p.2.1 <;> rfl

/-- A list does not end where an element is written. -/
theorem listEnd_places (first : Bool) (e : Placed Written) (es : List (Placed Written))
    (after : Bytes) : ∃ f, listEnd (tokens (placesOctets first (e :: es) ++ after)) = .error f := by
  obtain ⟨t,left,ht,-,he⟩ := e.value.exists_tokens_eq (ends_behindPlace after e es)
  cases first with
  | true =>
    rw [tokens_first_place,he]
    cases hw : e.value <;> simp [listEnd,ht,hw,Written.lexeme]
  | false =>
    obtain ⟨u,hu,hc⟩ := exists_tokens_next_place after e es
    rw [hc,he]
    simp [listEnd,hu]

section

variable {s : Shape σ} {meaning : String → Datum → Option (σ → σ)} (hs : s.FieldsMean meaning)
include hs

/-- The value that goes with a name is read as its field means it, and passed over if there is no
such field. -/
theorem means_reader (name : String) : (s.reader name).Means fun d =>
    if name ∈ s.names then meaning name d else some id := by
  unfold Shape.reader
  cases found : s.fields.find? (·.name == name) with
  | none =>
    have unknown : name ∉ s.names := by
      simp only [Shape.names,List.mem_map,not_exists,not_and]
      intro f hf hn
      simpa [hn] using List.find?_eq_none.1 found f hf
    simp only [unknown,if_false]
    exact means_ignore
  | some f =>
    have hf := List.mem_of_find?_eq_some found
    have hn : f.name = name := by simpa using List.find?_some found
    have known : name ∈ s.names := List.mem_map.2 ⟨f,hf,hn⟩
    simp only [known,if_true]
    exact hn ▸ hs f hf

theorem result_members (ms : List (Entry Written)) (first : Bool) (seen : List String) (value : σ)
    (after : Bytes) :
    Reader.result (members s first seen value) (tokens (entriesOctets first ms ++ after)) =
      (s.collect meaning seen value (entriesData ms)).map (·,tokens after) := by
  induction ms generalizing first seen value with
  | nil =>
    obtain ⟨t,ht,he⟩ := exists_tokens_close_object after first
    rw [he,result_members_closed (nextMember_close ht),entriesData,Shape.collect]
    split <;> rfl
  | cons m ms ih =>
    have value_read := means_reader hs m.name.value.string m.value.value _
      (ends_behindEntry after m ms)
    rw [result_members_cons,value_read,entriesData,Shape.collect]
    simp only [behindEntry,tokens_gap]
    by_cases known : m.name.value.string ∈ s.names
    case neg => simp [known,ih]
    case pos =>
      by_cases twice : m.name.value.string ∈ seen
      case pos => simp [known,twice]
      case neg =>
        simp only [known,twice,and_false,if_false,if_true]
        cases meaning m.name.value.string m.value.value.datum with
        | none => rfl
        | some change => simp [ih]

/-- Where fields are to be read in order, the list ends after the last of them at the latest. -/
theorem result_positional (fields : List (Field σ)) (sub : ∀ f ∈ fields, f ∈ s.fields)
    (count : Nat) (value : σ) (es : List (Placed Written)) (first : Bool) (after : Bytes) :
    Reader.result (positional s first count value fields)
        (tokens (placesOctets first es ++ after)) =
      (s.inOrder meaning fields value (placesData es)).map (·,tokens after) := by
  induction fields generalizing count value es first with
  | nil =>
    cases es with
    | nil =>
      obtain ⟨t,ht,he⟩ := exists_tokens_close_list after first
      rw [he]
      simp [Reader.result,positional,listEnd,ht,Except.map,Except.toOption,placesData,Shape.inOrder]
    | cons e es =>
      obtain ⟨f,hf⟩ := listEnd_places first e es after
      simp [Reader.result,positional,hf,Except.map,Except.toOption,placesData,Shape.inOrder]
  | cons f fields ih =>
    obtain ⟨hf,sub⟩ := List.forall_mem_cons.1 sub
    cases es with
    | nil =>
      obtain ⟨t,ht,he⟩ := exists_tokens_close_list after first
      rw [he,placesData,Shape.inOrder]
      simp only [Reader.result,positional,nextElement_close ht]
      cases s.mandatory <;> rfl
    | cons e es =>
      obtain ⟨le,here⟩ := nextElement_places first e es after
      rw [result_positional_here here,hs f hf _ _ (ends_behindPlace after e es),placesData,
        Shape.inOrder]
      cases meaning f.name e.value.datum with
      | none => rfl
      | some change => simp [behindPlace,ih sub]

/-- What a reader of a shape makes of a value. -/
theorem means_object : Reader.Means (object s) (s.ofDatum meaning) := by
  intro w after h
  obtain ⟨t,left,ht,-,he⟩ := w.exists_tokens_eq h
  rw [he]
  cases w with
  | object gap ms =>
    rw [Reader.result_enter (members s true [] s.blank)
      (by simp only [object,ht,Written.lexeme])]
    exact result_members hs ms true [] s.blank after
  | list gap es =>
    rw [Reader.result_enter (positional s true 0 s.blank s.fields)
      (by simp only [object,ht,Written.lexeme])]
    exact result_positional hs s.fields (fun _ hf => hf) 0 s.blank es true after
  | _ =>
    simp [Reader.result,object,ht,Written.lexeme,Except.toOption,Written.datum,Shape.ofDatum]

end

namespace Shape

theorem missing?_eq_none_iff {s : Shape σ} {seen : List String} : s.missing? seen = none ↔
    (s.mandatory = true → ∀ name ∈ s.names, name ∈ seen) := by
  unfold missing?
  split
  case isTrue h => simp [h,names]
  case isFalse h => simp [h]

variable {s : Shape σ} {meaning : String → Datum → Option (σ → σ)}

/-- A name that may come counts against its later comings. -/
theorem count_cons_le_iff {names seen rest : List String} {name : String}
    (fresh : name ∈ names → name ∉ seen) :
    (∀ key ∈ names, (name :: rest).count key ≤ if key ∈ seen then 0 else 1) ↔
      ∀ key ∈ names, rest.count key ≤ if key ∈ name :: seen then 0 else 1 := by
  apply forall₂_congr
  intro key hk
  by_cases same : key = name
  case pos =>
    subst same
    simp [fresh hk]
  case neg => simp [same,List.count_cons_of_ne (Ne.symm same)]

/-- An object comes to something when no field comes twice, each field has a meaning, and those that
must be there are. -/
theorem exists_collect_iff (ms : List (String × Datum)) (seen : List String) (value : σ) :
    (∃ v, s.collect meaning seen value ms = some v) ↔
      (∀ name ∈ s.names, (ms.map Prod.fst).count name ≤ if name ∈ seen then 0 else 1) ∧
      (∀ m ∈ ms, m.1 ∈ s.names → (meaning m.1 m.2).isSome = true) ∧
      (s.mandatory = true → ∀ name ∈ s.names, name ∈ seen ∨ name ∈ ms.map Prod.fst) := by
  induction ms generalizing seen value with
  | nil =>
    rw [collect]
    cases hm : s.missing? seen with
    | none => simpa using missing?_eq_none_iff.1 hm
    | some name =>
      have missing := mt missing?_eq_none_iff.2 (hm ▸ Option.some_ne_none name)
      simpa using missing
  | cons m ms ih =>
    obtain ⟨name,d⟩ := m
    have present : ∀ key, key ∈ seen ∨ key ∈ name :: ms.map Prod.fst ↔
        key ∈ name :: seen ∨ key ∈ ms.map Prod.fst := by
      intro key
      simp only [List.mem_cons]
      tauto
    rw [collect,List.map_cons]
    simp only [List.forall_mem_cons,present]
    by_cases known : name ∈ s.names
    case neg =>
      simp only [known,if_false,false_imp_iff,true_and]
      rw [count_cons_le_iff (fun h => absurd h known),ih]
    case pos =>
      by_cases twice : name ∈ seen
      case pos =>
        simp only [known,twice,if_true,reduceCtorEq,exists_false,false_iff,not_and]
        intro once
        have none_left := once name known
        simp [twice] at none_left
      case neg =>
        rw [count_cons_le_iff (fun _ => twice)]
        simp only [known,twice,if_true,if_false,true_imp_iff]
        cases meaning name d with
        | none => simp
        | some change => simp only [Option.bind_some,Option.isSome_some,true_and,ih]

/-- What an object comes to has of each field what its member says, whatever the order, and of a field
without a member what was there before. -/
theorem collect_get {β : Type} (get : σ → β) (name : String) (known : name ∈ s.names)
    (others : ∀ k ≠ name, ∀ d change, meaning k d = some change → ∀ x, get (change x) = get x)
    {ms : List (String × Datum)} {seen : List String} {value v : σ}
    (h : s.collect meaning seen value ms = some v) :
    (name ∉ ms.map Prod.fst → get v = get value) ∧
      ∀ d, (name,d) ∈ ms → ∃ change x, meaning name d = some change ∧ get v = get (change x) := by
  induction ms generalizing seen value with
  | nil =>
    rw [collect] at h
    split at h
    case isTrue => cases h
    case isFalse =>
      cases h
      exact ⟨fun _ => rfl,nofun⟩
  | cons m ms ih =>
    obtain ⟨k,e⟩ := m
    have later (different : k ≠ name) (d : Datum) (hd : (name,d) ∈ (k,e) :: ms) : (name,d) ∈ ms := by
      rcases List.mem_cons.1 hd with same | hd
      · exact absurd (congrArg Prod.fst same).symm different
      · exact hd
    rw [collect] at h
    split at h
    case isFalse unknown =>
      have different : k ≠ name := fun same => unknown (same ▸ known)
      obtain ⟨absent,present⟩ := ih h
      refine ⟨fun hn => absent fun hm => hn (List.mem_cons_of_mem k hm),?_⟩
      exact fun d hd => present d (later different d hd)
    case isTrue =>
      split at h
      case isTrue => cases h
      case isFalse =>
        obtain ⟨change,hc,h⟩ := Option.bind_eq_some_iff.1 h
        obtain ⟨absent,present⟩ := ih h
        by_cases same : k = name
        case pos =>
          subst same
          -- The name does not come again, so that what is set now stays.
          have once : k ∉ ms.map Prod.fst := by
            have counted := ((exists_collect_iff ms _ _).1 ⟨v,h⟩).1 k known
            simpa [List.count_eq_zero] using counted
          refine ⟨fun hn => absurd List.mem_cons_self hn,fun d hd => ?_⟩
          rcases List.mem_cons.1 hd with here | hd
          · cases here
            exact ⟨change,value,hc,absent once⟩
          · exact absurd (List.mem_map_of_mem hd) once
        case neg =>
          refine ⟨fun hn => ?_,fun d hd => present d (later same d hd)⟩
          rw [absent fun hm => hn (List.mem_cons_of_mem k hm)]
          exact others k same e change hc value

end Shape
end WorksheetUpload.Json
