import Mathlib.Data.List.Forall2
import WorksheetUpload.Proofs.Json.Shape

/-! Objects that are one field and nothing else. Such an object may be written as a list of one
element, with that element for the field. -/
namespace WorksheetUpload.Json

/-- Whether a value is the one field of an object: it comes under the name, as nothing else does, or is
all there is in a list that stands for the object. -/
inductive Datum.Holds (name : String) : Datum → Datum → Prop
  | member {ms : List (String × Datum)} {d : Datum} (here : (name,d) ∈ ms)
      (once : (ms.map Prod.fst).count name = 1) : Holds name (.object ms) d
  | element (d : Datum) : Holds name (.list [d]) d

theorem Datum.holds_object_iff {name : String} {ms : List (String × Datum)} {d : Datum} :
    Datum.Holds name (.object ms) d ↔ (name,d) ∈ ms ∧ (ms.map Prod.fst).count name = 1 := by
  constructor
  · rintro ⟨here,once⟩
    exact ⟨here,once⟩
  · rintro ⟨here,once⟩
    exact .member here once

theorem eq_of_count_eq_one {name : String} {d e : Datum} {ms : List (String × Datum)}
    (once : (ms.map Prod.fst).count name = 1) (hd : (name,d) ∈ ms) (he : (name,e) ∈ ms) : d = e := by
  induction ms with
  | nil => cases hd
  | cons m ms ih =>
    by_cases same : m.1 = name
    case pos =>
      have gone : name ∉ ms.map Prod.fst := by
        rw [← List.count_eq_zero]
        simpa [same] using once
      have first {x : Datum} (hx : (name,x) ∈ m :: ms) : (name,x) = m :=
        (List.mem_cons.1 hx).resolve_right fun later => gone (List.mem_map_of_mem later)
      exact congrArg Prod.snd ((first hd).trans (first he).symm)
    case neg =>
      have later {x : Datum} (hx : (name,x) ∈ m :: ms) : (name,x) ∈ ms :=
        (List.mem_cons.1 hx).resolve_left fun first => same (congrArg Prod.fst first).symm
      rw [List.map_cons,List.count_cons_of_ne same] at once
      exact ih once (later hd) (later he)

theorem Datum.Holds.unique {name : String} {d e e' : Datum} (h : Holds name d e)
    (h' : Holds name d e') : e = e' := by
  cases h with
  | member here once =>
    cases h' with
    | member here' _ => exact eq_of_count_eq_one once here here'
  | element =>
    cases h'
    rfl

theorem Datum.list?_eq_some_iff {meaning : Datum → Option α} {d : Datum} {vs : List α} :
    d.list? meaning = some vs ↔
      ∃ ds, d = .list ds ∧ List.Forall₂ (fun d v => meaning d = some v) ds vs := by
  have all (ds : List Datum) (vs : List α) : ds.mapM meaning = some vs ↔
      List.Forall₂ (fun d v => meaning d = some v) ds vs := by
    induction ds generalizing vs with
    | nil => cases vs <;> simp
    | cons d ds ih =>
      cases vs with
      | nil => simp [List.mapM_cons,Option.bind_eq_some_iff]
      | cons v vs => simp [List.mapM_cons,Option.bind_eq_some_iff,ih]
  cases d <;> simp [list?,all]

namespace Shape

/-- The meaning of a field that is all there is to an object. -/
def alone (name : String) (meaning : Datum → Option σ) (key : String) (d : Datum) :
    Option (σ → σ) :=
  if key = name then (meaning d).map fun v _ => v else none

theorem alone_eq_some {name : String} {meaning : Datum → Option σ} {d : Datum} {change : σ → σ}
    (h : alone name meaning name d = some change) (x : σ) : meaning d = some (change x) := by
  rw [alone,if_pos rfl] at h
  obtain ⟨v,hv,rfl⟩ := Option.map_eq_some_iff.1 h
  exact hv

section

variable {s : Shape σ} {name : String} {meaning : Datum → Option σ} (names : s.names = [name])
  (mandatory : s.mandatory = true)
include names mandatory

theorem collect_alone_eq_some_iff {ms : List (String × Datum)} {v : σ} :
    s.collect (alone name meaning) [] s.blank ms = some v ↔
      ∃ e, Datum.Holds name (.object ms) e ∧ meaning e = some v := by
  have known : name ∈ s.names := names ▸ List.mem_singleton_self name
  have collected : (∃ v, s.collect (alone name meaning) [] s.blank ms = some v) ↔ _ :=
    exists_collect_iff ms [] s.blank
  simp only [names,mandatory,List.mem_singleton,forall_eq,List.not_mem_nil,if_false,false_or,
    true_imp_iff] at collected
  have meant {u : σ} {e : Datum} (h : s.collect (alone name meaning) [] s.blank ms = some u)
      (here : (name,e) ∈ ms) : meaning e = some u := by
    obtain ⟨-,given⟩ := collect_get id name known (fun k hk _ _ h => by simp [alone,hk] at h) h
    obtain ⟨change,x,hc,hu⟩ := given e here
    cases (hu : u = change x)
    exact alone_eq_some hc x
  constructor
  · intro h
    obtain ⟨once,-,present⟩ := collected.1 ⟨v,h⟩
    obtain ⟨⟨_,e⟩,here,rfl⟩ := List.mem_map.1 present
    exact ⟨e,.member here (Nat.le_antisymm once (List.count_pos_iff.2 present)),meant h here⟩
  · rintro ⟨e,⟨here,once⟩,hv⟩
    have each (m : String × Datum) (hm : m ∈ ms) (hn : m.1 = name) :
        (alone name meaning m.1 m.2).isSome = true := by
      obtain rfl := hn
      cases eq_of_count_eq_one once hm here
      simp [alone,hv]
    obtain ⟨u,hu⟩ := collected.2 ⟨Nat.le_of_eq once,each,List.mem_map_of_mem here⟩
    cases (meant hu here).symm.trans hv
    exact hu

theorem inOrder_alone_eq_some_iff {ds : List Datum} {v : σ} :
    s.inOrder (alone name meaning) s.fields s.blank ds = some v ↔
      ∃ e, Datum.Holds name (.list ds) e ∧ meaning e = some v := by
  obtain ⟨f,hf⟩ : ∃ f, s.fields = [f] := by
    rw [← List.length_eq_one_iff,← List.length_map,← Shape.names,names]
    rfl
  have hn : f.name = name := by simpa [Shape.names,hf] using names
  rw [hf]
  constructor
  · intro h
    cases ds with
    | nil => simp [inOrder,mandatory] at h
    | cons e ds =>
      obtain ⟨change,hc,h⟩ := Option.bind_eq_some_iff.1 h
      cases ds with
      | nil =>
        cases h
        exact ⟨e,.element e,alone_eq_some (hn ▸ hc) s.blank⟩
      | cons => cases h
  · rintro ⟨e,⟨⟩,hv⟩
    simp [inOrder,alone,hn,hv]

/-- An object of one field comes to what the field means, and must have it. -/
theorem ofDatum_alone_eq_some_iff {d : Datum} {v : σ} :
    s.ofDatum (alone name meaning) d = some v ↔
      ∃ e, Datum.Holds name d e ∧ meaning e = some v := by
  cases d with
  | object ms => exact collect_alone_eq_some_iff names mandatory
  | list ds => exact inOrder_alone_eq_some_iff names mandatory
  | _ =>
    simp only [ofDatum,reduceCtorEq,false_iff,not_exists,not_and]
    rintro e ⟨⟩

end

end Shape

end WorksheetUpload.Json
