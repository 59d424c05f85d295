import WorksheetUpload.Creation
import WorksheetUpload.Proofs.Json.Denotes
import WorksheetUpload.Proofs.Json.Single

/-! Which bundles a response names: those whose ids its data list, in their order. One element without
an id makes the whole response useless. -/
namespace WorksheetUpload.Creation

open Json (Datum Denotes Written Placed)

/-- Whether a value names these bundles, in order: each element of its data has one id, a text. -/
def Names (d : Datum) (handles : List Handle) : Prop :=
  ∃ ds, d.Holds "data" (.list ds) ∧
    List.Forall₂ (fun d (h : Handle) => d.Holds "id" (.text h.text)) ds handles

theorem Names.exists_id {d : Datum} {handles : List Handle} (h : Names d handles) {ds : List Datum}
    (data : d.Holds "data" (.list ds)) {e : Datum} (he : e ∈ ds) :
    ∃ text, e.Holds "id" (.text text) := by
  obtain ⟨ds',data',each⟩ := h
  cases data.unique data'
  obtain ⟨i,rfl⟩ := List.mem_iff_get.1 he
  exact ⟨_,each.get i.2 (each.length_eq ▸ i.2)⟩

/-- What an element of the data means. -/
def handle? : Datum → Option Handle :=
  resource.ofDatum (Json.Shape.alone "id" fun d => d.text?.map Handle.mk)

/-- What a response means. -/
def handles? : Datum → Option (List Handle) :=
  response.ofDatum (Json.Shape.alone "data" (Datum.list? handle?))

theorem means_handle? : (Json.object resource).Means handle? := by
  apply Json.means_object
  simp only [Json.Shape.FieldsMean,resource,List.forall_mem_singleton]
  have same : (fun d : Datum => d.text?.map fun text (_ : Handle) => Handle.mk text) =
      Json.Shape.alone "id" (fun d => d.text?.map Handle.mk) "id" := by
    funext d
    cases d <;> rfl
  have id := Json.means_field Json.means_text "id" fun text (_ : Handle) => Handle.mk text
  rwa [same] at id

theorem means_handles? : (Json.object response).Means handles? := by
  apply Json.means_object
  simp only [Json.Shape.FieldsMean,response,List.forall_mem_singleton]
  exact Json.means_field (Json.means_list means_handle?) "data" fun handles _ => handles

theorem handle?_eq_some_iff {d : Datum} {h : Handle} :
    handle? d = some h ↔ d.Holds "id" (.text h.text) := by
  rw [handle?,Json.Shape.ofDatum_alone_eq_some_iff rfl rfl]
  constructor
  · rintro ⟨e,held,he⟩
    cases e <;> cases he
    exact held
  · intro held
    exact ⟨_,held,rfl⟩

theorem handles?_eq_some_iff {d : Datum} {handles : List Handle} :
    handles? d = some handles ↔ Names d handles := by
  rw [handles?,Json.Shape.ofDatum_alone_eq_some_iff rfl rfl]
  simp only [Datum.list?_eq_some_iff,handle?_eq_some_iff]
  constructor
  · rintro ⟨_,held,ds,rfl,each⟩
    exact ⟨ds,held,each⟩
  · rintro ⟨ds,held,each⟩
    exact ⟨_,held,ds,rfl,each⟩

/-- A response is decoded to the bundles that it names, and to nothing if an element of its data has
no id. -/
theorem handles_render_eq_ok_iff {p : Placed Written} {named : List Handle} :
    handles (Utf8.encode p.render) = .ok named ↔ Names p.value.datum named := by
  have decoded := Json.parse_render means_handles? p
  rw [← handles?_eq_some_iff,← decoded,← handles]
  cases handles (Utf8.encode p.render) <;> simp [Except.toOption]

theorem handles_encode_eq_ok_iff {text : List Char} {d : Datum} (h : Denotes text d)
    {named : List Handle} : handles (Utf8.encode text) = .ok named ↔ Names d named := by
  obtain ⟨p,rfl,rfl⟩ := h
  exact handles_render_eq_ok_iff

/-- The members of an object, in their order. -/
abbrev Members := List (String × Datum)

/-- Whether an object has one id, a text. -/
def HasId (es : Members) : Prop := (es.map Prod.fst).count "id" = 1 ∧ ∃ id, ("id",.text id) ∈ es

/-- Where the elements of its data are objects, a response names what their ids say. -/
theorem names_object_iff {ms : Members} {elements : List Members}
    (data : ("data",.list (elements.map .object)) ∈ ms) {named : List Handle} :
    Names (.object ms) named ↔ (ms.map Prod.fst).count "data" = 1 ∧
      List.Forall₂ (fun es (h : Handle) => ("id",.text h.text) ∈ es ∧
        (es.map Prod.fst).count "id" = 1) elements named := by
  constructor
  · rintro ⟨ds,held,each⟩
    obtain ⟨here,once⟩ := Datum.holds_object_iff.1 held
    cases Json.eq_of_count_eq_one once here data
    rw [List.forall₂_map_left_iff] at each
    exact ⟨once,each.imp fun es h held => Datum.holds_object_iff.1 held⟩
  · rintro ⟨once,each⟩
    refine ⟨_,.member data once,?_⟩
    rw [List.forall₂_map_left_iff]
    exact each.imp fun es h held => Datum.holds_object_iff.2 held

theorem exists_eq_map_object {ds : List Datum} (objects : ∀ d ∈ ds, ∃ es, d = .object es) :
    ∃ elements : List Members, ds = elements.map .object := by
  induction ds with
  | nil => exact ⟨[],rfl⟩
  | cons d ds ih =>
    obtain ⟨⟨es,rfl⟩,others⟩ := List.forall_mem_cons.1 objects
    obtain ⟨elements,rfl⟩ := ih others
    exact ⟨es :: elements,rfl⟩

theorem exists_handles_iff {elements : List Members} :
    (∃ named : List Handle, List.Forall₂ (fun es h => ("id",.text h.text) ∈ es ∧
      (es.map Prod.fst).count "id" = 1) elements named) ↔ ∀ es ∈ elements, HasId es := by
  constructor
  · rintro ⟨named,each⟩ es there
    obtain ⟨i,rfl⟩ := List.mem_iff_get.1 there
    obtain ⟨here,once⟩ := each.get i.2 (each.length_eq ▸ i.2)
    exact ⟨once,_,here⟩
  · intro each
    induction elements with
    | nil => exact ⟨[],.nil⟩
    | cons es elements ih =>
      obtain ⟨⟨once,id,here⟩,others⟩ := List.forall_mem_cons.1 each
      obtain ⟨named,rest⟩ := ih others
      exact ⟨⟨id⟩ :: named,.cons ⟨here,once⟩ rest⟩

/-- A text of an object is decoded, however it is laid out and whatever stands under other names, just
if its data come once, as a list, and each element of them has one id, a text. The bundles are then
those that the ids name, one for each element in their order; an element without a text for its id
spoils the whole. -/
theorem decoded_iff_each_named {text : List Char} {ms : Members}
    (object : Denotes text (.object ms))
    (objects : ∀ ds, ("data",.list ds) ∈ ms → ∀ d ∈ ds, ∃ es, d = .object es) :
    ((∃ named, handles (Utf8.encode text) = .ok named) ↔
      (ms.map Prod.fst).count "data" = 1 ∧ ∃ elements : List Members,
        ("data",.list (elements.map .object)) ∈ ms ∧ ∀ es ∈ elements, HasId es) ∧
    (∀ named (elements : List Members), handles (Utf8.encode text) = .ok named →
      ("data",.list (elements.map .object)) ∈ ms →
        List.Forall₂ (fun es (h : Handle) => ("id",.text h.text) ∈ es) elements named) ∧
    ∀ (elements : List Members) (es : Members), ("data",.list (elements.map .object)) ∈ ms →
      es ∈ elements → (∀ id, ("id",.text id) ∉ es) →
        ∃ fault, handles (Utf8.encode text) = .error fault := by
  have decoded (named : List Handle) :
      handles (Utf8.encode text) = .ok named ↔ Names (.object ms) named :=
    handles_encode_eq_ok_iff object
  have data {named : List Handle} {elements : List Members}
      (ok : handles (Utf8.encode text) = .ok named)
      (here : ("data",.list (elements.map .object)) ∈ ms) :=
    (names_object_iff here).1 ((decoded named).1 ok)
  refine ⟨⟨?_,?_⟩,?_,?_⟩
  · rintro ⟨named,ok⟩
    obtain ⟨ds,held,-⟩ := (decoded named).1 ok
    obtain ⟨here,once⟩ := Datum.holds_object_iff.1 held
    obtain ⟨elements,rfl⟩ := exists_eq_map_object (objects ds here)
    exact ⟨once,elements,here,exists_handles_iff.1 ⟨named,(data ok here).2⟩⟩
  · rintro ⟨once,elements,here,each⟩
    obtain ⟨named,each⟩ := exists_handles_iff.2 each
    exact ⟨named,(decoded named).2 ((names_object_iff here).2 ⟨once,each⟩)⟩
  · intro named elements ok here
    exact (data ok here).2.imp fun es h held => held.1
  · intro elements es here there nameless
    cases outcome : handles (Utf8.encode text) with
    | error fault => exact ⟨fault,rfl⟩
    | ok named =>
      obtain ⟨-,id,named⟩ := exists_handles_iff.1 ⟨named,(data outcome here).2⟩ es there
      exact absurd named (nameless id)

/-- An id beyond the basic plane, written as a pair of surrogates, among members of other names. -/
theorem escaped_handle_decoded :
    let text := ("\x7b\"x\":[\x7b\"id\":0\x7d]," ++
      "\"data\":[\x7b\"id\":\"\\uD83d\\ude00\" ,\"y\":[]\x7d]\x7d").toList
    let ms : Members := [("x",.list [.object [("id",.number ⟨false,[0],[],none⟩)]]),
      ("data",.list [.object [("id",.text "😀"),("y",.list [])]])]
    Denotes text (.object ms) ∧ handles (Utf8.encode text) = .ok [⟨"😀"⟩] := by
  intro text ms
  let high : Json.CodeUnit := ⟨⟨13,true⟩,⟨8,false⟩,⟨3,false⟩,⟨13,false⟩⟩
  let low : Json.CodeUnit := ⟨⟨13,false⟩,⟨14,false⟩,⟨0,false⟩,⟨0,false⟩⟩
  let face : Json.Quoted :=
    [.pair high low (by unfold Json.CodeUnit.IsHigh Json.CodeUnit.IsLow; decide)]
  let id : Json.Quoted := [.plain 'i' (by decide),.plain 'd' (by decide)]
  let data : Json.Quoted := [.plain 'd' (by decide),.plain 'a' (by decide),.plain 't' (by decide),
    .plain 'a' (by decide)]
  let zero : Json.WrittenNumber := ⟨false,⟨0,[]⟩,none,none,fun _ => rfl⟩
  have string : face.string = "😀" := by decide +kernel
  have object : Denotes text (.object ms) := by
    refine ⟨⟨[],.object [] [
      ⟨⟨[],[.plain 'x' (by decide)],[]⟩,
        ⟨[],.list [] [⟨[],.object [] [⟨⟨[],id,[]⟩,⟨[],.number zero,[]⟩⟩],[]⟩],[]⟩⟩,
      ⟨⟨[],data,[]⟩,⟨[],.list [] [⟨[],.object [] [
        ⟨⟨[],id,[]⟩,⟨[],.text face,[.space]⟩⟩,
        ⟨⟨[],[.plain 'y' (by decide)],[]⟩,⟨[],.list [] [],[]⟩⟩],[]⟩],[]⟩⟩],[]⟩,?_,?_⟩
    · decide +kernel
    · simp only [Written.datum,Json.entriesData,Json.placesData,string]
      rfl
  have here : ("data",.list (([[("id",.text "😀"),("y",.list [])]] : List Members).map .object)) ∈ ms :=
    List.mem_cons_of_mem _ List.mem_cons_self
  obtain ⟨decoded,order,-⟩ := decoded_iff_each_named object (by simp [ms])
  obtain ⟨named,ok⟩ := decoded.2 ⟨by decide,_,here,by simp [HasId]⟩
  refine ⟨object,ok.trans ?_⟩
  cases order named _ ok here with
  | cons first no_more =>
    cases no_more
    simp only [List.mem_cons,Prod.mk.injEq,Datum.text.injEq,true_and,reduceCtorEq,and_false,
      List.not_mem_nil,or_false] at first
    rw [← first]

end WorksheetUpload.Creation
