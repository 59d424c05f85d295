import WorksheetUpload.Proofs.Client.Sending
import WorksheetUpload.Proofs.Json.Rendering

/-! The body of the request that creates a bundle. Whoever reads it as JSON finds the metadata in it
unchanged, whatever characters they hold. -/
namespace WorksheetUpload.Creation

open Json (Datum Denotes)

/-- What a request says: one bundle, a data set, with its metadata. -/
def requestDatum (m : Metadata) : Datum :=
  .object [("data",.list [.object [
    ("type",.text "bundles"),
    ("attributes",.object [
      ("bundle_type",.text "dataset"),
      ("metadata",.object [
        ("name",.text m.name),
        ("description",.text m.description),
        ("tags",.list (m.tags.map .text))])])]])]

theorem elementsDatum_tags (tags : List String) :
    Json.elementsDatum (tags.map .text) = tags.map .text := by
  induction tags with
  | nil => rfl
  | cons tag tags ih => rw [List.map_cons,Json.elementsDatum,ih,Json.Value.datum,List.map_cons]

theorem datum_request (m : Metadata) : (request m).datum = requestDatum m := by
  simp only [request,Json.Value.datum,Json.membersDatum,Json.elementsDatum,elementsDatum_tags,
    requestDatum]

theorem requestDatum_injective : Function.Injective requestDatum := by
  rintro ⟨name,description,tags⟩ ⟨name',description',tags'⟩ h
  simp only [requestDatum,Datum.object.injEq,Datum.list.injEq,Datum.text.injEq,List.cons.injEq,
    Prod.mk.injEq,true_and,and_true] at h
  obtain ⟨rfl,rfl,same⟩ := h
  have text_injective : Function.Injective Datum.text := fun _ _ => Datum.text.inj
  rw [List.map_injective_iff.2 text_injective same]

/-- The body of the request that creates a bundle is UTF-8 of a text of JSON. Read as JSON, that text
gives the metadata back, the tags in their order, and nothing else can be read from it; so no two
metadata share a body. -/
theorem request_read_back (m : Metadata) :
    (∀ (c : Client) (url : Url) (r : Http.Request), c.createRequest url m = .ok r →
      Utf8.decode? r.body = some (requestText m).toList) ∧
    (∀ d : Datum, Denotes (requestText m).toList d ↔
      d = .object [("data",.list [.object [
        ("type",.text "bundles"),
        ("attributes",.object [
          ("bundle_type",.text "dataset"),
          ("metadata",.object [
            ("name",.text m.name),
            ("description",.text m.description),
            ("tags",.list (m.tags.map .text))])])]])]) ∧
    ∀ m' : Metadata, requestText m' = requestText m → m' = m := by
  have read (m : Metadata) (d : Datum) :
      Denotes (requestText m).toList d ↔ d = requestDatum m := by
    rw [requestText,String.toList_ofList,Json.denotes_render_iff,datum_request]
  refine ⟨?_,read m,?_⟩
  · intro c url r hr
    obtain ⟨-,body,-⟩ := Http.Request.to?_eq_ok hr
    rw [body,Utf8.ofString,Utf8.decode?_encode]
  · intro m' same
    have denoted := (read m' _).2 rfl
    rw [same] at denoted
    exact requestDatum_injective ((read m _).1 denoted)

end WorksheetUpload.Creation
