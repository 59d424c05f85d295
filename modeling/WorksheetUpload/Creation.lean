import WorksheetUpload.Bundle
import WorksheetUpload.Json.Reader
import WorksheetUpload.Json.Value

/-! The request that creates a bundle, and the response that names it. -/
namespace WorksheetUpload.Creation

/-- A request for one data set with the given metadata. -/
def request (m : Metadata) : Json.Value :=
  .object [("data",.list [.object [
    ("type",.text "bundles"),
    ("attributes",.object [
      ("bundle_type",.text "dataset"),
      ("metadata",.object [
        ("name",.text m.name),
        ("description",.text m.description),
        ("tags",.list (m.tags.map .text))])])]])]

def requestText (m : Metadata) : String := String.ofList (request m).render

/-- A bundle in a response: an object with an `id`. -/
def resource : Json.Shape Handle where
  title := "CreatedResource"
  blank := ⟨""⟩
  mandatory := true
  fields := [.of "id" Json.text fun text _ => ⟨text⟩]

/-- A response: an object whose `data` lists the bundles that were made. -/
def response : Json.Shape (List Handle) where
  title := "CreateBundleResponse"
  blank := []
  mandatory := true
  fields := [.of "data" (Json.list (Json.object resource)) fun handles _ => handles]

/-- The handles in a response. -/
def handles (body : Bytes) : Except Json.Fault (List Handle) :=
  Json.parse (Json.object response) body

end WorksheetUpload.Creation
