import WorksheetUpload.Config.Basic
import WorksheetUpload.Creation
import WorksheetUpload.FileName
import WorksheetUpload.Http.Request

/-! The two requests of an upload: one creates a bundle on a worksheet, the other puts the contents
of a file into it. -/
namespace WorksheetUpload

/-- What the requests need of the configuration. A token can stand in a header. -/
structure Client where
  base : List Char
  token : Option String
  token_ok : ∀ t ∈ token, Http.isHeaderText t

namespace Client

/-- Slashes at the end of the server's address are dropped. -/
def baseOf (serverUrl : String) : List Char :=
  (serverUrl.toList.reverse.dropWhile (· == '/')).reverse

/-- A client, unless the token cannot stand in a header. -/
def ofConfig? (c : Config) : Option Client :=
  if h : ∀ t ∈ c.token, Http.isHeaderText t then some ⟨baseOf c.serverUrl,c.token,h⟩ else none

/-- What is said when there is no client. -/
def badToken : String := "failed to parse header value"

def bundlesText (c : Client) : List Char := c.base ++ "/bundles".toList

/-- The pairs that tell the service where a bundle goes. -/
def targetPairs (t : Target) : List (List Char × List Char) :=
  ("worksheet".toList,t.worksheet.toList) ::
    match t.after with
    | some k => [("after_sort_key".toList,k.text.toList)]
    | none => []

/-- The address that creates bundles. -/
def bundlesUrl (c : Client) (t : Target) : Except Url.Fault Url :=
  (Url.parse (String.ofList c.bundlesText)).map fun u => u.addPairs (targetPairs t)

/-- The address that creates bundles, as it is shown; one that cannot be read is shown bare. -/
def createUrl (c : Client) (t : Target) : String :=
  match c.bundlesUrl t with
  | .ok u => u.text
  | .error _ => String.ofList c.bundlesText

/-- The address of the contents of a bundle. The handle is put in as it is. -/
def contentsUrl (c : Client) (h : Handle) : String :=
  String.ofList (c.bundlesText ++ '/' :: h.text.toList ++ "/contents/blob/".toList)

/-- The request that creates a bundle. -/
def createRequest (c : Client) (url : Url) (m : Metadata) : Except Http.BuildError Http.Request :=
  Http.Request.to? .post url c.token "application/json" (Utf8.ofString (Creation.requestText m))

def flag (b : Bool) : List Char := if b then ['1'] else ['0']

def contentPairs (p : ContentParams) : List (List Char × List Char) :=
  [("finalize".toList,flag p.finalize),("filename".toList,p.filename.toList),
    ("unpack".toList,flag p.unpack)]

/-- The request that puts contents into a bundle. -/
def contentsRequest (c : Client) (h : Handle) (p : ContentParams) (contents : Bytes) :
    Except Http.BuildError Http.Request :=
  match Url.parse (c.contentsUrl h) with
  | .error f => .error (.badUrl f)
  | .ok url =>
    (Http.Request.to? .put url c.token "application/octet-stream" contents).map fun r =>
      r.addPairs (contentPairs p)

end Client
end WorksheetUpload
