import WorksheetUpload.Text.Utf8
import WorksheetUpload.Url.Parse

/-! Requests before they are sent, and who they say is asking. -/
namespace WorksheetUpload

/-! Octets in base 64: three octets make four characters, and padding fills the last group. -/
namespace Text.Base64

def digit (n : Nat) : Char :=
  if n < 26 then Char.ofNat (65+n)
  else if n < 52 then Char.ofNat (71+n)
  else if n < 62 then Char.ofNat (n-4)
  else if n = 62 then '+'
  else '/'

def encode : Bytes → List Char
  | a :: b :: c :: rest =>
    let n := a.toNat*65536 + b.toNat*256 + c.toNat
    digit (n/262144) :: digit (n/4096%64) :: digit (n/64%64) :: digit (n%64) :: encode rest
  | [a,b] =>
    let n := a.toNat*65536 + b.toNat*256
    [digit (n/262144),digit (n/4096%64),digit (n/64%64),'=']
  | [a] =>
    let n := a.toNat*65536
    [digit (n/262144),digit (n/4096%64),'=','=']
  | [] => []

end Text.Base64

namespace Http

inductive Method
  | post | put
  deriving DecidableEq, Repr

/-- The proof of identity that a request carries. -/
inductive Authorization
  | bearer (token : String)
  | basic (user password : List Char)
  deriving DecidableEq, Repr

def Authorization.header : Authorization → String
  | bearer token => "Bearer " ++ token
  | basic user password =>
    "Basic " ++ String.ofList (Text.Base64.encode (Utf8.encode (user ++ ':' :: password)))

/-- Whether a token can stand in a header: no controls but the tab. -/
def isHeaderText (s : String) : Bool :=
  (Utf8.ofString s).all fun b => (0x20 ≤ b && b != 0x7F) || b == 0x09

structure Request where
  method : Method
  url : Url
  authorization : Option Authorization
  contentType : String
  body : Bytes
  deriving DecidableEq

/-- Why a request cannot be built: its address cannot be read, or names no host. -/
inductive BuildError
  | badUrl (fault : Url.Fault)
  | noHost (url : Url)
  deriving DecidableEq

/-- The words for an address with which nothing can be done. -/
def unusable (url : Url) (reason : String) : String :=
  "builder error for url (" ++ url.text ++ "): " ++ reason

def schemeNotAllowed : String := "URL scheme is not allowed"

def BuildError.message : BuildError → String
  | badUrl fault => "builder error: " ++ fault.message
  | noHost url => unusable url schemeNotAllowed

/-- The user and password that an address holds, when both are text and one is there. A password
that is no text counts as none. -/
def credentials? (u : Url) : Option (List Char × List Char) := do
  let a ← u.authority
  let user ← Utf8.decode? (Url.decode a.username)
  let password := a.password.bind fun p => Utf8.decode? (Url.decode p)
  if user.isEmpty && password.isNone then none else some (user,password.getD [])

/-- A request to an address. Credentials leave the address, and prove the identity unless a token
does. -/
def Request.to? (method : Method) (url : Url) (token : Option String) (contentType : String)
    (body : Bytes) : Except BuildError Request :=
  if !url.hasHost then .error (.noHost url)
  else
    let bearer := token.map Authorization.bearer
    match credentials? url with
    | some (user,password) =>
      .ok ⟨method,url.withoutCredentials,bearer.or (some (.basic user password)),contentType,body⟩
    | none => .ok ⟨method,url,bearer,contentType,body⟩

/-- Adds pairs to the query of a request. -/
def Request.addPairs (r : Request) (pairs : List (List Char × List Char)) : Request :=
  {r with url := r.url.addPairs pairs}

end Http
end WorksheetUpload
