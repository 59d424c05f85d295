import WorksheetUpload.Http.Charset
import WorksheetUpload.Http.Request
import WorksheetUpload.Http.Status
import WorksheetUpload.IoFault

/-! Requests on their way. The network answers each request that reaches it with the next of its
replies; one that cannot be sent uses up none. -/
namespace WorksheetUpload.Http

/-- A response as it was sent, with the octets that were announced and never came. -/
structure Response where
  status : Status
  contentType : Option String
  body : Bytes
  missing : Nat
  deriving DecidableEq, Repr

namespace Response

/-- Responses of these codes have no body, whatever is sent. -/
def bodyless (r : Response) : Bool := r.status.code == 204 || r.status.code == 304

/-- The body, if it arrived whole. -/
def received? (r : Response) : Option Bytes :=
  if r.bodyless then some [] else if r.missing = 0 then some r.body else none

/-- The text of the body; a body that was cut off counts as empty. -/
def text [Decoding] (r : Response) : String :=
  String.ofList (Decoding.decode r.contentType (r.received?.getD []))

end Response

/-- What becomes of a request that arrives. -/
inductive Reply
  /-- The connection ends without a response. -/
  | closed
  | answered (response : Response)
  deriving DecidableEq, Repr

/-- The way to a server: what keeps connections from being made, the replies to come, the reply
when those are used up, and the requests that arrived. -/
structure Network where
  fault : Option IoFault
  replies : List Reply
  otherwise : Reply
  arrived : List Request

/-- Why a request brought no response. -/
inductive SendError
  | badScheme (url : Url)
  | badAddress (url : Url)
  | noConnection (url : Url) (fault : IoFault)
  | closed (url : Url)
  deriving DecidableEq

/-- The words for a request on which the connection failed. -/
def unsent (url : Url) (reason : String) : String :=
  "error sending request for url (" ++ url.text ++ "): " ++ reason

def SendError.message : SendError → String
  | badScheme url => unusable url schemeNotAllowed
  | badAddress url => unusable url "Parsed Url is not a valid Uri"
  | noConnection url fault =>
    unsent url ("error trying to connect: tcp connect error: " ++ fault.message)
  | closed url => unsent url "connection closed before message completed"

/-- The longest address that can be sent. -/
def addressLimit : Nat := 65534

/-- Whether an address can be written on a request line: some marks that a domain name may hold
are not allowed there. -/
def isSendable (u : Url) : Bool :=
  u.render.length ≤ addressLimit &&
    u.authority.all fun a => a.host.render.all fun c => !("\"`\x7b\x7d".toList.contains c)

namespace Network

/-- Replies that follow a script, over connections that are always made. -/
def scripted (replies : List Reply) (otherwise : Reply) : Network := ⟨none,replies,otherwise,[]⟩

/-- A request that has arrived is answered. -/
def answer (n : Network) (r : Request) : Except SendError Response × Network :=
  let arrived := n.arrived ++ [{r with url := r.url.onWire}]
  let result : Reply → Except SendError Response
    | .closed => .error (.closed r.url)
    | .answered response => .ok response
  match n.replies with
  | reply :: replies => (result reply,{n with replies,arrived})
  | [] => (result n.otherwise,{n with arrived})

/-- Sends a request. -/
def send (n : Network) (r : Request) : Except SendError Response × Network :=
  if !Url.isHttp r.url.scheme then (.error (.badScheme r.url),n)
  else if !isSendable r.url then (.error (.badAddress r.url),n)
  else match n.fault with
    | some fault => (.error (.noConnection r.url fault),n)
    | none => n.answer r

end Network
end WorksheetUpload.Http
