import WorksheetUpload.Client
import WorksheetUpload.Http.Network
import WorksheetUpload.Rejection
import WorksheetUpload.UploadError

/-! The bundle service as an upload sees it: two calls, over whatever state stands behind them. -/
namespace WorksheetUpload

structure Service (σ : Type) where
  /-- The address of the contents of a bundle, as it is shown. -/
  contentsUrl : Handle → String
  create : Target → Metadata → σ → Except UploadError Handle × σ
  upload : Handle → ContentParams → Bytes → σ → Except UploadError Unit × σ

namespace Client

def unsent (message : String) : String := "Failed to send request: " ++ message
def invalidUrl (message : String) : String := "Invalid server URL: " ++ message
def unreadable (message : String) : String := "Failed to parse response: " ++ message

/-- What is said of a body that was cut off. -/
def cutOff : String :=
  "request or response body error: error reading a body from connection: " ++
    "end of file before message length reached"

/-- What is said before the fault of a body that could not be decoded. -/
def undecodable : String := "error decoding response body: "

/-- The handle in a response to the request that creates a bundle. -/
def handleOf [Http.Decoding] (shown : String) (r : Http.Response) : Except UploadError Handle :=
  if !r.status.isSuccess then .error (.creation shown (Rejection.explanation r.status r.text))
  else match r.received? with
    | none => .error (.creation shown (unreadable cutOff))
    | some body =>
      match Creation.handles body with
      | .error f => .error (.creation shown (unreadable (undecodable ++ f.message body)))
      | .ok [] => .error (.noHandle shown)
      | .ok (h :: _) => .ok h

/-- Creates a bundle over a network. -/
def create [Http.Decoding] (c : Client) (t : Target) (m : Metadata) (n : Http.Network) :
    Except UploadError Handle × Http.Network :=
  let shown := c.createUrl t
  match c.bundlesUrl t with
  | .error f => (.error (.creation shown (invalidUrl f.message)),n)
  | .ok url =>
    match c.createRequest url m with
    | .error e => (.error (.creation shown (unsent e.message)),n)
    | .ok request =>
      match n.send request with
      | (.error e,n) => (.error (.creation shown (unsent e.message)),n)
      | (.ok response,n) => (handleOf shown response,n)

/-- Puts contents into a bundle over a network. The body of a success is not looked at. -/
def upload [Http.Decoding] (c : Client) (h : Handle) (p : ContentParams) (contents : Bytes)
    (n : Http.Network) : Except UploadError Unit × Http.Network :=
  let shown := c.contentsUrl h
  match c.contentsRequest h p contents with
  | .error e => (.error (.contents shown (unsent e.message)),n)
  | .ok request =>
    match n.send request with
    | (.error e,n) => (.error (.contents shown (unsent e.message)),n)
    | (.ok r,n) =>
      (if r.status.isSuccess then .ok ()
        else .error (.contents shown (Rejection.explanation r.status r.text)),n)

/-- The service that a client reaches over a network. -/
def service [Http.Decoding] (c : Client) : Service Http.Network :=
  ⟨c.contentsUrl,c.create,c.upload⟩

end Client

/-- A refusal in a script, which takes its address from the call that it answers. -/
inductive Refusal
  | creation (message : String)
  | contents (message : String)
  | reading (message : String)
  | noHandle
  deriving DecidableEq, Repr

def Refusal.at (url : String) : Refusal → UploadError
  | creation message => .creation url message
  | contents message => .contents url message
  | reading message => .reading url (.described message)
  | noHandle => .noHandle url

/-- Answers that are given in order, and then a success each time. -/
structure Script where
  creations : List (Except Refusal Handle)
  uploads : List (Except Refusal Unit)

namespace Script

/-- The handle that is given when the script has ended. -/
def lastHandle : Handle := ⟨"0xfeed"⟩

def create (url : String) (s : Script) : Except UploadError Handle × Script :=
  match s.creations with
  | [] => (.ok lastHandle,s)
  | a :: rest => (a.mapError (Refusal.at url),{s with creations := rest})

def upload (url : String) (s : Script) : Except UploadError Unit × Script :=
  match s.uploads with
  | [] => (.ok (),s)
  | a :: rest => (a.mapError (Refusal.at url),{s with uploads := rest})

/-- A service that follows a script, with the addresses of a client. -/
def service (c : Client) : Service Script where
  contentsUrl := c.contentsUrl
  create := fun t _ s => s.create (c.createUrl t)
  upload := fun h _ _ s => s.upload (c.contentsUrl h)

end Script
end WorksheetUpload
