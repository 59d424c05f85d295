import WorksheetUpload.Url.Encoding
import WorksheetUpload.Url.Host

/-! Absolute addresses, and their one written form. All parts are kept encoded. -/
namespace WorksheetUpload

/-- What a request goes to: a host, a port other than that of the scheme, and who asks. -/
structure Url.Authority where
  username : List Char
  password : Option (List Char)
  host : Url.Host
  port : Option Nat
  deriving DecidableEq, Repr

/-- A path is a list of segments, each with a slash before it, or one undivided text. -/
inductive Url.Path
  | segments (pieces : List (List Char))
  | undivided (text : List Char)
  deriving DecidableEq, Repr

structure Url where
  scheme : List Char
  authority : Option Url.Authority
  path : Url.Path
  query : Option (List Char)
  fragment : Option (List Char)
  deriving DecidableEq, Repr

namespace Url

/-- The ports of the schemes that the network knows. -/
def defaultPort (scheme : List Char) : Option Nat :=
  if scheme = "http".toList ∨ scheme = "ws".toList then some 80
  else if scheme = "https".toList ∨ scheme = "wss".toList then some 443
  else if scheme = "ftp".toList then some 21
  else none

def isFile (scheme : List Char) : Bool := scheme == "file".toList

/-- Whether addresses of a scheme always have a host or name a file. -/
def isSpecial (scheme : List Char) : Bool := isFile scheme || (defaultPort scheme).isSome

/-- Whether requests can be sent to addresses of a scheme. -/
def isHttp (scheme : List Char) : Bool := scheme == "http".toList || scheme == "https".toList

def Authority.credentials (a : Authority) : List Char :=
  match a.password with
  | some p => a.username ++ ':' :: p ++ ['@']
  | none => if a.username.isEmpty then [] else a.username ++ ['@']

def Authority.render (a : Authority) : List Char :=
  a.credentials ++ a.host.render ++
    match a.port with
    | some p => ':' :: Nat.toDigits 10 p
    | none => []

def Path.render : Path → List Char
  | segments pieces => pieces.flatMap ('/' :: ·)
  | undivided text => text

/-- What stands before the path. Without an authority, a path must not look like one. -/
def beforePath (u : Url) : List Char :=
  match u.authority with
  | some a => '/' :: '/' :: a.render
  | none =>
    match u.path with
    | .segments ([] :: _ :: _) => ['/','.']
    | _ => []

/-- A part of an address with its mark, if it is there. -/
def marked (mark : Char) : Option (List Char) → List Char
  | some text => mark :: text
  | none => []

def render (u : Url) : List Char :=
  u.scheme ++ ':' :: u.beforePath ++ u.path.render ++ marked '?' u.query ++ marked '#' u.fragment

def text (u : Url) : String := String.ofList u.render

def hasHost (u : Url) : Bool := u.authority.any fun a => !a.host.isEmpty

/-- Adds name and value pairs behind the query that is there. -/
def addPairs (u : Url) (pairs : List (List Char × List Char)) : Url :=
  {u with query := some (Form.append (u.query.getD []) pairs)}

/-- Takes the credentials out. -/
def withoutCredentials (u : Url) : Url :=
  {u with authority := u.authority.map fun a => {a with username := [],password := none}}

/-- The address as a request line and its host name it. -/
def onWire (u : Url) : Url := {u.withoutCredentials with fragment := none}

end Url
end WorksheetUpload
