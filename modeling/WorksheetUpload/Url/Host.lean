import WorksheetUpload.Url.Domain

/-! Hosts of addresses: domain names, and addresses by numbers. -/
namespace WorksheetUpload.Url

/-- Why a text is no address. -/
inductive Fault
  | noScheme | emptyHost | badDomain | badHostCharacter | badPort | badIpv4 | badIpv6
  deriving DecidableEq, Repr

def Fault.message : Fault → String
  | noScheme => "relative URL without a base"
  | emptyHost => "empty host"
  | badDomain => "invalid international domain name"
  | badHostCharacter => "invalid domain character"
  | badPort => "invalid port number"
  | badIpv4 => "invalid IPv4 address"
  | badIpv6 => "invalid IPv6 address"

/-! IPv4 addresses as hosts: up to four numbers, in base ten, eight or sixteen, the last of which
fills the octets that are left. -/
namespace Ipv4

/-- A number in a base; `none` when a character is no digit of it. -/
def inBase (base : Nat) (text : List Char) : Option Nat :=
  text.foldl (fun n c => do
    let n ← n
    let d ← hexDigit? c
    if d < base then some (n*base+d) else none) (some 0)

/-- One part of an address. A prefix tells the base, and stands for zero by itself. -/
def part? : List Char → Option Nat
  | [] => none
  | '0' :: 'x' :: digits | '0' :: 'X' :: digits => inBase 16 digits
  | '0' :: digits@(_ :: _) => inBase 8 digits
  | digits => inBase 10 digits

/-- The parts of a host; an empty one at the end is dropped. -/
def parts (host : List Char) : List (List Char) :=
  let pieces := splitAt (· == '.') host
  if pieces.length > 1 ∧ pieces.getLast? = some [] then pieces.dropLast else pieces

/-- Whether a host must be read as an address, because its last part is a number. -/
def endsInNumber (host : List Char) : Bool :=
  match (parts host).getLast? with
  | none => false
  | some last => (!last.isEmpty && last.all Char.isDigit) || (part? last).isSome

/-- Joins the numbers of an address; all but the last are octets. -/
def combine (numbers : List Nat) : Option Nat :=
  match numbers.reverse with
  | [] => none
  | last :: others =>
    let octets := others.reverse
    let room := Nat.pow 256 (4-octets.length)
    if 4 < numbers.length ∨ octets.any (255 < ·) ∨ room ≤ last then none
    else some (octets.foldl (fun n d => n*256+d) 0 * room + last)

def parse (host : List Char) : Except Fault Nat :=
  let pieces := parts host
  if 4 < pieces.length then .error .badIpv4
  else match (pieces.mapM part?).bind combine with
    | some n => .ok n
    | none => .error .badIpv4

/-- Four octets with dots between them. -/
def render (address : Nat) : List Char :=
  let octet (i : Nat) := Nat.toDigits 10 (address / Nat.pow 256 i % 256)
  join ['.'] [octet 3,octet 2,octet 1,octet 0]

end Ipv4

/-! IPv6 addresses as hosts: eight pieces of sixteen bits, of which one run of zeros may be left
out, and the last two of which may be written as an IPv4 address. -/
namespace Ipv6

/-- A piece of one to four hexadecimal digits. -/
def piece? (text : List Char) : Option Nat :=
  if text.isEmpty || 4 < text.length then none else Ipv4.inBase 16 text

/-- An octet in decimal, without leading zeros. -/
def octet? (text : List Char) : Option Nat :=
  match text with
  | [] => none
  | '0' :: _ :: _ => none
  | _ => (Ipv4.inBase 10 text).filter (· < 256)

/-- The two pieces that an IPv4 address fills. -/
def embedded? (text : List Char) : Option (List Nat) :=
  match (splitAt (· == '.') text).mapM octet? with
  | some [a,b,c,d] => some [a*256+b,c*256+d]
  | _ => none

/-- Pieces between colons; the last may be an IPv4 address where one is allowed. -/
def pieces? (embeddable : Bool) : List (List Char) → Option (List Nat)
  | [] => some []
  | [text] => if embeddable && text.contains '.' then embedded? text else (piece? text).map ([·])
  | text :: more => do
    let n ← piece? text
    let ns ← pieces? embeddable more
    some (n :: ns)

/-- The pieces of a side of the gap, which may be empty. -/
def side? (embeddable : Bool) (text : List Char) : Option (List Nat) :=
  if text.isEmpty then some [] else pieces? embeddable (splitAt (· == ':') text)

/-- The texts before and after the first double colon. -/
def gap? : List Char → Option (List Char × List Char)
  | ':' :: ':' :: rest => some ([],rest)
  | c :: rest => (gap? rest).map fun p => (c :: p.1,p.2)
  | [] => none

/-- A gap stands for at least one piece. -/
def parse (text : List Char) : Except Fault (List Nat) :=
  let pieces := match gap? text with
    | some (left,right) => do
      let a ← side? false left
      let b ← side? true right
      if a.length + b.length ≤ 7 then some (a ++ List.replicate (8-a.length-b.length) 0 ++ b)
      else none
    | none => do
      let a ← side? true text
      if a.length = 8 then some a else none
  match pieces with
  | some p => .ok p
  | none => .error .badIpv6

/-- Lengths of the runs of zeros that begin at each piece. -/
def zeroRuns : List Nat → List Nat
  | [] => []
  | p :: ps =>
    let runs := zeroRuns ps
    (if p = 0 then runs.headD 0 + 1 else 0) :: runs

/-- Pieces in hexadecimal with colons between them; the first longest run of two zeros or more is
left out. -/
def render (pieces : List Nat) : List Char :=
  let hex (ps : List Nat) := join [':'] (ps.map (Nat.toDigits 16))
  let runs := zeroRuns pieces
  let longest := runs.foldl max 0
  if longest < 2 then hex pieces
  else
    let start := runs.findIdx (· == longest)
    hex (pieces.take start) ++ ':' :: ':' :: hex (pieces.drop (start+longest))

end Ipv6

/-- A host: a name, or an address by numbers. A name is empty where an address has no host. -/
inductive Host
  | name (text : List Char)
  | ipv4 (address : Nat)
  | ipv6 (pieces : List Nat)
  deriving DecidableEq, Repr

namespace Host

def render : Host → List Char
  | name text => text
  | ipv4 address => Ipv4.render address
  | ipv6 pieces => '[' :: Ipv6.render pieces ++ [']']

def isEmpty : Host → Bool
  | name text => text.isEmpty
  | _ => false

/-- A host in brackets is an IPv6 address. -/
def bracketed? (text : List Char) : Option (Except Fault Host) :=
  match text with
  | '[' :: inner =>
    some (if inner.getLast? = some ']' then (Ipv6.parse inner.dropLast).map ipv6
      else .error .badIpv6)
  | _ => none

/-- Characters that no host of any scheme may hold. -/
def isForbidden (c : Char) : Bool :=
  c == '\x00' || c == '\t' || c == '\n' || c == '\r' || c == ' ' || c == '#' || c == '/' ||
  c == ':' || c == '<' || c == '>' || c == '?' || c == '@' || c == '[' || c == '\\' ||
  c == ']' || c == '^' || c == '|'

/-- The host of a scheme that the network knows: a domain name, or numbers. -/
def parseSpecial (text : List Char) : Except Fault Host :=
  match bracketed? text with
  | some host => host
  | none =>
    match Domain.toAscii? (decode text) with
    | none => .error .badDomain
    | some [] => .error .emptyHost
    | some domain =>
      if Ipv4.endsInNumber domain then (Ipv4.parse domain).map ipv4 else .ok (name domain)

/-- The host of any other scheme keeps its spelling. -/
def parseOther (text : List Char) : Except Fault Host :=
  match bracketed? text with
  | some host => host
  | none =>
    if text.any isForbidden then .error .badHostCharacter
    else .ok (name (encode controlMarks text))

def parse (special : Bool) (text : List Char) : Except Fault Host :=
  if special then parseSpecial text else parseOther text

end Host
end WorksheetUpload.Url
