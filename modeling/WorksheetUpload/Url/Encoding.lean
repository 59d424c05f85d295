import WorksheetUpload.Text.Utf8

/-! How texts stand in addresses: cut at separators, with percent signs for what cannot stand there, and
in pairs as web forms write them. -/
namespace WorksheetUpload.Url

/-- The pieces between separators, always at least one. -/
def splitAt (isSeparator : Char → Bool) : List Char → List (List Char)
  | [] => [[]]
  | c :: rest =>
    if isSeparator c then [] :: splitAt isSeparator rest
    else match splitAt isSeparator rest with
      | [] => [[c]]
      | piece :: pieces => (c :: piece) :: pieces

/-- Pieces with a separator between them. -/
def join (separator : List Char) : List (List Char) → List Char
  | [] => []
  | [piece] => piece
  | piece :: more :: pieces => piece ++ separator ++ join separator (more :: pieces)

/-- The text before the first character of a kind, and the text from there on. -/
def cut (isEnd : Char → Bool) (text : List Char) : List Char × List Char :=
  (text.takeWhile fun c => !isEnd c,text.dropWhile fun c => !isEnd c)

/-! Percent-encoding of characters by sets. Characters beyond ASCII and controls are always
encoded, as the octets of their UTF-8 form; each part of an address adds marks of its own. -/

/-- Three characters for an octet, with upper-case digits. -/
def percentOctet (b : UInt8) : List Char :=
  ['%',(Nat.digitChar (b.toNat/16)).toUpper,(Nat.digitChar (b.toNat%16)).toUpper]

/-- The marks that a part of an address cannot hold as they are. -/
abbrev MarkSet := List Char

def isPlain (marks : MarkSet) (c : Char) : Bool :=
  0x20 ≤ c.toNat && c.toNat < 0x7F && !marks.contains c

def encodeChar (marks : MarkSet) (c : Char) : List Char :=
  if isPlain marks c then [c] else (String.utf8EncodeChar c).flatMap percentOctet

def encode (marks : MarkSet) (text : List Char) : List Char := text.flatMap (encodeChar marks)

@[simp] theorem encode_nil (marks : MarkSet) : encode marks [] = [] := rfl

@[simp] theorem encode_cons (marks : MarkSet) (c : Char) (text : List Char) :
    encode marks (c :: text) = encodeChar marks c ++ encode marks text := rfl

/-- In a path without segments, and in a host of no special scheme, only controls are encoded. -/
def controlMarks : MarkSet := []
def fragmentMarks : MarkSet := [' ','"','<','>','`']
def queryMarks : MarkSet := [' ','"','#','<','>']
def specialQueryMarks : MarkSet := '\'' :: queryMarks
def pathMarks : MarkSet := fragmentMarks ++ ['#','?','\x7b','\x7d']
def userMarks : MarkSet := pathMarks ++ ['/',':',';','=','@','[','\\',']','^','|']

/-- The value of a hexadecimal digit in either case. -/
def hexDigit? (c : Char) : Option Nat :=
  if '0' ≤ c ∧ c ≤ '9' then some (c.toNat-48)
  else if 'a' ≤ c ∧ c ≤ 'f' then some (c.toNat-87)
  else if 'A' ≤ c ∧ c ≤ 'F' then some (c.toNat-55)
  else none

/-- The octets that a text denotes. A percent sign without two digits stands for itself. -/
def decode : List Char → Bytes
  | '%' :: a :: b :: rest =>
    match hexDigit? a, hexDigit? b with
    | some x, some y => UInt8.ofNat (x*16+y) :: decode rest
    | _, _ => 0x25 :: decode (a :: b :: rest)
  | c :: rest => String.utf8EncodeChar c ++ decode rest
  | [] => []

/-! Name and value pairs in a query, as web forms write them. -/
namespace Form

/-- Octets that stand for themselves. -/
def isUnreserved (b : UInt8) : Bool :=
  (0x30 ≤ b && b ≤ 0x39) || (0x41 ≤ b && b ≤ 0x5A) || (0x61 ≤ b && b ≤ 0x7A) ||
    b == 0x2A || b == 0x2D || b == 0x2E || b == 0x5F

def encodeOctet (b : UInt8) : List Char :=
  if isUnreserved b then [Char.ofNat b.toNat]
  else if b = 0x20 then ['+']
  else percentOctet b

def encodeText (text : List Char) : List Char := (Utf8.encode text).flatMap encodeOctet

def encodePair (p : List Char × List Char) : List Char :=
  encodeText p.1 ++ '=' :: encodeText p.2

/-- Appends pairs to a query. An ampersand comes before each pair that is not the first text. -/
def append (query : List Char) (pairs : List (List Char × List Char)) : List Char :=
  pairs.foldl (fun q p => (if q.isEmpty then q else q ++ ['&']) ++ encodePair p) query

end Form
end WorksheetUpload.Url
