import WorksheetUpload.Url.Basic
import WorksheetUpload.Url.Segments

/-! Reading addresses. Blanks around a text are dropped first, and line breaks in it, which count
for files only; then each part is cut off at the mark that ends it. -/
namespace WorksheetUpload.Url

/-- Drops controls and spaces at both ends. -/
def stripped (text : List Char) : List Char :=
  let isEdge (c : Char) : Bool := c.toNat ≤ 0x20
  ((text.dropWhile isEdge).reverse.dropWhile isEdge).reverse

/-- Tabs and the marks that end lines. -/
def isBreak (c : Char) : Bool := c == '\t' || c == '\n' || c == '\r'

def withoutBreaks (text : List Char) : List Char := text.filter (!isBreak ·)

/-- The scheme in lower case, and what follows its colon. -/
def schemeOf? (text : List Char) : Option (List Char × List Char) :=
  let (before,behind) := cut (· == ':') text
  let scheme := withoutBreaks before
  if scheme.head?.any Char.isAlpha &&
      scheme.all (fun c => c.isAlphanum || c == '+' || c == '-' || c == '.') then
    match behind with
    | ':' :: rest => some (scheme.map Char.toLower,rest)
    | _ => none
  else none

/-- Characters that end an authority. -/
def endsAuthority (special : Bool) (c : Char) : Bool :=
  c == '/' || c == '?' || c == '#' || (special && c == '\\')

/-- The text before the last at-sign, and the text behind it. -/
def splitLastAt (text : List Char) : Option (List Char × List Char) :=
  match cut (· == '@') text.reverse with
  | (after,'@' :: before) => some (before.reverse,after.reverse)
  | _ => none

/-- User name and password, encoded. An empty password is none. -/
def credentialsOf (text : List Char) : List Char × Option (List Char) :=
  match cut (· == ':') text with
  | (user,':' :: password) =>
    (encode userMarks user,if password.isEmpty then none else some (encode userMarks password))
  | (user,_) => (encode userMarks user,none)

/-- The host text, and what follows it. A colon inside brackets is part of the host. -/
def hostText (inBrackets : Bool) : List Char → List Char × List Char
  | [] => ([],[])
  | c :: rest =>
    if c == ':' && !inBrackets then ([],c :: rest)
    else
      let inBrackets := if c == '[' then true else if c == ']' then false else inBrackets
      let p := hostText inBrackets rest
      (c :: p.1,p.2)

/-- The port behind a colon, and what follows it. A backslash may end a port. -/
def portOf (scheme : List Char) (text : List Char) : Except Fault (Option Nat × List Char) :=
  let (digits,rest) := cut (fun c => !c.isDigit) text
  let port := digits.foldl (fun n c => n*10 + (c.toNat-48)) 0
  if 65535 < port then .error .badPort
  else if !(rest.head?.all (· == '\\')) then .error .badPort
  else .ok (if digits.isEmpty || defaultPort scheme = some port then none else some port,rest)

/-- The authority in a text that holds nothing else, and what follows the port. `more` tells
whether the address goes on behind that text. -/
def authorityOf (scheme : List Char) (more : Bool) (text : List Char) :
    Except Fault (Authority × List Char) := do
  let special := isSpecial scheme
  let (username,password,hostAndPort) ← match splitLastAt text with
    | none => .ok ([],none,text)
    | some (before,after) =>
      if before.isEmpty && after.isEmpty && more then .error .emptyHost
      else .ok ((credentialsOf before).1,(credentialsOf before).2,after)
  let (hostPart,rest) := hostText false hostAndPort
  if special && hostPart.isEmpty then .error .emptyHost
  else
    let host ← Host.parse special hostPart
    match rest with
    | ':' :: portPart =>
      if host.isEmpty then .error .emptyHost
      else
        let (port,rest) ← portOf scheme portPart
        .ok (⟨username,password,host,port⟩,rest)
    | _ =>
      if host.isEmpty && (!username.isEmpty || password.isSome) then .error .emptyHost
      else .ok (⟨username,password,host,none⟩,rest)

/-- Query and fragment, from the mark of the first on. -/
def queryAndFragment (special : Bool) (text : List Char) :
    Option (List Char) × Option (List Char) :=
  let marks := if special then specialQueryMarks else queryMarks
  match text with
  | '?' :: rest =>
    match cut (· == '#') rest with
    | (query,'#' :: fragment) => (some (encode marks query),some (encode fragmentMarks fragment))
    | (query,_) => (some (encode marks query),none)
  | '#' :: fragment => (none,some (encode fragmentMarks fragment))
  | _ => (none,none)

def endsPath (c : Char) : Bool := c == '?' || c == '#'

/-- The part of a text that is a path. -/
def pathOf (text : List Char) : List Char := (cut endsPath text).1

/-- Completes an address with the path, query and fragment in a text. -/
def complete (scheme : List Char) (authority : Option Authority) (path : List Char → Path)
    (text : List Char) : Url :=
  let (query,fragment) := queryAndFragment (isSpecial scheme) (withoutBreaks (cut endsPath text).2)
  ⟨scheme,authority,path (pathOf text),query,fragment⟩

/-- The path behind an authority. In special schemes it is never empty. -/
def pathAfterAuthority (special : Bool) (text : List Char) : Path :=
  match text with
  | [] => .segments (if special then [[]] else [])
  | c :: rest =>
    .segments (segmentsOf special (if c == '/' || (special && c == '\\') then rest else text))

/-- An address whose authority begins a text. -/
def withAuthority (scheme : List Char) (text : List Char) : Except Fault Url := do
  let special := isSpecial scheme
  let (before,behind) := cut (endsAuthority special) text
  let (authority,rest) ← authorityOf scheme (!behind.isEmpty) before
  .ok (complete scheme (some authority) (pathAfterAuthority special) (rest++behind))

/-- An address without authority. -/
def withoutAuthority (scheme : List Char) (text : List Char) : Url :=
  match text with
  | '/' :: rest => complete scheme none (fun p => .segments (segmentsOf false p)) rest
  | _ => complete scheme none (fun p => .undivided (encode controlMarks p)) text

def isSlash (c : Char) : Bool := c == '/' || c == '\\'

/-- The name of a volume at the head of a segment, and the text that a line break cuts off from
it. -/
def halves? (segment : List Char) : Option (List Char × List Char) :=
  match segment.dropWhile isBreak with
  | letter :: rest =>
    match rest.dropWhile isBreak with
    | ':' :: rest =>
      let behind := withoutBreaks rest
      if letter.isAlpha && rest.head?.any isBreak && !behind.isEmpty then
        some ([letter,':'],encode pathMarks behind)
      else none
    | _ => none
  | [] => none

/-- The pieces of a file's path, which may begin with a slash. -/
def filePieces (text : List Char) : List (List Char) :=
  let text := text.dropWhile isBreak
  splitAt isSlash (if text.head?.any isSlash then text.drop 1 else text)

/-- Whether a file's path begins with the name of a volume. -/
def namesVolume (text : List Char) : Bool :=
  let segments := (filePieces text).map fun s => ⟨encode pathMarks (withoutBreaks s),none⟩
  (follow [] segments).head?.any fun s => isDrive s && s.getLast? == some ':'

/-- A file's path, without empty segments at its head. -/
def filePath (text : List Char) : Path :=
  let segments := (filePieces text).map fun s => ⟨encode pathMarks (withoutBreaks s),halves? s⟩
  match (follow [] segments).dropWhile List.isEmpty with
  | [] => .segments [[]]
  | kept => .segments kept

/-- An address without a host, as files on the same machine have. -/
def localAuthority : Authority := ⟨[],none,.name [],none⟩

/-- What stands behind two slashes at the head of a text. -/
def behindSlashes? (text : List Char) : Option (List Char) :=
  match text.dropWhile isBreak with
  | a :: rest =>
    match rest.dropWhile isBreak with
    | b :: rest => if isSlash a && isSlash b then some rest else none
    | [] => none
  | [] => none

/-- The address of a file. A host may follow two slashes; the own machine is no host, what names a
volume begins the path, and files on a volume have no host. -/
def fileUrl (scheme : List Char) (text : List Char) : Except Fault Url :=
  match behindSlashes? text with
  | none => .ok (complete scheme (some localAuthority) filePath text)
  | some text => do
    let (before,behind) := cut (endsAuthority true) text
    let hostPart := withoutBreaks before
    if isDrive hostPart || hostPart.isEmpty then
      .ok (complete scheme (some localAuthority) filePath text)
    else
      let host ← Host.parseSpecial hostPart
      let own := host = .name "localhost".toList || namesVolume (pathOf behind)
      .ok (complete scheme (some (if own then localAuthority else ⟨[],none,host,none⟩)) filePath
        behind)

/-- Reads an absolute address. Line breaks count only in the paths of files, where they may cut the
name of a volume off. -/
def parse (text : String) : Except Fault Url :=
  match schemeOf? (stripped text.toList) with
  | none => .error .noScheme
  | some (scheme,rest) =>
    if isFile scheme then fileUrl scheme rest
    else
      let rest := withoutBreaks rest
      if isSpecial scheme then
        withAuthority scheme (rest.dropWhile fun c => c == '/' || c == '\\')
      else match rest with
        | '/' :: '/' :: rest => withAuthority scheme rest
        | _ => .ok (withoutAuthority scheme rest)

end WorksheetUpload.Url
