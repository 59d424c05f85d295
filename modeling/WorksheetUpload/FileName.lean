import WorksheetUpload.Text.Utf8

/-! Names that the bundle service gives to an uploaded file. A recognised archive suffix is kept
as it is spelled; the stem before it is reduced to the characters that a bundle name may have. -/
namespace WorksheetUpload

/-- The archive kinds that the service unpacks. -/
inductive Archive
  | tarGz | tarBz2 | tbz2 | tgz | zip | tar | gz | bz2
  deriving DecidableEq, Repr

namespace Archive

def suffix : Archive → String
  | tarGz => ".tar.gz"
  | tarBz2 => ".tar.bz2"
  | tbz2 => ".tbz2"
  | tgz => ".tgz"
  | zip => ".zip"
  | tar => ".tar"
  | gz => ".gz"
  | bz2 => ".bz2"

/-- The compound suffixes come before the simple ones that they end in. -/
def all : List Archive := [tarGz,tarBz2,tbz2,tgz,zip,tar,gz,bz2]

/-- Whether a name ends in the suffix, in any mixture of ASCII cases, and has more besides. -/
def Ends (a : Archive) (name : List Char) : Prop :=
  a.suffix.toList.length < name.length ∧
    (name.drop (name.length - a.suffix.toList.length)).map Char.toLower = a.suffix.toList

instance (a : Archive) (name : List Char) : Decidable (a.Ends name) := by
  unfold Ends; infer_instance

/-- The archive kind that a name announces. -/
def ofName? (name : List Char) : Option Archive := all.find? fun a => a.Ends name

end Archive

namespace FileName

/-- The recognised suffix as the name spells it, empty when there is none. -/
def suffix (name : List Char) : List Char :=
  match Archive.ofName? name with
  | some a => name.drop (name.length - a.suffix.toList.length)
  | none => []

def stem (name : List Char) : List Char := name.take (name.length - (suffix name).length)

/-- Characters that may stand in a bundle name. -/
def isBundleChar (c : Char) : Bool := c.isAlphanum || c == '_' || c == '.' || c == '-'

/-- Characters that a bundle name may begin with. -/
def isBundleStart (c : Char) : Bool := c.isAlpha || c == '_'

def replaced (c : Char) : Char := if isBundleChar c then c else '-'

/-- Puts an underscore before a text that does not begin as a bundle name. -/
def withStart (text : List Char) : List Char :=
  match text with
  | [] => []
  | c :: _ => if isBundleStart c then text else '_' :: text

/-- The name of a bundle for which nobody chose one. -/
def untitled : String := "untitled-upload"

/-- The bundle name that a stem yields. -/
def ofStem (stem : List Char) : List Char :=
  if stem.isEmpty then untitled.toList else withStart (stem.map replaced)

/-- The bundle name derived from a file name. -/
def bundleName (name : List Char) : List Char := ofStem (stem name)

/-- The name under which the service stores the contents. -/
def uploadName (name : List Char) : List Char := bundleName name ++ suffix name

def isArchive (name : List Char) : Bool := (Archive.ofName? name).isSome

end FileName

/-- What the service is told about the contents that follow. -/
structure ContentParams where
  finalize : Bool
  filename : String
  unpack : Bool
  deriving DecidableEq, Repr

/-- Contents are always final, and unpacked when the file is an archive. -/
def ContentParams.ofFileName (name : String) : ContentParams where
  finalize := true
  filename := String.ofList (FileName.uploadName name.toList)
  unpack := FileName.isArchive name.toList

end WorksheetUpload
