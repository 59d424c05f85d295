import WorksheetUpload.Config.SortKeyText
import WorksheetUpload.IoFault
import WorksheetUpload.Json.Reader

/-! The configuration of an uploader and the file that holds it. A field that the file does not
name keeps its default. -/
namespace WorksheetUpload

structure Config where
  serverUrl : String
  worksheet : String
  after : Option SortKey
  token : Option String
  deriving DecidableEq

namespace Config

/-- A service on the same machine, no worksheet, and nobody signed in. -/
def initial : Config := ⟨"http://localhost:2900/rest","",none,none⟩

def target (c : Config) : Target := ⟨c.worksheet,c.after⟩

/-- The object in a configuration file. -/
def shape : Json.Shape Config where
  title := "UploaderConfig"
  blank := initial
  mandatory := false
  fields := [
    .of "server_url" Json.text fun serverUrl c => {c with serverUrl},
    .of "worksheet_uuid" Json.text fun worksheet c => {c with worksheet},
    .of "after_sort_key" (Json.orNull (Json.whole "i64" SortKey.ofInt?)) fun after c =>
      {c with after},
    .of "auth_token" (Json.orNull Json.text) fun token c => {c with token}]

/-- Decodes the text of a configuration file. -/
def decode (text : Bytes) : Except Json.Fault Config := Json.parse (Json.object shape) text

/-- What stands where a configuration file is looked for. What is there may refuse to be read. -/
inductive File
  | absent
  | refused (fault : IoFault)
  | content (bytes : Bytes)

def File.directory : File := .refused .isDirectory

/-- Why there is no configuration. The first two name the file. -/
inductive Error
  | unreadable (path : String) (fault : IoFault)
  | malformed (path : String) (text : Bytes) (fault : Json.Fault)
  | badSortKey (text : String) (cause : SortKey.ReadError)

/-- Text files hold UTF-8. -/
def notText : IoFault := .described "stream did not contain valid UTF-8"

/-- The configuration in a file. No file means the initial one. -/
def ofFile (path : String) : File → Except Error Config
  | .absent => .ok initial
  | .refused fault => .error (.unreadable path fault)
  | .content bytes =>
    match Utf8.decode? bytes with
    | none => .error (.unreadable path notText)
    | some _ => (decode bytes).mapError (.malformed path bytes)

end Config
end WorksheetUpload
