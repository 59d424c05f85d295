import WorksheetUpload.Config.Basic
import WorksheetUpload.Text.Classes

/-! Environment variables that take precedence over the configuration file. -/
namespace WorksheetUpload.Config

/-- The value of each variable that is set. -/
abbrev Environment := String → Option String

def serverVariable : String := "BUNDLE_UPLOADER_SERVER_URL"
def worksheetVariable : String := "BUNDLE_UPLOADER_WORKSHEET"
def sortKeyVariable : String := "BUNDLE_UPLOADER_SORT_KEY"
def tokenVariable : String := "BUNDLE_UPLOADER_TOKEN"

/-- Takes the addresses from the environment. -/
def overrideAddress (env : Environment) (c : Config) : Config :=
  {c with
    serverUrl := (env serverVariable).getD c.serverUrl
    worksheet := (env worksheetVariable).getD c.worksheet}

/-- The sort key that the environment names, surrounding white space aside. -/
def sortKey? (env : Environment) : Except Error (Option SortKey) :=
  match env sortKeyVariable with
  | none => .ok none
  | some text =>
    match SortKey.read (Text.trim text.toList) with
    | .ok key => .ok (some key)
    | .error e => .error (.badSortKey text e)

/-- An empty token in the environment takes the token away. -/
def overrideToken (env : Environment) (token : Option String) : Option String :=
  match env tokenVariable with
  | some t => if t.isEmpty then none else some t
  | none => token

/-- Applies the environment. A bad sort key ends the work half-way, with the addresses changed. -/
def override (c : Config) (env : Environment) : Config × Option Error :=
  let addressed := overrideAddress env c
  match sortKey? env with
  | .error e => (addressed,some e)
  | .ok key =>
    ({addressed with after := key.or c.after,token := overrideToken env c.token},none)

/-- The place of the configuration file, from the user's configuration directory. -/
def path : String := "bundle-uploader/config.json"

/-- The configuration in force: the file first, then the environment. -/
def load (file : File) (env : Environment) : Except Error Config := do
  match (← ofFile path file).override env with
  | (c,none) => .ok c
  | (_,some e) => .error e

namespace Error

def message : Error → String
  | unreadable path _ => "Failed to read config file " ++ path
  | malformed path _ _ => "Invalid config file " ++ path
  | badSortKey text _ => sortKeyVariable ++ " is not an integer: " ++ text

/-- The cause behind an error. -/
def cause : Error → String
  | unreadable _ fault => fault.message
  | malformed _ text fault => fault.message text
  | badSortKey _ cause => cause.message

end Error
end WorksheetUpload.Config
