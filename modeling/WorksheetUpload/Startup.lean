import WorksheetUpload.Client
import WorksheetUpload.Config.Overrides
import WorksheetUpload.Log.Filter

/-! From the start of the program to its window: the configuration is loaded, then the client is
made. What goes wrong on the way ends the program. -/
namespace WorksheetUpload

/-- Why there is no window. -/
inductive Startup.Failure
  | config (error : Config.Error)
  | badToken

/-- What was logged on the way, and the client that the window works with. -/
structure Startup where
  log : List Log.Line
  outcome : Except Startup.Failure Client

/-- How the program comes out of its start: with its window, or out of it with a code and what it
prints. -/
inductive Startup.Ending
  | window
  | exit (code : UInt32) (printed : String)
  deriving DecidableEq

namespace Startup

/-- What is printed at the end: the error, and its cause if it has one. -/
def Failure.message : Failure → String
  | config e => "Error: " ++ e.message ++ "\n\nCaused by:\n    " ++ e.cause ++ "\n"
  | badToken => "Error: " ++ Client.badToken ++ "\n"

def target : String := "bundle_uploader"
def configTarget : String := "bundle_uploader::config"

/-- What reading the configuration file logs. -/
def fileLog (file : Config.File) : List Log.Line :=
  match file, Config.ofFile Config.path file with
  | .absent, _ =>
    [.plain .debug configTarget ("No config file at " ++ Config.path ++ ", using defaults")]
  | _, .ok _ => [.plain .info configTarget ("Loaded config from " ++ Config.path)]
  | _, .error _ => []

/-- What is logged of a configuration before the client is made. -/
def configLog (c : Config) : List Log.Line :=
  (if c.worksheet = "" then
    [.plain .warn target "No worksheet configured, uploads will be rejected by the server"]
    else []) ++
  [.plain .info target ("Using bundle service at " ++ c.serverUrl)]

/-- What the window logs when it opens. -/
def windowLog : List Log.Line := [.placed .debug "eframe" "Using the glow renderer"]

def run (file : Config.File) (env : Config.Environment) : Startup :=
  match Config.load file env with
  | .error e => ⟨fileLog file,.error (.config e)⟩
  | .ok c =>
    let log := fileLog file ++ configLog c
    match Client.ofConfig? c with
    | some client => ⟨log ++ windowLog,.ok client⟩
    | none => ⟨log,.error .badToken⟩

def ending (s : Startup) : Ending :=
  match s.outcome with
  | .ok _ => .window
  | .error failure => .exit 1 failure.message

/-- The variable that sets the log filter. -/
def filterVariable : String := "RUST_LOG"

/-- The lines that the filter lets pass. A message may itself go over several lines. -/
def shownLog (s : Startup) (env : Config.Environment) : List String :=
  (s.log.filter (Log.Filter.ofSetting (env filterVariable)).admits).flatMap (·.text.splitOn "\n")

end Startup
end WorksheetUpload
