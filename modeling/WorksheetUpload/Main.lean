import WorksheetUpload.Session
import WorksheetUpload.Startup

/-! The program up to the opening of its window. -/
namespace WorksheetUpload

/-- What stands at a path. -/
def configFileAt (path : String) : IO Config.File := do
  try
    let bytes ← IO.FS.readBinFile path
    return .content bytes.toList
  catch
    | .noFileOrDirectory .. => return .absent
    | .inappropriateType .. => return .directory
    | e => throw e

/-- The user's configuration directory. -/
def configDirectory : IO String := do
  match ← IO.getEnv "XDG_CONFIG_HOME" with
  | some dir => return dir
  | none => return (← IO.getEnv "HOME").getD "" ++ "/.config"

/-- The variables that the program looks at. -/
def knownVariables : List String :=
  [Config.serverVariable,Config.worksheetVariable,Config.sortKeyVariable,Config.tokenVariable,
    Startup.filterVariable]

end WorksheetUpload

open WorksheetUpload in
def main : IO UInt32 := do
  let file ← configFileAt ((← configDirectory) ++ "/" ++ Config.path)
  let settings ← knownVariables.filterMapM fun name => do
    return (← IO.getEnv name).map fun value => (name,value)
  let env : Config.Environment := fun name => settings.lookup name
  let startup := Startup.run file env
  for line in startup.shownLog env do
    IO.println line
  match startup.ending with
  | .window => return 0
  | .exit code printed =>
    IO.eprint printed
    return code
