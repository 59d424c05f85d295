import WorksheetUpload.Bundle
import WorksheetUpload.FileTree

/-! Files that the user selected: by path, or given with their contents. -/
namespace WorksheetUpload

inductive FileSource
  | path (path : Bytes)
  | contents (bytes : Bytes)
  deriving DecidableEq

/-- A file to upload. It is read only when its bundle has been made. -/
structure SelectedFile where
  name : String
  source : FileSource
  deriving DecidableEq

namespace SelectedFile

/-- A file on disk goes by the last component of its path, which may not be text. -/
def ofPath? (path : Bytes) : Option SelectedFile :=
  (Path.finalName? path).map fun name => ⟨String.ofList (Utf8.lossy name),.path path⟩

def ofContents (name : String) (bytes : Bytes) : SelectedFile := ⟨name,.contents bytes⟩

/-- Reads the whole file. -/
def read (f : SelectedFile) (tree : FileTree) : Except IoFault Bytes :=
  match f.source with
  | .path path => tree.read path
  | .contents bytes => .ok bytes

end SelectedFile

/-- A file with what the form said when it was selected. -/
structure PendingUpload where
  file : SelectedFile
  metadata : Metadata
  sourceUrl : Option String
  deriving DecidableEq

/-- What the user lets fall on the window: a path, or a name with contents. -/
structure DroppedItem where
  path : Option Bytes
  name : String
  contents : Option Bytes

/-- The file that a dropped item is. A directory is none; a path takes precedence over contents. -/
def DroppedItem.file? (item : DroppedItem) (tree : FileTree) : Option SelectedFile :=
  match item.path,item.contents with
  | some path,_ => if tree.isDir path then none else SelectedFile.ofPath? path
  | none,some bytes => some (.ofContents item.name bytes)
  | none,none => none

end WorksheetUpload
