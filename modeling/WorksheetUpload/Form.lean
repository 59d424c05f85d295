import WorksheetUpload.FileName
import WorksheetUpload.SelectedFile
import WorksheetUpload.Text.Classes
import WorksheetUpload.Text.Quoted

/-! The form in which the user describes the next bundle. -/
namespace WorksheetUpload

structure Form where
  name : String
  description : String
  tags : List String
  url : String
  deriving DecidableEq, Repr

namespace Form

/-- A form that nobody touched. -/
def initial : Form := ⟨FileName.untitled,"",[],""⟩

/-- Whether a tag can be added to some others: it is not blank and not among them. -/
def Admits (tags : List String) (tag : String) : Prop := tag ≠ "" ∧ tag ∉ tags

instance (tags : List String) (tag : String) : Decidable (Admits tags tag) := by
  unfold Admits; infer_instance

/-- Adds a tag at the end, without the blanks around it, and tells whether it could. -/
def addTag (f : Form) (tag : String) : Form × Bool :=
  let tag := Text.trimmed tag
  if Admits f.tags tag then ({f with tags := f.tags ++ [tag]},true) else (f,false)

/-- Takes out the tag at a place. -/
def removeTag (f : Form) (index : Nat) : Form × Option String :=
  ({f with tags := f.tags.eraseIdx index},f.tags[index]?)

/-- The name for the bundle of a file. Without a name of its own the form takes one from the
file. -/
def bundleName (f : Form) (fileName : String) : String :=
  let name := Text.trimmed f.name
  if name = "" ∨ name = FileName.untitled then
    String.ofList (FileName.bundleName fileName.toList)
  else name

def metadataFor (f : Form) (fileName : String) : Metadata :=
  ⟨f.bundleName fileName,f.description,f.tags⟩

/-- The upload of a file as the form describes it now. -/
def pending (f : Form) (file : SelectedFile) : PendingUpload :=
  let url := Text.trimmed f.url
  ⟨file,f.metadataFor file.name,if url = "" then none else some url⟩

/-- The form written for a developer. -/
def debug (f : Form) : String :=
  "FormState \x7b name: " ++ Text.quoted f.name ++ ", description: " ++ Text.quoted f.description ++
    ", tags: [" ++ ", ".intercalate (f.tags.map Text.quoted) ++ "], url: " ++ Text.quoted f.url ++
    " \x7d"

end Form
end WorksheetUpload
