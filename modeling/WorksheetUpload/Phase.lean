import WorksheetUpload.Bundle
import WorksheetUpload.Text.Quoted

/-! The phases that an upload goes through. An upload ends completed or failed. -/
namespace WorksheetUpload

/-- The two requests that an upload makes. -/
inductive Stage
  | creation | contents
  deriving DecidableEq, Repr

/-- How far an upload has come. The handle is the one that the service gave to its bundle. -/
inductive Phase
  | idle
  | requested
  | created (handle : Handle)
  | uploading (handle : Handle)
  | completed (handle : Handle)
  | failed (stage : Stage)
  deriving DecidableEq, Repr

namespace Phase

def isCompleted : Phase → Bool
  | completed _ => true
  | _ => false

def isFailed : Phase → Bool
  | failed _ => true
  | _ => false

def isFinished (p : Phase) : Bool := p.isCompleted || p.isFailed

/-- The words shown for a phase. -/
def label : Phase → String
  | idle => "Idle"
  | requested => "Creating bundle..."
  | created h => "Created " ++ h.text
  | uploading h => "Uploading to " ++ h.text
  | completed h => "Uploaded as " ++ h.text
  | failed .creation => "Failed to create bundle"
  | failed .contents => "Failed to upload contents"

/-- The sign shown beside an upload. -/
def icon : Phase → String
  | completed _ => "✅"
  | failed _ => "❌"
  | _ => "⏳"

private def withHandle (word : String) (h : Handle) : String :=
  word ++ "(BundleHandle(" ++ Text.quoted h.text ++ "))"

/-- The phase written for a developer. -/
def debug : Phase → String
  | idle => "Idle"
  | requested => "MetadataRequested"
  | created h => withHandle "MetadataCreated" h
  | uploading h => withHandle "ContentUploading" h
  | completed h => withHandle "Completed" h
  | failed .creation => "Failed(MetadataCreation)"
  | failed .contents => "Failed(ContentUpload)"

end Phase
end WorksheetUpload
