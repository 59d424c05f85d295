import WorksheetUpload.IoFault

/-! Why an upload failed, and the text shown to the user. -/
namespace WorksheetUpload

/-- The causes of a failed upload. A request that failed names its address. -/
inductive UploadError
  | creation (url message : String)
  | contents (url message : String)
  | reading (name : String) (fault : IoFault)
  | noHandle (url : String)
  deriving DecidableEq, Repr

namespace UploadError

def message : UploadError → String
  | creation url text | contents url text => "Request to " ++ url ++ " failed: " ++ text
  | reading name fault => "Failed to read " ++ name ++ ": " ++ fault.message
  | noHandle url => "Request to " ++ url ++ " failed: response did not contain a bundle id"

@[simp] theorem message_reading (name : String) (fault : IoFault) :
    (reading name fault).message = "Failed to read " ++ name ++ ": " ++ fault.message := rfl

/-- The fault behind an error, where there is one. -/
def source? : UploadError → Option IoFault
  | reading _ fault => some fault
  | _ => none

end UploadError
end WorksheetUpload
