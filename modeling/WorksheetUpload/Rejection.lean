import WorksheetUpload.Http.Status
import WorksheetUpload.Text.Classes

/-! How the bundle service refuses a request: the class of its status, and the explanation that
reaches the user. -/
namespace WorksheetUpload

/-- The classes of refusals that the service distinguishes. -/
inductive Rejection
  | permission | authorization | notFound | usage | server
  deriving DecidableEq, Repr

namespace Rejection

/-- Three codes have a class of their own; any other 4xx is a usage error. -/
def ofStatus (s : Http.Status) : Rejection :=
  if s.code = 403 then permission
  else if s.code = 401 then authorization
  else if s.code = 404 then notFound
  else if 400 ≤ s.code ∧ s.code < 500 then usage
  else server

/-- The text of the response, or the status line when that text is blank. -/
def explanation (s : Http.Status) (body : String) : String :=
  if (Text.trim body.toList).isEmpty then s.line else body

end Rejection
end WorksheetUpload
