import Mathlib.Data.List.Basic
import WorksheetUpload.Proofs.Client.Arrival
import WorksheetUpload.Proofs.Flow.Alike

/-! Uploads one after another over a scripted network. Each takes as many replies as it sends requests,
so that those after it find the network as if it had begun with the replies that are left. -/
namespace WorksheetUpload

namespace Client

variable (c : Client)

variable (tree : FileTree) (target : Target)

namespace Exchange

variable {c tree target} {p : PendingUpload} {reply : Http.Reply} {sent : List Http.Request}

end Exchange

variable [Http.Decoding]

variable (rs : List Http.Reply) (o : Http.Reply)

end Client
end WorksheetUpload
