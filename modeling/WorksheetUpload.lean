import WorksheetUpload.Bundle
import WorksheetUpload.Client
import WorksheetUpload.Config.Basic
import WorksheetUpload.Config.Overrides
import WorksheetUpload.Config.SortKeyText
import WorksheetUpload.Creation
import WorksheetUpload.Decimal.Shortest
import WorksheetUpload.DropZone
import WorksheetUpload.FileName
import WorksheetUpload.FileTree
import WorksheetUpload.Flow
import WorksheetUpload.Form
import WorksheetUpload.Http.Charset
import WorksheetUpload.Http.Network
import WorksheetUpload.Http.Request
import WorksheetUpload.Http.Status
import WorksheetUpload.IoFault
import WorksheetUpload.Json.Fault
import WorksheetUpload.Json.Number
import WorksheetUpload.Json.Reader
import WorksheetUpload.Json.Skip
import WorksheetUpload.Json.Text
import WorksheetUpload.Json.Token
import WorksheetUpload.Json.Value
import WorksheetUpload.Log
import WorksheetUpload.Log.Filter
import WorksheetUpload.Main
import WorksheetUpload.Path
import WorksheetUpload.Phase
import WorksheetUpload.Proofs.Client.Address
import WorksheetUpload.Proofs.Client.Arrival
import WorksheetUpload.Proofs.Client.Batch
import WorksheetUpload.Proofs.Client.Creating
import WorksheetUpload.Proofs.Client.Query
import WorksheetUpload.Proofs.Client.Refusal
import WorksheetUpload.Proofs.Client.Segment
import WorksheetUpload.Proofs.Client.Sender
import WorksheetUpload.Proofs.Client.Sending
import WorksheetUpload.Proofs.Client.Target
import WorksheetUpload.Proofs.Client.Token
import WorksheetUpload.Proofs.Config.Absorption
import WorksheetUpload.Proofs.Config.File
import WorksheetUpload.Proofs.Config.Limits
import WorksheetUpload.Proofs.Config.Precedence
import WorksheetUpload.Proofs.Config.SortKey
import WorksheetUpload.Proofs.Config.Spelling
import WorksheetUpload.Proofs.Creation.Request
import WorksheetUpload.Proofs.Creation.Response
import WorksheetUpload.Proofs.FileName.BundleName
import WorksheetUpload.Proofs.FileName.Longest
import WorksheetUpload.Proofs.FileName.Suffix
import WorksheetUpload.Proofs.FileTree.Below
import WorksheetUpload.Proofs.FileTree.Listing
import WorksheetUpload.Proofs.FileTree.Resolution
import WorksheetUpload.Proofs.Fleet.Alerts
import WorksheetUpload.Proofs.Fleet.Basic
import WorksheetUpload.Proofs.Fleet.Calls
import WorksheetUpload.Proofs.Fleet.Drops
import WorksheetUpload.Proofs.Fleet.Frame
import WorksheetUpload.Proofs.Fleet.Phases
import WorksheetUpload.Proofs.Fleet.Sent
import WorksheetUpload.Proofs.Fleet.Shown
import WorksheetUpload.Proofs.Fleet.Tags
import WorksheetUpload.Proofs.Fleet.Telling
import WorksheetUpload.Proofs.Flow.Alike
import WorksheetUpload.Proofs.Flow.Course
import WorksheetUpload.Proofs.Flow.Ending
import WorksheetUpload.Proofs.Flow.Progress
import WorksheetUpload.Proofs.Form.Naming
import WorksheetUpload.Proofs.Form.OrderedTags
import WorksheetUpload.Proofs.Form.Tags
import WorksheetUpload.Proofs.History
import WorksheetUpload.Proofs.Http.Header
import WorksheetUpload.Proofs.Json.Denotes
import WorksheetUpload.Proofs.Json.Integer
import WorksheetUpload.Proofs.Json.Lexing
import WorksheetUpload.Proofs.Json.Meaning
import WorksheetUpload.Proofs.Json.Numeral
import WorksheetUpload.Proofs.Json.Quoted
import WorksheetUpload.Proofs.Json.Rendering
import WorksheetUpload.Proofs.Json.Shape
import WorksheetUpload.Proofs.Json.Single
import WorksheetUpload.Proofs.Json.Skip
import WorksheetUpload.Proofs.Json.Written
import WorksheetUpload.Proofs.Path.LastName
import WorksheetUpload.Proofs.Path.Parts
import WorksheetUpload.Proofs.SelectedFile.OnDisk
import WorksheetUpload.Proofs.Session.Moves
import WorksheetUpload.Proofs.Startup.Bearer
import WorksheetUpload.Proofs.Startup.Decision
import WorksheetUpload.Proofs.Text.Blank
import WorksheetUpload.Proofs.Text.Case
import WorksheetUpload.Proofs.Text.Decimal
import WorksheetUpload.Proofs.Text.Utf8
import WorksheetUpload.Proofs.Uploads.Identity
import WorksheetUpload.Proofs.Url.Authority
import WorksheetUpload.Proofs.Url.Beneath
import WorksheetUpload.Proofs.Url.Pairs
import WorksheetUpload.Proofs.Url.Percent
import WorksheetUpload.Proofs.Url.Segments
import WorksheetUpload.Proofs.Url.Split
import WorksheetUpload.Rejection
import WorksheetUpload.Screen
import WorksheetUpload.SelectedFile
import WorksheetUpload.Service
import WorksheetUpload.Session
import WorksheetUpload.Startup
import WorksheetUpload.Text.Canonical
import WorksheetUpload.Text.Canonical.Order
import WorksheetUpload.Text.Canonical.Pairs
import WorksheetUpload.Text.Canonical.Twins
import WorksheetUpload.Text.Classes
import WorksheetUpload.Text.Pattern
import WorksheetUpload.Text.Quoted
import WorksheetUpload.Text.Utf8
import WorksheetUpload.UploadError
import WorksheetUpload.Uploads
import WorksheetUpload.Url.Basic
import WorksheetUpload.Url.Domain
import WorksheetUpload.Url.Domain.Direction
import WorksheetUpload.Url.Domain.Expansion
import WorksheetUpload.Url.Domain.Joining
import WorksheetUpload.Url.Domain.Punycode
import WorksheetUpload.Url.Domain.Refused
import WorksheetUpload.Url.Domain.Replacement
import WorksheetUpload.Url.Encoding
import WorksheetUpload.Url.Host
import WorksheetUpload.Url.Parse
import WorksheetUpload.Url.Segments
import WorksheetUpload.Widget
