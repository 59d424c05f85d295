import WorksheetUpload.Widget

/-! What the widget shows, in painting order, and what a click on each text does. While an alert is
open, only its button does anything. -/
namespace WorksheetUpload

/-- What a click does. -/
inductive Action
  | nothing
  | removeTag (index : Nat)
  | submitTag
  | clear
  | toggleDetails
  | dismiss
  deriving DecidableEq, Repr

structure Item where
  text : String
  action : Action
  deriving DecidableEq, Repr

/-- A text that does nothing. -/
def Item.label (text : String) : Item := ⟨text,.nothing⟩

/-- The fields that the user can type into. -/
inductive Field
  | name | description | url | tag
  deriving DecidableEq, Repr

namespace Screen

def urlHint : String := "https://..."

def heading (worksheet : String) : List Item :=
  [.label "Upload to Worksheet",.label ("Worksheet " ++ worksheet),
    .label "📁 Upload a directory",.label "📄 Upload a file"]

def tagItems (tags : List String) : List Item :=
  tags.mapIdx fun i t => ⟨t ++ " ✕",.removeTag i⟩

def form (w : Widget) : List Item :=
  [.label "Clone from URL",.label (if w.form.url = "" then urlHint else w.form.url),
    .label "Name",.label w.form.name,.label "Description",.label w.form.description,
    .label "Tags"] ++
  tagItems w.form.tags ++
  [.label w.tagInput,⟨"Add tag",.submitTag⟩,⟨"🗑 Clear",.clear⟩]

/-- The height of a line of text. -/
def lineHeight : Nat := 14

/-- The height of a row with one line or none. -/
def leastHeight : Nat := 18

/-- The gap below a row. -/
def rowGap : Nat := 3

/-- How far down the list of uploads can be seen, its margin included. -/
def listHeight : Nat := 203

/-- Lines of a text. A line break at the end begins one more. -/
def lineCount (text : String) : Nat := text.toList.count '\n' + 1

/-- The rows of the uploads that can be seen when the first stands at a height; a text of one line
stands in the middle of a row of the least height. -/
def rowsFrom (top : Nat) : List Attempt → List Item
  | [] => []
  | a :: rest =>
    let text := a.fileName ++ " - " ++ a.phase.label
    let height := max leastHeight (lineHeight*lineCount text)
    let inset (lines : Nat) : Nat := (leastHeight - lineHeight*lines)/2
    let seen (text : String) : List Item :=
      if top + inset (lineCount text) ≤ listHeight then [.label text] else []
    seen a.phase.icon ++ seen text ++ rowsFrom (top+height+rowGap) rest

/-- The rows of the uploads, newest first. -/
def rows (attempts : List Attempt) : List Item := rowsFrom 0 attempts.reverse

def progress (u : Uploads) : List Item :=
  if u.attempts.isEmpty then []
  else
    .label u.statusText ::
    (if u.reloads = 0 then []
      else [.label ("Worksheet reloaded " ++ toString u.reloads ++ " times")]) ++
    ⟨if u.showDetails then "Hide Details" else "Show Details",.toggleDetails⟩ ::
    (if u.showDetails then rows u.attempts else [])

def captured (u : Uploads) : List Item :=
  if u.captured.isEmpty then []
  else [.label ("📁 " ++ toString u.captured.length ++
    " files captured from directory drop. Directory upload is not available yet.")]

def alert (u : Uploads) : List Item :=
  match u.alerts with
  | [] => []
  | text :: _ => [.label text,⟨"OK",.dismiss⟩,.label "Upload failed"]

/-- A text under an alert does nothing. -/
def disabled (i : Item) : Item := .label i.text

/-- All that is painted. Empty texts are not. -/
def items (worksheet : String) (w : Widget) : List Item :=
  let main := heading worksheet ++ form w ++ progress w.uploads ++ captured w.uploads
  let main := if w.uploads.alerts.isEmpty then main else main.map disabled
  (main ++ alert w.uploads).filter fun i => i.text != ""

def texts (worksheet : String) (w : Widget) : List String := (items worksheet w).map (·.text)

def act (w : Widget) : Action → Widget
  | .nothing => w
  | .removeTag index => {w with form := (w.form.removeTag index).1}
  | .submitTag => w.submitTag
  | .clear => w.clearForm
  | .toggleDetails => {w with uploads := w.uploads.toggleDetails}
  | .dismiss => {w with uploads := w.uploads.dismiss}

/-- A click on one of the texts that read alike; `none` when there are not so many. -/
def click? (worksheet : String) (w : Widget) (label : String) (nth : Nat) : Option Widget :=
  ((items worksheet w).filter (·.text == label))[nth]?.map fun i => act w i.action

/-- What typing puts in the place of the whole text of a field; a lone line break is no text. -/
def typed? (text : String) : Option String := if text = "\n" ∨ text = "\r" then none else some text

/-- What stands in a field after typing over it and perhaps pressing Enter, which breaks the line
in the description. -/
def entry (field : Field) (old text : String) (enter : Bool) : String :=
  if field = .description ∧ enter then (typed? text).getD "" ++ "\n" else (typed? text).getD old

/-- The user types over a field. Enter in the tag field adds the tag. -/
def type (w : Widget) (field : Field) (text : String) (enter : Bool) : Widget :=
  if !w.uploads.alerts.isEmpty then w
  else
    let entered (old : String) := entry field old text enter
    match field with
    | .name => {w with form.name := entered w.form.name}
    | .description => {w with form.description := entered w.form.description}
    | .url => {w with form.url := entered w.form.url}
    | .tag =>
      let w := {w with tagInput := entered w.tagInput}
      if enter then w.submitTag else w

end Screen
end WorksheetUpload
