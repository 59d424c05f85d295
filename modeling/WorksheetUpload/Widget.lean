import WorksheetUpload.DropZone
import WorksheetUpload.Flow
import WorksheetUpload.Form
import WorksheetUpload.Uploads

/-! The upload widget. Uploads run beside it and leave notices in its queue, which it takes in when
it is updated; whatever the user does starts from the widget as it is at that moment. -/
namespace WorksheetUpload

/-- What arrives at the widget from outside. -/
inductive Notice
  | phase (attempt : Nat) (phase : Phase)
  | alert (text : String)
  | reload
  | captured (paths : List Bytes)
  deriving DecidableEq, Repr

/-- What an upload leaves in the queue, under its number. -/
def Notice.ofEvent (attempt : Nat) : Event → Notice
  | .phase p => phase attempt p
  | .alert text => alert text
  | .reload => reload

/-- An upload that was begun, to be run beside the widget. -/
structure Started where
  attempt : Nat
  pending : PendingUpload
  deriving DecidableEq

structure Widget where
  form : Form
  tagInput : String
  directoryZone : DropZone
  fileZone : DropZone
  uploads : Uploads
  /-- Notices that arrived and were not taken in. -/
  queue : List Notice
  /-- How often the owner of the widget was told to reload the worksheet. -/
  reloadCalls : Nat

namespace Widget

def initial : Widget := ⟨.initial,"",⟨false,none⟩,⟨false,none⟩,.initial,[],0⟩

/-- Takes in one notice. A reload is passed on to the owner. -/
def apply (w : Widget) : Notice → Widget
  | .phase attempt phase => {w with uploads := w.uploads.setPhase attempt phase}
  | .alert text => {w with uploads := w.uploads.alert text}
  | .reload => {w with uploads := w.uploads.reload,reloadCalls := w.reloadCalls+1}
  | .captured paths => {w with uploads := w.uploads.capture paths}

/-- A notice arrives. -/
def receive (w : Widget) (n : Notice) : Widget := {w with queue := w.queue ++ [n]}

def receiveAll (w : Widget) (ns : List Notice) : Widget := {w with queue := w.queue ++ ns}

/-- Takes in all notices that arrived, in order. -/
def update (w : Widget) : Widget := w.queue.foldl apply {w with queue := []}

/-- Begins the upload of a file, as the form describes it now. -/
def selectFile (w : Widget) (file : SelectedFile) : Widget × Started :=
  let (uploads,id) := w.uploads.begin file.name
  ({w with uploads},⟨id,w.form.pending file⟩)

/-- Begins uploads of several files in order. -/
def selectFiles (w : Widget) : List SelectedFile → Widget × List Started
  | [] => (w,[])
  | f :: fs =>
    let first := w.selectFile f
    let rest := first.1.selectFiles fs
    (rest.1,first.2 :: rest.2)

/-- Clears all that the user entered. -/
def clearForm (w : Widget) : Widget := {w with form := .initial,tagInput := ""}

/-- Adds what stands in the tag field as a tag, and empties the field. -/
def submitTag (w : Widget) : Widget :=
  {w with form := (w.form.addTag w.tagInput).1,tagInput := ""}

/-- What a drop starts: a listing of directories, or uploads of files. -/
inductive Work
  | none
  | listing (roots : List Bytes)
  | uploads (started : List Started)

/-- The area that lights up: the one under the pointer, while there is something to drop. -/
def hover (w : Widget) (hovering : Bool) (pointer : Option Point) : Widget :=
  let target := if hovering then some (w.directoryZone.route pointer) else Option.none
  {w with
    directoryZone.hovering := target == some .directory
    fileZone.hovering := target == some .file}

/-- Things fall on the window. On the directory area all paths are listed together; elsewhere each
file is uploaded, and what is no file is passed over. -/
def drop (w : Widget) (tree : FileTree) (pointer : Option Point) (items : List DroppedItem) :
    Widget × Work :=
  if items.isEmpty then (w,.none)
  else match w.directoryZone.route pointer with
    | .directory => (w,.listing (items.filterMap (·.path)))
    | .file =>
      let p := w.selectFiles (items.filterMap (·.file? tree))
      (p.1,.uploads p.2)

/-- Painting shows where the areas are. -/
def paint (w : Widget) (directory file : Rect) : Widget :=
  {w with directoryZone.rect := some directory,fileZone.rect := some file}

/-- What a frame brings: the pointer, whether something hovers over the window, and what falls. -/
structure Frame where
  pointer : Option Point
  hovering : Bool
  dropped : List DroppedItem

/-- A frame in which nothing happens. -/
def Frame.idle : Frame := ⟨none,false,[]⟩

/-- One frame: notices first, then what hovers and falls, then the areas where they are painted. -/
def frame (w : Widget) (tree : FileTree) (directory file : Rect) (f : Frame) : Widget × Work :=
  let p := (w.update.hover f.hovering f.pointer).drop tree f.pointer f.dropped
  (p.1.paint directory file,p.2)

end Widget
end WorksheetUpload
