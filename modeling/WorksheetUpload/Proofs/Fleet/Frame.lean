import WorksheetUpload.Proofs.Fleet.Basic

/-! Frames of the window as moves. Whatever a frame brings, it takes in the notices, begins uploads
and changes areas, so that what holds of all runs holds of all frames. -/
namespace WorksheetUpload

/-- The uploads that a drop begins. -/
def Widget.Work.started : Widget.Work → List Started
  | none => []
  | listing _ => []
  | uploads started => started

/-- A drop selects the files that are in it, where they count as files. -/
theorem Widget.exists_files_of_drop (w : Widget) (tree : FileTree) (pointer : Option Point)
    (items : List DroppedItem) :
    ∃ files, (w.drop tree pointer items).1 = (w.selectFiles files).1 ∧
      (w.drop tree pointer items).2.started = (w.selectFiles files).2 := by
  unfold drop
  split
  case isTrue => exact ⟨[],rfl,rfl⟩
  case isFalse =>
    split
    case h_1 => exact ⟨[],rfl,rfl⟩
    case h_2 => exact ⟨_,rfl,rfl⟩

namespace Fleet

variable (url : Handle → String) (target : Target)

/-- An upload that has done nothing yet. -/
def underwayOf (u : Started) : Underway := ⟨u,.ofUpload url target u.pending⟩

/-- Selecting several files is selecting one after another. -/
theorem select_all (files : List SelectedFile) (f : Fleet) :
    (files.map fun file => Move.select (some file)).foldl (step url target) f =
      {f with
        widget := (f.widget.selectFiles files).1
        underway := f.underway ++ (f.widget.selectFiles files).2.map (underwayOf url target)} := by
  induction files generalizing f with
  | nil => simp [Widget.selectFiles]
  | cons file files ih =>
    rw [List.map_cons,List.foldl_cons,ih]
    simp [step,Widget.selectFiles,underwayOf]

/-- A frame over a fleet. Nothing is dismissed in it, and the uploads that it begins run beside the
others. -/
def frame (f : Fleet) (tree : FileTree) (directory file : Rect) (frame : Widget.Frame) : Fleet where
  widget := (f.widget.frame tree directory file frame).1
  underway := f.underway ++
    (f.widget.frame tree directory file frame).2.started.map (underwayOf url target)
  taken := f.taken ++ f.widget.queue
  dismissed := f.dismissed

/-- A frame is a run of moves. -/
theorem exists_moves_of_frame (f : Fleet) (tree : FileTree) (directory file : Rect)
    (frame : Widget.Frame) : ∃ moves : List Move,
      moves.foldl (step url target) f = f.frame url target tree directory file frame := by
  let hovered := f.widget.update.hover frame.hovering frame.pointer
  obtain ⟨files,hw,hs⟩ := hovered.exists_files_of_drop tree frame.pointer frame.dropped
  let painted := (hovered.selectFiles files).1.paint directory file
  refine ⟨[.update,.zones hovered.directoryZone hovered.fileZone] ++
    files.map (fun file => .select (some file)) ++
      [.zones painted.directoryZone painted.fileZone],?_⟩
  rw [List.foldl_append,List.foldl_append,select_all]
  have hf : f.widget.frame tree directory file frame =
      (painted,(hovered.drop tree frame.pointer frame.dropped).2) := by
    rw [Widget.frame,hw]
  rw [Fleet.frame,hf,hs]
  rfl

end Fleet
end WorksheetUpload
