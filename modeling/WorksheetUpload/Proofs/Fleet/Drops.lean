import WorksheetUpload.Proofs.Fleet.Calls
import WorksheetUpload.Proofs.Fleet.Frame
import WorksheetUpload.Proofs.Fleet.Phases
import WorksheetUpload.Session

/-! What falls on the window goes one way as a whole. Over the directory area all paths are listed
together and nothing is uploaded; anywhere else each item that is a file is uploaded, in order, as the
form describes it at that moment, and what is no file is passed over. -/
namespace WorksheetUpload

/-- The file that a dropped item stands for: one on disk that is no directory and has a name, or one
that came with its contents. -/
inductive DroppedItem.Yields (tree : FileTree) (item : DroppedItem) : SelectedFile → Prop
  | path {path name : Bytes} (here : item.path = some path) (plain : tree.isDir path = false)
      (named : Path.finalName? path = some name) :
      Yields tree item ⟨String.ofList (Utf8.lossy name),.path path⟩
  | contents {bytes : Bytes} (nowhere : item.path = none) (given : item.contents = some bytes) :
      Yields tree item ⟨item.name,.contents bytes⟩

theorem DroppedItem.file?_eq_some_iff {item : DroppedItem} {tree : FileTree} {file : SelectedFile} :
    item.file? tree = some file ↔ item.Yields tree file := by
  obtain ⟨path,name,contents⟩ := item
  constructor
  · intro h
    cases path with
    | some path =>
      cases dir : tree.isDir path with
      | true => simp [file?,dir] at h
      | false =>
        simp only [file?,dir,SelectedFile.ofPath?] at h
        obtain ⟨last,named,rfl⟩ := Option.map_eq_some_iff.1 h
        exact .path rfl dir named
    | none =>
      cases contents with
      | none => cases h
      | some bytes =>
        cases h
        exact .contents rfl rfl
  · intro h
    cases h with
    | path here plain named =>
      obtain rfl : path = _ := here
      simp [file?,plain,SelectedFile.ofPath?,named]
    | contents nowhere given =>
      obtain rfl : path = _ := nowhere
      obtain rfl : contents = _ := given
      rfl

/-- Whether the pointer is somewhere inside an area, as it was painted last. Its edges are inside. -/
def DropZone.Holds (z : DropZone) (pointer : Option Point) : Prop :=
  ∃ p r, pointer = some p ∧ z.rect = some r ∧
    r.min.x ≤ p.x ∧ p.x ≤ r.max.x ∧ r.min.y ≤ p.y ∧ p.y ≤ r.max.y

theorem DropZone.route_eq_directory_iff {z : DropZone} {pointer : Option Point} :
    z.route pointer = .directory ↔ z.Holds pointer := by
  cases pointer with
  | none => simp [route,Holds]
  | some p =>
    cases painted : z.rect with
    | none => simp [route,contains,Holds,painted]
    | some r => simp [route,contains,Holds,painted,Rect.contains,and_assoc]

theorem DropZone.route_eq_file {z : DropZone} {pointer : Option Point} (h : ¬ z.Holds pointer) :
    z.route pointer = .file := by
  cases away : z.route pointer with
  | directory => exact absurd (route_eq_directory_iff.1 away) h
  | file => rfl

namespace Widget

@[simp] theorem update_directoryZone (w : Widget) : w.update.directoryZone = w.directoryZone :=
  foldl_apply_keeps (·.directoryZone) (fun _ n => by cases n <;> rfl) _ _

/-- Files that are selected together get numbers and rows in their order, and are described alike. -/
theorem selectFiles_eq (files : List SelectedFile) (w : Widget) :
    w.selectFiles files =
      ({w with
        uploads.attempts := w.uploads.attempts ++
          files.mapIdx fun k file => ⟨w.uploads.nextId+k,file.name,.idle⟩
        uploads.nextId := w.uploads.nextId + files.length},
       files.mapIdx fun k file => ⟨w.uploads.nextId+k,w.form.pending file⟩) := by
  induction files generalizing w with
  | nil => simp [selectFiles]
  | cons file files ih =>
    simp [selectFiles,ih,selectFile,Uploads.begin,List.mapIdx_cons,Nat.add_assoc,Nat.add_comm 1]

/-- Over the directory area the widget stays as it is, and the paths are to be listed. -/
theorem drop_inside {w : Widget} {pointer : Option Point} (h : w.directoryZone.Holds pointer)
    (tree : FileTree) (items : List DroppedItem) :
    w.drop tree pointer items =
      (w,if items = [] then .none else .listing (items.filterMap (·.path))) := by
  unfold drop
  rw [DropZone.route_eq_directory_iff.2 h]
  cases items <;> rfl

/-- Elsewhere the files among the items are selected. -/
theorem drop_outside {w : Widget} {pointer : Option Point} (h : ¬ w.directoryZone.Holds pointer)
    (tree : FileTree) (items : List DroppedItem) :
    (w.drop tree pointer items).1 = (w.selectFiles (items.filterMap (·.file? tree))).1 ∧
      (w.drop tree pointer items).2.started =
        (w.selectFiles (items.filterMap (·.file? tree))).2 := by
  unfold drop
  rw [DropZone.route_eq_file h]
  cases items <;> exact ⟨rfl,rfl⟩

theorem drop_zones (w : Widget) (tree : FileTree) (pointer : Option Point)
    (items : List DroppedItem) :
    (w.drop tree pointer items).1.directoryZone = w.directoryZone ∧
      (w.drop tree pointer items).1.fileZone = w.fileZone := by
  obtain ⟨files,widget,-⟩ := w.exists_files_of_drop tree pointer items
  rw [widget,selectFiles_eq]
  exact ⟨rfl,rfl⟩

/-- The areas do not matter when notices are taken in. -/
theorem update_zones (w : Widget) (directory file : DropZone) :
    update {w with directoryZone := directory,fileZone := file} =
      {w.update with directoryZone := directory,fileZone := file} := by
  have taken (ns : List Notice) (v : Widget) :
      ns.foldl apply {v with directoryZone := directory,fileZone := file} =
        {ns.foldl apply v with directoryZone := directory,fileZone := file} := by
    induction ns generalizing v with
    | nil => rfl
    | cons n ns ih =>
      rw [List.foldl_cons,List.foldl_cons,← ih]
      cases n <;> rfl
  exact taken w.queue {w with queue := []}

end Widget

/-- Nor when the user types. -/
theorem Screen.type_zones (w : Widget) (directory file : DropZone) (field : Field) (text : String)
    (enter : Bool) :
    type {w with directoryZone := directory,fileZone := file} field text enter =
      {type w field text enter with directoryZone := directory,fileZone := file} := by
  cases shown : w.uploads.alerts.isEmpty with
  | false => simp [type,shown]
  | true =>
    simp only [type,shown]
    cases field <;> cases enter <;> rfl

/-- The listing in a notice. -/
def Notice.captured? : Notice → Option (List Bytes)
  | captured paths => some paths
  | _ => none

/-- What will be shown as captured once all notices are taken in. -/
def Widget.coming (w : Widget) : List Bytes :=
  (w.queue.filterMap Notice.captured?).getLast?.getD w.uploads.captured

/-- The last listing is the one that is shown. -/
theorem Widget.update_captured (w : Widget) : w.update.uploads.captured = w.coming := by
  have taken (ns : List Notice) (v : Widget) : (ns.foldl apply v).uploads.captured =
      (ns.filterMap Notice.captured?).getLast?.getD v.uploads.captured := by
    induction ns generalizing v with
    | nil => rfl
    | cons n ns ih =>
      rw [List.foldl_cons,ih]
      cases n <;> simp [Notice.captured?,apply,Uploads.setPhase,Uploads.alert,Uploads.reload,
        Uploads.capture,List.filterMap_cons,List.getLast?_cons]
  exact taken w.queue _

namespace Session

/-- Once all notices are taken in, a listing is shown as soon as it is done. -/
theorem capture_eq (e : Setting σ) {s : Session σ} (taken : s.widget.queue = [])
    (roots : List Bytes) : s.capture e roots = {s with
      widget.uploads := s.widget.uploads.capture (e.tree.filesBelow roots)} := by
  obtain ⟨⟨form,tagInput,directoryZone,fileZone,uploads,queue,reloadCalls⟩,state,calls,held⟩ := s
  obtain rfl : queue = [] := taken
  rfl

/-- What falls on the directory area is listed and shown as captured; nothing else changes, but for
the areas, where they are painted. -/
theorem drop_inside (e : Setting σ) (s : Session σ) {place : Place} {items : List DroppedItem}
    (fell : items ≠ []) (inside : (s.settle e).widget.directoryZone.Holds place.pointer) :
    s.drop e place items = {s with widget := {s.widget.update with
      uploads := s.widget.update.uploads.capture (e.tree.filesBelow (items.filterMap (·.path)))
      directoryZone := ⟨false,some Place.directoryRect⟩
      fileZone := ⟨false,some Place.fileRect⟩}} := by
  have hovered : ((s.settle e).widget.hover false place.pointer).directoryZone.Holds
      place.pointer := inside
  have dropped := Widget.drop_inside hovered e.tree items
  rw [if_neg fell] at dropped
  have settled : (s.settle e).widget.update = (s.settle e).widget :=
    Widget.update_of_queue_eq_nil s.widget.update_queue
  rw [drop,frame,Widget.frame,settled]
  simp only [dropped]
  exact capture_eq e s.widget.update_queue _

end Session

namespace Fleet

variable (url : Handle → String) (target : Target)

theorem coming_listed (f : Fleet) (paths : List Bytes) :
    (f.step url target (.listed paths)).widget.coming = paths := by
  simp [step,Widget.receive,Widget.coming,Notice.captured?]

/-- Only listings bear on what is captured. -/
theorem coming_step (f : Fleet) {m : Move} (h : ∀ paths, m ≠ .listed paths) :
    (f.step url target m).widget.coming = f.widget.coming := by
  cases m with
  | select file => cases file <;> rfl
  | advance index a =>
    simp only [step]
    split
    case h_1 => rfl
    case h_2 u _ =>
      have silent (e : Event) : (Notice.ofEvent u.started.attempt e).captured? = none := by
        cases e <;> rfl
      cases (u.rest.step a).1 <;> simp [Widget.receiveAll,Widget.coming,silent]
  | listed paths => exact absurd rfl (h paths)
  | update => simp [step,Widget.coming,Widget.update_captured]
  | act action => cases action <;> rfl
  | type field text enter =>
    obtain ⟨form,tagInput,typed⟩ := Screen.type_eq f.widget field text enter
    simp only [step,typed]
    rfl
  | zones directory file => rfl

/-- A listing is shown when it is taken in, unless another one came behind it. -/
theorem captured_of_listed (f : Fleet) (paths : List Bytes) {late : List Move}
    (last : ∀ other, Move.listed other ∉ late) :
    ((.listed paths :: late ++ [Move.update]).foldl (step url target) f).widget.uploads.captured =
      paths := by
  have kept (g : Fleet) : (late.foldl (step url target) g).widget.coming = g.widget.coming := by
    induction late generalizing g with
    | nil => rfl
    | cons m late ih =>
      rw [List.foldl_cons,ih fun other h => last other (List.mem_cons_of_mem _ h)]
      exact coming_step url target g fun other h => last other (h ▸ List.mem_cons_self)
  rw [List.foldl_append,List.foldl_cons,List.foldl_cons,List.foldl_nil]
  calc (step url target (late.foldl (step url target) (f.step url target (.listed paths)))
          .update).widget.uploads.captured
      = (late.foldl (step url target) (f.step url target (.listed paths))).widget.coming :=
        Widget.update_captured _
    _ = (f.step url target (.listed paths)).widget.coming := kept _
    _ = paths := coming_listed url target f paths

/-- Moving the areas first leads to where moving them afterwards does. -/
theorem step_zones (f : Fleet) (directory file : DropZone) (m : Move) :
    ∃ directory' file', (f.step url target (.zones directory file)).step url target m =
      (f.step url target m).step url target (.zones directory' file') := by
  cases m with
  | select selected => cases selected <;> exact ⟨directory,file,rfl⟩
  | advance index a =>
    refine ⟨directory,file,?_⟩
    simp only [step]
    split <;> rfl
  | listed paths => exact ⟨directory,file,rfl⟩
  | update => exact ⟨directory,file,by simp only [step,Widget.update_zones]⟩
  | act action => exact ⟨directory,file,by cases action <;> rfl⟩
  | type field text enter => exact ⟨directory,file,by simp only [step,Screen.type_zones]⟩
  | zones directory' file' => exact ⟨directory',file',rfl⟩

/-- The areas do not matter to the service. -/
theorem callsBy_zones (f : Fleet) (directory file : DropZone) (i : Nat) (moves : List Move) :
    (f.step url target (.zones directory file)).callsBy url target i moves =
      f.callsBy url target i moves := by
  induction moves generalizing f directory file with
  | nil => rfl
  | cons m ms ih =>
    obtain ⟨directory',file',same⟩ := step_zones url target f directory file m
    rw [callsBy,same,ih]
    cases m <;> rfl

variable (f : Fleet) (tree : FileTree) (directory file : Rect) (frame : Widget.Frame)

/-- A frame in which things fall on the directory area takes in the notices and moves the areas. -/
theorem frame_inside (h : f.widget.directoryZone.Holds frame.pointer) :
    (∃ directory' file', f.frame url target tree directory file frame =
      (f.step url target .update).step url target (.zones directory' file')) ∧
    (frame.dropped ≠ [] → (f.widget.frame tree directory file frame).2 =
      .listing (frame.dropped.filterMap (·.path))) := by
  have inside : (f.widget.update.hover frame.hovering frame.pointer).directoryZone.Holds
      frame.pointer := by
    simpa [Widget.hover,DropZone.Holds] using h
  have drop := Widget.drop_inside inside tree frame.dropped
  constructor
  · let painted :=
      (f.widget.update.hover frame.hovering frame.pointer).paint directory file
    refine ⟨painted.directoryZone,painted.fileZone,?_⟩
    rw [Fleet.frame,Widget.frame,drop]
    cases frame.dropped <;> simp [step,painted,Widget.paint,Widget.hover,Widget.Work.started]
  · intro fell
    rw [Widget.frame,drop,if_neg fell]

/-- A frame in which things fall elsewhere begins uploads of the files among them. -/
theorem frame_outside (h : ¬ f.widget.directoryZone.Holds frame.pointer) :
    let files := frame.dropped.filterMap (·.file? tree)
    let n := f.widget.uploads.nextId
    (f.frame url target tree directory file frame).widget.uploads =
      {f.widget.update.uploads with
        attempts := f.widget.update.uploads.attempts ++
          files.mapIdx fun k selected => ⟨n+k,selected.name,.idle⟩
        nextId := n + files.length} ∧
    (f.frame url target tree directory file frame).underway = f.underway ++
      (files.mapIdx fun k selected => ⟨n+k,f.widget.form.pending selected⟩).map
        (underwayOf url target) := by
  intro files n
  let hovered := f.widget.update.hover frame.hovering frame.pointer
  have outside : ¬ hovered.directoryZone.Holds frame.pointer := by
    simpa [hovered,Widget.hover,DropZone.Holds] using h
  obtain ⟨widget,started⟩ := Widget.drop_outside outside tree frame.dropped
  have number : hovered.uploads.nextId = n := Widget.update_nextId f.widget
  have form : hovered.form = f.widget.form := Widget.update_form f.widget
  rw [Widget.selectFiles_eq,number] at widget started
  rw [form] at started
  constructor
  · exact congrArg (·.uploads) widget
  · exact congrArg (fun begun => f.underway ++ begun.map (underwayOf url target)) started

/-- One area at most lights up: the one under the pointer, while something hovers. -/
theorem frame_zones :
    let g := f.frame url target tree directory file frame
    (g.widget.directoryZone.hovering = true ↔
      frame.hovering = true ∧ f.widget.directoryZone.Holds frame.pointer) ∧
    (g.widget.fileZone.hovering = true ↔
      frame.hovering = true ∧ ¬ f.widget.directoryZone.Holds frame.pointer) ∧
    g.widget.directoryZone.rect = some directory ∧ g.widget.fileZone.rect = some file := by
  intro g
  let hovered := f.widget.update.hover frame.hovering frame.pointer
  obtain ⟨directoryZone,fileZone⟩ := hovered.drop_zones tree frame.pointer frame.dropped
  have directoryHovers : g.widget.directoryZone.hovering = hovered.directoryZone.hovering :=
    congrArg (·.hovering) directoryZone
  have fileHovers : g.widget.fileZone.hovering = hovered.fileZone.hovering :=
    congrArg (·.hovering) fileZone
  rw [directoryHovers,fileHovers,← DropZone.route_eq_directory_iff]
  refine ⟨?_,?_,rfl,rfl⟩ <;>
    cases hovers : frame.hovering <;> cases away : f.widget.directoryZone.route frame.pointer <;>
      simp [hovered,Widget.hover,hovers,away]

/-- Drops go one way as a whole, and nothing is lost, in any frame of any run, which the run goes on
from. Over the directory area, as it was painted last, nothing is uploaded, then or later, that would
not have been; the paths that fell are listed, and their files replace what was captured before.
Elsewhere each item that is a file gets a row and a number of its own, in order, and an upload, which
creates one bundle described as the form was in that frame, whatever is done later; and what was
captured stays. One area at most lights up, and none when nothing hovers. A session, in which what is
started comes to its end at once, shows the files below the paths that fell on the directory area, and
makes no call for them. -/
theorem drops_lose_nothing (moves : List Move) :
    let f := run url target moves
    let g := f.frame url target tree directory file frame
    let before := f.widget.update.uploads
    let files := frame.dropped.filterMap (·.file? tree)
    let roots := frame.dropped.filterMap (·.path)
    let n := f.underway.length
    (∀ (item : DroppedItem) (selected : SelectedFile),
      item.file? tree = some selected ↔ item.Yields tree selected) ∧
    (∃ own, run url target (moves ++ own) = g) ∧
    (f.widget.directoryZone.Holds frame.pointer →
      g.widget.uploads = before ∧ g.underway = f.underway ∧
      (∀ i later, g.callsBy url target i later =
        (f.step url target .update).callsBy url target i later) ∧
      (frame.dropped ≠ [] → (f.widget.frame tree directory file frame).2 = .listing roots) ∧
      ∀ (tree' : FileTree) (early late : List Move), (∀ paths, Move.listed paths ∉ late) →
        ((early ++ .listed (tree'.filesBelow roots) :: late ++ [Move.update]).foldl
          (step url target) g).widget.uploads.captured = tree'.filesBelow roots) ∧
    (¬ f.widget.directoryZone.Holds frame.pointer →
      (∀ a ∈ before.attempts, a.id < n) ∧
      g.widget.uploads = {before with
        attempts := before.attempts ++ files.mapIdx fun k selected => ⟨n+k,selected.name,.idle⟩
        nextId := n + files.length} ∧
      g.underway = f.underway ++
        (files.mapIdx fun k selected => ⟨n+k,f.widget.form.pending selected⟩).map
          (underwayOf url target) ∧
      ∀ k selected, files[k]? = some selected → ∀ later : List Move,
        let made := creations (g.callsBy url target (n+k) later)
        let own := [(target,f.widget.form.metadataFor selected.name)]
        made <+: own ∧ ∀ u final, (later.foldl (step url target) g).underway[n+k]? = some u →
          u.rest = .ended final → made = own) ∧
    (g.widget.directoryZone.hovering = true ↔
      frame.hovering = true ∧ f.widget.directoryZone.Holds frame.pointer) ∧
    (g.widget.fileZone.hovering = true ↔
      frame.hovering = true ∧ ¬ f.widget.directoryZone.Holds frame.pointer) ∧
    (g.widget.directoryZone.rect = some directory ∧ g.widget.fileZone.rect = some file) ∧
    ∀ {σ : Type} (e : Setting σ) (s : Session σ) (place : Place) (items : List DroppedItem),
      items ≠ [] → (s.settle e).widget.directoryZone.Holds place.pointer →
      let t := s.drop e place items
      t.widget.uploads =
        s.widget.update.uploads.capture (e.tree.filesBelow (items.filterMap (·.path))) ∧
      t.state = s.state ∧ t.calls = s.calls ∧ t.held = s.held := by
  intro f g before files roots n
  obtain ⟨directoryLit,fileLit,painted⟩ := frame_zones url target f tree directory file frame
  refine ⟨fun _ _ => DroppedItem.file?_eq_some_iff,?run,?inside,?outside,directoryLit,fileLit,painted,
    ?session⟩
  case run =>
    obtain ⟨own,led⟩ := exists_moves_of_frame url target f tree directory file frame
    exact ⟨own,List.foldl_append.trans led⟩
  case inside =>
    intro inside
    obtain ⟨⟨d,z,same⟩,work⟩ := frame_inside url target f tree directory file frame inside
    have same : g = (f.step url target .update).step url target (.zones d z) := same
    refine ⟨by rw [same]; rfl,by rw [same]; rfl,?_,work,?_⟩
    · intro i later
      rw [same,callsBy_zones]
    · intro tree' early late last
      rw [List.append_assoc,List.foldl_append]
      exact captured_of_listed url target _ _ last
  case outside =>
    intro outside
    obtain ⟨uploads,underway⟩ := frame_outside url target f tree directory file frame outside
    obtain ⟨sent,sound⟩ : ∃ sent, f.Sound url target sent := run_sound url target moves
    obtain ⟨later,updated⟩ := sound.step .update
    have number : f.widget.uploads.nextId = n := sound.comes.nextId
    have underway : g.underway = _ := underway
    rw [number] at uploads underway
    refine ⟨?_,uploads,underway,?_⟩
    · intro a ha
      have given : a.id ∈ List.range n := updated.ids ▸ List.mem_map_of_mem ha
      exact List.mem_range.1 given
    · intro k selected chosen later made own
      have begun : g.underway[n+k]? =
          some (underwayOf url target ⟨n+k,f.widget.form.pending selected⟩) := by
        rw [underway,List.getElem?_append_right (Nat.le_add_right n k),Nat.add_sub_cancel_left]
        simp [files,chosen]
      exact creations_of_begun url target begun later
  case session =>
    intro σ e s place items fell inside
    rw [Session.drop_inside e s fell inside]
    exact ⟨rfl,rfl,rfl,rfl⟩

/-- What is neither on disk nor has contents is passed over, and takes no number. -/
example :
    let items : List DroppedItem := [⟨none,"a",some []⟩,⟨none,"b",none⟩,⟨none,"c",some []⟩]
    (Widget.initial.drop .empty none items).1.uploads.attempts.map (fun a => (a.id,a.fileName)) =
      [(0,"a"),(1,"c")] := by decide

end Fleet
end WorksheetUpload
