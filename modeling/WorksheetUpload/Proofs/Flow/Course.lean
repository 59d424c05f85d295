import WorksheetUpload.Proofs.Flow.Progress

/-! An upload under way, as what it does next and how it goes on with each answer. Between two of its
steps anything else may happen; when nothing does, its course is the upload as a whole. -/
namespace WorksheetUpload

/-- What remains of an upload. -/
inductive Course
  | ended (final : Phase)
  | tell (e : Event) (rest : Course)
  | create (target : Target) (metadata : Metadata) (next : Except UploadError Handle → Course)
  | read (file : SelectedFile) (next : Except IoFault Bytes → Course)
  | upload (handle : Handle) (params : ContentParams) (contents : Bytes)
      (next : Except UploadError Unit → Course)

/-- What the world has ready for whatever an upload asks of it next. -/
structure Answers where
  creation : Except UploadError Handle
  tree : FileTree
  upload : Except UploadError Unit

namespace Course

def failing (stage : Stage) (e : UploadError) : Course :=
  tell (.phase (.failed stage)) (tell (.alert e.message) (ended (.failed stage)))

def succeeding (h : Handle) : Course :=
  tell (.phase (.completed h)) (tell .reload (ended (.completed h)))

/-- The stage that puts a file into its bundle. -/
def puttingContents (url : Handle → String) (file : SelectedFile) (h : Handle) : Course :=
  read file fun
    | .error e =>
      failing .contents (.contents (url h) (UploadError.reading file.name e).message)
    | .ok contents => upload h (.ofFileName file.name) contents fun
      | .ok () => succeeding h
      | .error e => failing .contents e

/-- The whole of an upload. -/
def ofUpload (url : Handle → String) (target : Target) (p : PendingUpload) : Course :=
  tell (.phase .requested) <| create target p.metadata fun
    | .error e => failing .creation e
    | .ok h =>
      tell (.phase (.created h)) <| tell (.phase (.uploading h)) <| puttingContents url p.file h

/-- Runs a course against a service, with nothing in between. -/
def run (service : Service σ) (tree : FileTree) : Course → σ → Flow σ
  | ended final,s => ⟨final,[],s⟩
  | tell e rest,s => (run service tree rest s).after [.event e]
  | create target metadata next,s =>
    let (answer,s) := service.create target metadata s
    (run service tree (next answer) s).after [.call (.create target metadata answer)]
  | read file next,s => run service tree (next (file.read tree)) s
  | upload h params contents next,s =>
    let (answer,s) := service.upload h params contents s
    (run service tree (next answer) s).after [.call (.upload h params contents answer)]

theorem run_ofUpload (service : Service σ) (tree : FileTree) (target : Target)
    (p : PendingUpload) (s : σ) :
    (ofUpload service.contentsUrl target p).run service tree s =
      Flow.run service tree target (some p) s := by
  cases hc : (service.create target p.metadata s).1 with
  | error e => simp [ofUpload,run,hc,failing,Flow.run,Flow.fail,Flow.after]
  | ok h =>
    cases hr : p.file.read tree with
    | error fault =>
      simp [ofUpload,run,hc,puttingContents,hr,failing,Flow.run,Flow.putContents,Flow.fail,Flow.after]
    | ok contents =>
      cases hu : (service.upload h (.ofFileName p.file.name) contents
          (service.create target p.metadata s).2).1 with
      | error e =>
        simp [ofUpload,run,hc,puttingContents,hr,hu,failing,Flow.run,Flow.putContents,Flow.fail,
          Flow.after]
      | ok _ =>
        simp [ofUpload,run,hc,puttingContents,hr,hu,succeeding,Flow.run,Flow.putContents,
          Flow.succeed,Flow.after]

/-- The next step: what is told, if anything is, and what remains. -/
def step (a : Answers) : Course → Option Event × Course
  | ended final => (none,ended final)
  | tell e rest => (some e,rest)
  | create _ _ next => (none,next a.creation)
  | read file next => (none,next (file.read a.tree))
  | upload _ _ _ next => (none,next a.upload)

/-- With some answers, a course tells these events and ends in this phase. -/
inductive Leads : Course → List Event → Phase → Prop
  | ended (final : Phase) : Leads (ended final) [] final
  | tell {e rest es final} (h : Leads rest es final) : Leads (tell e rest) (e :: es) final
  | create {target metadata next es final} (answer : Except UploadError Handle)
      (h : Leads (next answer) es final) : Leads (create target metadata next) es final
  | read {file next es final} (tree : FileTree) (h : Leads (next (file.read tree)) es final) :
      Leads (read file next) es final
  | upload {handle params contents next es final} (answer : Except UploadError Unit)
      (h : Leads (next answer) es final) : Leads (upload handle params contents next) es final

/-- A step and what it leads to are a way of the course before it. -/
theorem Leads.of_step {c : Course} {a : Answers} {es : List Event} {final : Phase}
    (h : (c.step a).2.Leads es final) : c.Leads ((c.step a).1.toList ++ es) final := by
  cases c with
  | ended final => exact h
  | tell e rest => exact .tell h
  | create target metadata next => exact .create a.creation h
  | read file next => exact .read a.tree h
  | upload handle params contents next => exact .upload a.upload h

/-- Every course can be brought to an end. -/
theorem exists_leads (c : Course) : ∃ es final, c.Leads es final := by
  induction c with
  | ended final => exact ⟨[],final,.ended final⟩
  | tell e rest ih =>
    obtain ⟨es,final,h⟩ := ih
    exact ⟨e :: es,final,.tell h⟩
  | create target metadata next ih =>
    obtain ⟨es,final,h⟩ := ih (.ok ⟨""⟩)
    exact ⟨es,final,.create _ h⟩
  | read file next ih =>
    obtain ⟨es,final,h⟩ := ih (file.read .empty)
    exact ⟨es,final,.read _ h⟩
  | upload handle params contents next ih =>
    obtain ⟨es,final,h⟩ := ih (.ok ())
    exact ⟨es,final,.upload _ h⟩

@[simp] theorem ended_leads_iff {r final : Phase} {es : List Event} :
    (ended r).Leads es final ↔ es = [] ∧ final = r := by
  constructor
  · rintro ⟨⟩; exact ⟨rfl,rfl⟩
  · rintro ⟨rfl,rfl⟩; exact .ended _

@[simp] theorem tell_leads_iff {e : Event} {rest : Course} {es : List Event} {final : Phase} :
    (tell e rest).Leads es final ↔ ∃ later, rest.Leads later final ∧ es = e :: later := by
  constructor
  · rintro ⟨⟩; exact ⟨_,‹_›,rfl⟩
  · rintro ⟨later,h,rfl⟩; exact .tell h

@[simp] theorem create_leads_iff {target : Target} {metadata : Metadata}
    {next : Except UploadError Handle → Course} {es : List Event} {final : Phase} :
    (create target metadata next).Leads es final ↔ ∃ answer, (next answer).Leads es final := by
  constructor
  · rintro ⟨⟩; exact ⟨_,‹_›⟩
  · rintro ⟨answer,h⟩; exact .create answer h

@[simp] theorem read_leads_iff {file : SelectedFile} {next : Except IoFault Bytes → Course}
    {es : List Event} {final : Phase} :
    (read file next).Leads es final ↔ ∃ tree, (next (file.read tree)).Leads es final := by
  constructor
  · rintro ⟨⟩; exact ⟨_,‹_›⟩
  · rintro ⟨tree,h⟩; exact .read tree h

@[simp] theorem upload_leads_iff {handle : Handle} {params : ContentParams} {contents : Bytes}
    {next : Except UploadError Unit → Course} {es : List Event} {final : Phase} :
    (upload handle params contents next).Leads es final ↔
      ∃ answer, (next answer).Leads es final := by
  constructor
  · rintro ⟨⟩; exact ⟨_,‹_›⟩
  · rintro ⟨answer,h⟩; exact .upload answer h

@[simp] theorem failing_leads_iff {stage : Stage} {e : UploadError} {es : List Event}
    {final : Phase} :
    (failing stage e).Leads es final ↔
      es = [.phase (.failed stage),.alert e.message] ∧ final = .failed stage := by
  simp only [failing,tell_leads_iff,ended_leads_iff]
  constructor
  · rintro ⟨_,⟨_,⟨rfl,rfl⟩,rfl⟩,rfl⟩; exact ⟨rfl,rfl⟩
  · rintro ⟨rfl,rfl⟩; exact ⟨_,⟨_,⟨rfl,rfl⟩,rfl⟩,rfl⟩

@[simp] theorem succeeding_leads_iff {h : Handle} {es : List Event} {final : Phase} :
    (succeeding h).Leads es final ↔
      es = [.phase (.completed h),.reload] ∧ final = .completed h := by
  simp only [succeeding,tell_leads_iff,ended_leads_iff]
  constructor
  · rintro ⟨_,⟨_,⟨rfl,rfl⟩,rfl⟩,rfl⟩; exact ⟨rfl,rfl⟩
  · rintro ⟨rfl,rfl⟩; exact ⟨_,⟨_,⟨rfl,rfl⟩,rfl⟩,rfl⟩

/-- A service that gives the same answers whenever it is asked. -/
def constant (url : Handle → String) (creation : Except UploadError Handle)
    (upload : Except UploadError Unit) : Service Unit where
  contentsUrl := url
  create := fun _ _ s => (creation,s)
  upload := fun _ _ _ s => (upload,s)

/-- The course of an upload leads nowhere but where that upload, run by itself, can go: the answers
that led there are those of a service that gives no others. -/
theorem run_of_leads {url : Handle → String} {target : Target} {p : PendingUpload}
    {es : List Event} {final : Phase} (h : (ofUpload url target p).Leads es final) :
    ∃ (service : Service Unit) (tree : FileTree), service.contentsUrl = url ∧
      (Flow.run service tree target (some p) ()).events = es ∧
      (Flow.run service tree target (some p) ()).final = final := by
  simp only [ofUpload,tell_leads_iff,create_leads_iff] at h
  obtain ⟨es,⟨answer,h⟩,rfl⟩ := h
  cases answer with
  | error e =>
    obtain ⟨rfl,rfl⟩ := failing_leads_iff.1 h
    exact ⟨constant url (.error e) (.ok ()),.empty,rfl,rfl,rfl⟩
  | ok handle =>
    simp only [tell_leads_iff,puttingContents,read_leads_iff] at h
    obtain ⟨_,⟨_,⟨tree,h⟩,rfl⟩,rfl⟩ := h
    cases hr : p.file.read tree with
    | error fault =>
      rw [hr] at h
      obtain ⟨rfl,rfl⟩ := failing_leads_iff.1 h
      refine ⟨constant url (.ok handle) (.ok ()),tree,rfl,?_⟩
      simp only [Flow.run,Flow.putContents,hr]
      exact ⟨rfl,rfl⟩
    | ok contents =>
      simp only [hr,upload_leads_iff] at h
      obtain ⟨answer,h⟩ := h
      refine ⟨constant url (.ok handle) answer,tree,rfl,?_⟩
      simp only [Flow.run,Flow.putContents,hr]
      cases answer with
      | error e =>
        obtain ⟨rfl,rfl⟩ := failing_leads_iff.1 h
        exact ⟨rfl,rfl⟩
      | ok _ =>
        obtain ⟨rfl,rfl⟩ := succeeding_leads_iff.1 h
        exact ⟨rfl,rfl⟩

/-- Whatever is answered, the course of an upload tells phases in order, ends in the last of them,
and leaves no alert or reload due. -/
theorem told_of_leads {url : Handle → String} {target : Target} {p : PendingUpload}
    {es : List Event} {final : Phase} (h : (ofUpload url target p).Leads es final) :
    Told es final false ∧ final.isFinished = true := by
  obtain ⟨service,tree,-,rfl,rfl⟩ := run_of_leads h
  obtain ⟨k,-,hf,hs⟩ := Flow.run_fits service tree target p ()
  rw [Flow.events,hf,hs]
  exact ⟨k.told _ target p,by cases k <;> rfl⟩

end Course
end WorksheetUpload
