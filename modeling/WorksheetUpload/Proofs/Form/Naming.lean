import WorksheetUpload.Form
import WorksheetUpload.Proofs.Client.Query
import WorksheetUpload.Proofs.Flow.Ending
import WorksheetUpload.Proofs.Text.Blank

/-! The names of one upload. Its bundle goes by the name in the form, or else by one made of the
file's; the contents are stored under the latter, with the suffix of the file behind it. -/
namespace WorksheetUpload

namespace FileName

theorem not_isBlank_of_canStand {c : Char} (h : CanStand c) : Text.isBlank c = false :=
  forall_bundleChars (isBundleChar_iff.2 h) (by decide)

theorem IsBundleName.tight {text : List Char} (h : IsBundleName text) : Text.Tight text :=
  .of_forall fun c hc => not_isBlank_of_canStand (h.canStand c hc)

theorem replaced_eq_dash_iff {c : Char} : replaced c = '-' ↔ Replaces c '-' := by
  constructor
  · intro same
    exact same ▸ replaces_replaced c
  · intro h
    cases h with
    | kept fit => rfl
    | dashed unfit => exact if_neg fun fits => unfit (isBundleChar_iff.1 fits)

/-- A character that is no dash only comes of itself. -/
theorem replaced_eq_iff {c d : Char} (dash : d ≠ '-') (hd : isBundleChar d = true) :
    replaced c = d ↔ c = d := by
  constructor
  · unfold replaced
    split
    case isTrue => exact id
    case isFalse => exact fun same => absurd same.symm dash
  · rintro rfl
    exact replaced_of_isBundleChar hd

theorem map_replaced_eq_iff {word : List Char} (h : ∀ d ∈ word, d ≠ '-' ∧ isBundleChar d = true)
    (text : List Char) : text.map replaced = word ↔ text = word := by
  have same := map_eq_map_iff (f := replaced) (g := id)
    (fun d hd _ => replaced_eq_iff (h d hd).1 (h d hd).2) text
  rwa [List.map_id] at same

theorem withStart_eq_untitled_iff {text : List Char} :
    withStart text = untitled.toList ↔ text = untitled.toList := by
  have first : untitled.toList = 'u' :: "ntitled-upload".toList := by decide
  rw [first]
  cases text with
  | nil => rfl
  | cons c text =>
    rcases withStart_cons_cases c text with ⟨-,same⟩ | ⟨other,behind⟩
    · rw [same]
    · rw [behind]
      have letter : CanBegin 'u' := by unfold CanBegin; decide
      refine iff_of_false (fun same => ?_) fun same => other ((List.cons.inj same).1 ▸ letter)
      exact absurd (List.cons.inj same).1 (by decide)

/-- The name that stands for none can also be made of a file's, and then any character that may not
stand in a name can be in the place of its dash. -/
theorem bundleName_eq_untitled_iff {name : List Char} : bundleName name = untitled.toList ↔
    name = [] ∨ ∃ c, Replaces c '-' ∧ stem name = "untitled".toList ++ c :: "upload".toList := by
  have letters : ∀ d ∈ "untitled".toList ++ "upload".toList, d ≠ '-' ∧ isBundleChar d = true := by
    simp [isBundleChar]
  obtain ⟨front,back⟩ := List.forall_mem_append.1 letters
  have dash : untitled.toList = "untitled".toList ++ '-' :: "upload".toList := by decide
  rw [bundleName,← stem_eq_nil_iff]
  by_cases empty : stem name = []
  case pos => simp [empty,ofStem]
  case neg =>
    rw [ofStem_of_ne_nil empty,withStart_eq_untitled_iff,dash,or_iff_right empty]
    simp only [List.map_eq_append_iff,List.map_eq_cons_iff,map_replaced_eq_iff front,
      map_replaced_eq_iff back,replaced_eq_dash_iff]
    constructor
    · rintro ⟨_,_,parts,rfl,c,_,rfl,stands,rfl⟩
      exact ⟨c,stands,parts⟩
    · rintro ⟨c,stands,parts⟩
      exact ⟨_,_,parts,rfl,c,_,rfl,stands,rfl⟩

/-- There is a suffix just if the name announces an archive. -/
theorem isArchive_iff {name : List Char} : isArchive name = true ↔ suffix name ≠ [] := by
  cases h : Archive.ofName? name with
  | none => simp [isArchive,suffix,h]
  | some a =>
    obtain ⟨rest,dot⟩ := a.exists_suffix_eq
    have spelt := map_toLower_suffix h
    refine iff_of_true (by rw [isArchive,h]; rfl) fun equal => ?_
    rw [equal,dot] at spelt
    cases spelt

end FileName

namespace Form

variable {f : Form}

/-- Whether the form has a name of its own for a bundle. -/
def HasName (f : Form) : Prop :=
  Text.trimmed f.name ≠ "" ∧ Text.trimmed f.name ≠ "untitled-upload"

/-- What a call says of a file and of its bundle, as it was when the file was selected. -/
inductive Tells (p : PendingUpload) : Call → Prop
  | create {target : Target} {answer : Except UploadError Handle} :
      Tells p (.create target p.metadata answer)
  | upload {h : Handle} {contents : Bytes} {answer : Except UploadError Unit} :
      Tells p (.upload h (.ofFileName p.file.name) contents answer)

theorem bundleName_of_hasName (h : f.HasName) (fileName : String) :
    f.bundleName fileName = Text.trimmed f.name :=
  if_neg fun useless => useless.elim h.1 h.2

theorem bundleName_of_not_hasName (h : ¬ f.HasName) (fileName : String) :
    f.bundleName fileName = String.ofList (FileName.bundleName fileName.toList) :=
  if_pos (by simpa [HasName,FileName.untitled,or_iff_not_imp_left] using h)

/-- A name is not empty and has no blanks around it, wherever it comes from. -/
theorem tight_bundleName (f : Form) (fileName : String) :
    f.bundleName fileName ≠ "" ∧ Text.Tight (f.bundleName fileName).toList := by
  by_cases own : f.HasName
  case pos =>
    rw [bundleName_of_hasName own]
    refine ⟨own.1,?_⟩
    rw [Text.trimmed,String.toList_ofList]
    exact Text.tight_trim _
  case neg =>
    have form : FileName.IsBundleName (FileName.bundleName fileName.toList) :=
      FileName.isBundleName_ofStem _
    rw [bundleName_of_not_hasName own,String.toList_ofList]
    exact ⟨by simpa using form.ne_nil,form.tight⟩

/-- The name in the form is taken if it is one, and otherwise just where it is what comes of the
file. -/
theorem bundleName_eq_trimmed_iff (f : Form) (fileName : String) :
    f.bundleName fileName = Text.trimmed f.name ↔ f.HasName ∨
      Text.trimmed f.name = "untitled-upload" ∧
        FileName.bundleName fileName.toList = "untitled-upload".toList := by
  by_cases own : f.HasName
  case pos => exact iff_of_true (bundleName_of_hasName own fileName) (.inl own)
  case neg =>
    have named : FileName.bundleName fileName.toList ≠ [] :=
      (FileName.isBundleName_ofStem _).ne_nil
    have useless : Text.trimmed f.name = "" ∨ Text.trimmed f.name = "untitled-upload" := by
      simpa [HasName,or_iff_not_imp_left] using own
    rw [bundleName_of_not_hasName own,or_iff_right own]
    rcases useless with empty | untitled
    · simp [empty,named]
    · rw [untitled,← String.toList_inj,String.toList_ofList]
      exact (and_iff_right rfl).symm

/-- Blanks around the name in the form do not matter. -/
theorem pending_padded {before after : List Char} (hb : Text.Blanks before)
    (ha : Text.Blanks after) (f : Form) (file : SelectedFile) :
    {f with name := String.ofList (before ++ f.name.toList ++ after)}.pending file =
      f.pending file := by
  have same : Text.trimmed (String.ofList (before ++ f.name.toList ++ after)) =
      Text.trimmed f.name := by
    rw [Text.trimmed,String.toList_ofList,Text.trim_padded hb ha,Text.trimmed]
  simp only [pending,metadataFor,bundleName,same]

theorem sourceUrl_pending_iff (f : Form) (file : SelectedFile) (url : String) :
    (f.pending file).sourceUrl = some url ↔ url = Text.trimmed f.url ∧ url ≠ "" := by
  simp only [pending]
  split
  case isTrue none => simp [none]
  case isFalse there =>
    rw [Option.some.injEq,eq_comm]
    exact ⟨fun same => ⟨same,same ▸ there⟩,And.left⟩

/-- All that an upload tells the service was settled when its file was selected. -/
theorem tells_of_mem_calls {service : Service σ} {tree : FileTree} {target : Target}
    {p : PendingUpload} {s : σ} :
    ∀ call ∈ (Flow.run service tree target (some p) s).calls, Tells p call := by
  obtain ⟨k,-,-,steps⟩ := Flow.run_fits service tree target p s
  have calls : (Flow.run service tree target (some p) s).calls =
      (k.steps service.contentsUrl target p).filterMap Step.call? := by
    rw [Flow.calls,steps]
  rw [calls]
  cases k
  case refused | unread => exact List.forall_mem_singleton.2 .create
  case rejected | stored =>
    exact List.forall_mem_cons.2 ⟨.create,List.forall_mem_singleton.2 .upload⟩

/-- What goes behind the name of a bundle to make that of the contents. -/
theorem filename_of_not_hasName (h : ¬ f.HasName) (fileName : String) :
    (ContentParams.ofFileName fileName).filename.toList =
      (f.bundleName fileName).toList ++ FileName.suffix fileName.toList := by
  rw [bundleName_of_not_hasName h,String.toList_ofList]
  exact String.toList_ofList

/-- A bundle has a name without blanks around it: that of the form if there is one in it, and
otherwise the one under which the contents are stored, less the suffix that makes the file an
archive. The two are the same by chance where the form says that there is none and the file's comes
to the same. Blanks around what the form says do not matter, and what was settled when the file was
selected is all that the service is told. -/
theorem upload_names_agree (f : Form) (file : SelectedFile) :
    let p := f.pending file
    let name := file.name.toList
    (p.metadata.name ≠ "" ∧ Text.Tight p.metadata.name.toList) ∧
    (p.metadata.name = Text.trimmed f.name ↔ f.HasName ∨
      Text.trimmed f.name = "untitled-upload" ∧ (file.name = "" ∨ ∃ c,
        FileName.Replaces c '-' ∧
          FileName.stem name = "untitled".toList ++ c :: "upload".toList)) ∧
    (¬ f.HasName → ∃ s,
      (ContentParams.ofFileName file.name).filename.toList = p.metadata.name.toList ++ s ∧
      (∀ a, Archive.ofName? name = some a → s <:+ name ∧ s.map Char.toLower = a.suffix.toList) ∧
      (Archive.ofName? name = none → s = []) ∧
      ((ContentParams.ofFileName file.name).unpack = true ↔ s ≠ [])) ∧
    (∀ before after, Text.Blanks before → Text.Blanks after →
      {f with name := String.ofList (before ++ f.name.toList ++ after)}.pending file = p) ∧
    (∀ url, p.sourceUrl = some url ↔ url = Text.trimmed f.url ∧ url ≠ "") ∧
    ∀ (σ : Type) (service : Service σ) (tree : FileTree) (target : Target) (s : σ),
      ∀ call ∈ (Flow.run service tree target (some p) s).calls, Tells p call := by
  intro p name
  have nothing : file.name = "" ↔ name = [] := by simp [name]
  have made : p.metadata.name = f.bundleName file.name := by simp only [p,pending,metadataFor]
  rw [made]
  refine ⟨tight_bundleName f file.name,?_,?_,?_,?_,?_⟩
  · rw [nothing,← FileName.bundleName_eq_untitled_iff]
    exact bundleName_eq_trimmed_iff f file.name
  · intro unnamed
    refine ⟨FileName.suffix name,filename_of_not_hasName unnamed file.name,?_,?_,
      FileName.isArchive_iff⟩
    · intro a h
      exact ⟨⟨_,FileName.stem_append_suffix name⟩,FileName.map_toLower_suffix h⟩
    · intro h
      rw [FileName.suffix,h]
  · exact fun before after hb ha => pending_padded hb ha f file
  · exact sourceUrl_pending_iff f file
  · exact fun σ service tree target s => tells_of_mem_calls

/-- A form that nobody touched, and a file without a name. -/
theorem untitled_by_chance :
    let f := Form.initial
    let file := SelectedFile.ofContents "" []
    ¬ ((f.pending file).metadata.name = Text.trimmed f.name ↔
      Text.trimmed f.name ≠ "" ∧ Text.trimmed f.name ≠ "untitled-upload") := by
  decide

end Form
end WorksheetUpload
