import WorksheetUpload.Proofs.Flow.Ending
import WorksheetUpload.Proofs.Path.LastName
import WorksheetUpload.Proofs.Text.Utf8

/-! Files on disk. A file goes by the last name of its path, read as text as far as it is text, and is
read by the path itself, octet by octet. So files whose names are told alike are still themselves. -/
namespace WorksheetUpload.SelectedFile

theorem ofPath?_eq_some_iff {p : Bytes} {f : SelectedFile} : ofPath? p = some f ↔
    ∃ name, Path.finalName? p = some name ∧ f = ⟨String.ofList (Utf8.lossy name),.path p⟩ := by
  rw [ofPath?,Option.map_eq_some_iff]
  simp only [eq_comm]

/-- A name on disk is still one when it has been read as text. -/
theorem lossy_name {name : Bytes} (present : name ≠ []) (whole : Path.slash ∉ name)
    (here : name ≠ Path.dot) (up : name ≠ Path.dotDot) :
    Utf8.lossy name ≠ [] ∧ '/' ∉ Utf8.lossy name ∧ Utf8.lossy name ≠ ['.'] ∧
      Utf8.lossy name ≠ ['.','.'] := by
  have kept {text : List Char} (plain : '\uFFFD' ∉ text) (same : Utf8.lossy name = text) :
      name = Utf8.encode text := by
    rw [← same] at plain ⊢
    exact (Utf8.encode_lossy plain).symm
  refine ⟨mt Utf8.lossy_eq_nil_iff.1 present,?_,?_,?_⟩
  · intro there
    have octet : [Path.slash] <:+: name := Utf8.infix_of_mem_lossy there (by decide)
    exact whole (octet.subset (List.mem_singleton_self _))
  · intro same
    exact here (kept (by decide) same)
  · intro same
    exact up (kept (by decide) same)

/-- A file on disk goes by the last name of its path. There is none if nothing is left of the path
without the slashes and the steps to the same place behind it, or such a step, or a path that ends
leading up; and more of these behind the path change nothing. The name is read as text and is still
one, but the file is read by its path, so that another file whose name is told alike uploads its own
contents under the same name. -/
theorem file_on_disk (p : Bytes) :
    (∃ q last rest, Path.Cut p q last rest) ∧
    (∀ q last rest, Path.Cut p q last rest →
      (ofPath? p = none ↔ q = [] ∨ q = Path.dot ∨ last = Path.dotDot) ∧
      ∀ f, ofPath? p = some f → f.name = String.ofList (Utf8.lossy last)) ∧
    (∀ rest, Path.Idle rest → (ofPath? (p ++ rest)).map name = (ofPath? p).map name) ∧
    ∀ f, ofPath? p = some f →
      (f.name ≠ "" ∧ '/' ∉ f.name.toList ∧ f.name ≠ "." ∧ f.name ≠ "..") ∧
      (∀ tree, f.read tree = tree.read p) ∧
      ∀ p' f', ofPath? p' = some f' → f'.name = f.name →
        ∀ (σ : Type) (service : Service σ) (tree : FileTree) (target : Target) (u : PendingUpload)
          (s : σ) (h : Handle) (params : ContentParams) (contents : Bytes), u.file = f' →
          ((∃ answer, .upload h params contents answer ∈
              (Flow.run service tree target (some u) s).calls) ↔
            (service.create target u.metadata s).1 = .ok h ∧ .ofFileName f.name = params ∧
              tree.read p' = .ok contents) := by
  refine ⟨Path.exists_cut p,?_,?_,?_⟩
  · intro q last rest cut
    constructor
    · rw [ofPath?,Option.map_eq_none_iff,cut.finalName?_eq]
      simp only [ite_eq_left_iff,reduceCtorEq,imp_false,not_not]
    · intro f made
      obtain ⟨name,ends,rfl⟩ := ofPath?_eq_some_iff.1 made
      rw [cut.finalName?_eq] at ends
      split at ends
      case isTrue => cases ends
      case isFalse => rw [Option.some.inj ends]
  · intro rest idle
    simp only [ofPath?,Path.finalName?_append_idle idle,Option.map_map]
    rfl
  · intro f made
    obtain ⟨last,ends,rfl⟩ := ofPath?_eq_some_iff.1 made
    obtain ⟨present,whole,here,up⟩ := Path.name_of_finalName? ends
    obtain ⟨present',whole',here',up'⟩ := lossy_name present whole here up
    have characters : (String.ofList (Utf8.lossy last)).toList = Utf8.lossy last :=
      String.toList_ofList
    have differs {text : String} (h : Utf8.lossy last ≠ text.toList) :
        String.ofList (Utf8.lossy last) ≠ text :=
      fun same => h (characters.symm.trans (congrArg String.toList same))
    refine ⟨⟨?_,?_,?_,?_⟩,fun tree => rfl,?_⟩
    · exact differs present'
    · rwa [characters]
    · exact differs here'
    · exact differs up'
    · intro p' f' made' alike σ service tree target u s h params contents own
      obtain ⟨last',ends',rfl⟩ := ofPath?_eq_some_iff.1 made'
      rw [Flow.upload_mem_calls_iff,own,alike]
      rfl

/-- Two names that are no text, and read alike. -/
example : (ofPath? [0x61,0xFE]).map name = (ofPath? [0x62,0x2F,0x61,0xFF]).map name := by cbv

end WorksheetUpload.SelectedFile
