import Mathlib.Data.List.Forall2
import Mathlib.Tactic.Tauto
import WorksheetUpload.Proofs.FileName.Suffix

/-! The names that a bundle may have. A stem is brought into this form with as few changes as there can
be: one for each character that may not stand in a name, and one more where none may begin it. What is
in the form stays as it is, and so does the name that the service stores. -/
namespace WorksheetUpload.FileName

/-- A letter of ASCII or an underscore. -/
def CanBegin (c : Char) : Prop := 'a' ≤ c ∧ c ≤ 'z' ∨ 'A' ≤ c ∧ c ≤ 'Z' ∨ c = '_'

/-- A letter of ASCII, a digit, an underscore, a dot or a dash. -/
def CanStand (c : Char) : Prop := CanBegin c ∨ '0' ≤ c ∧ c ≤ '9' ∨ c = '.' ∨ c = '-'

/-- The form of a bundle name. -/
inductive IsBundleName : List Char → Prop
  | of {c : Char} {rest : List Char} (first : CanBegin c) (others : ∀ d ∈ rest, CanStand d) :
      IsBundleName (c :: rest)

/-- What may stand in a name stays, and a dash comes in the place of all else. -/
inductive Replaces : Char → Char → Prop
  | kept {c : Char} (fit : CanStand c) : Replaces c c
  | dashed {c : Char} (unfit : ¬ CanStand c) : Replaces c '-'

theorem isBundleStart_iff {c : Char} : isBundleStart c = true ↔ CanBegin c := by
  rw [isBundleStart,Bool.or_eq_true,Text.isAlpha_iff,beq_iff_eq,CanBegin,or_assoc]

theorem isBundleChar_iff {c : Char} : isBundleChar c = true ↔ CanStand c := by
  rw [CanStand,← isBundleStart_iff]
  simp only [isBundleChar,isBundleStart,Bool.or_eq_true,Text.isAlphanum_iff,beq_iff_eq]
  tauto

theorem replaces_replaced (c : Char) : Replaces c (replaced c) := by
  unfold replaced
  split
  case isTrue fit => exact .kept (isBundleChar_iff.1 fit)
  case isFalse unfit => exact .dashed fun fit => unfit (isBundleChar_iff.2 fit)

theorem canStand_of_mem_map_replaced {text : List Char} :
    ∀ c ∈ text.map replaced, CanStand c := by
  intro c hc
  obtain ⟨d,-,rfl⟩ := List.mem_map.1 hc
  exact isBundleChar_iff.1 (isBundleChar_replaced d)

theorem IsBundleName.ne_nil {text : List Char} (h : IsBundleName text) : text ≠ [] := by
  cases h with
  | of first others => exact List.cons_ne_nil _ _

theorem IsBundleName.canStand {text : List Char} (h : IsBundleName text) :
    ∀ c ∈ text, CanStand c := by
  cases h with
  | of first others => exact List.forall_mem_cons.2 ⟨.inl first,others⟩

/-- An underscore goes before a text just where none of its characters may begin it. -/
theorem withStart_cons_cases (c : Char) (text : List Char) :
    (CanBegin c ∧ withStart (c :: text) = c :: text) ∨
      ¬ CanBegin c ∧ withStart (c :: text) = '_' :: c :: text := by
  rw [withStart]
  split
  case isTrue first => exact .inl ⟨isBundleStart_iff.1 first,rfl⟩
  case isFalse first => exact .inr ⟨fun begins => first (isBundleStart_iff.2 begins),rfl⟩

theorem isBundleName_withStart {text : List Char} (written : text ≠ [])
    (chars : ∀ c ∈ text, CanStand c) : IsBundleName (withStart text) := by
  obtain ⟨c,text,rfl⟩ := List.exists_cons_of_ne_nil written
  rcases withStart_cons_cases c text with ⟨first,same⟩ | ⟨-,behind⟩
  · rw [same]
    exact .of first (List.forall_mem_cons.1 chars).2
  · rw [behind]
    exact .of (.inr (.inr rfl)) chars

/-- A bundle name needs no change. -/
theorem IsBundleName.withStart_eq {text : List Char} (h : IsBundleName text) :
    withStart (text.map replaced) = text := by
  rw [map_replaced_of_forall fun c hc => isBundleChar_iff.2 (h.canStand c hc)]
  cases h with
  | @of c rest first others => exact if_pos (isBundleStart_iff.2 first)

theorem ofStem_of_ne_nil {stem : List Char} (named : stem ≠ []) :
    ofStem stem = withStart (stem.map replaced) := if_neg (by simpa using named)

theorem isBundleName_untitled : IsBundleName untitled.toList := by
  have chars : ∀ c ∈ untitled.toList, isBundleChar c = true := by simp [untitled,isBundleChar]
  have same : withStart untitled.toList = untitled.toList := by decide
  rw [← same]
  exact isBundleName_withStart (by decide) fun c hc => isBundleChar_iff.1 (chars c hc)

theorem isBundleName_ofStem (stem : List Char) : IsBundleName (ofStem stem) := by
  by_cases h : stem = []
  case pos =>
    subst h
    exact isBundleName_untitled
  case neg =>
    rw [ofStem_of_ne_nil h]
    exact isBundleName_withStart (by simpa using h) canStand_of_mem_map_replaced

theorem ofStem_eq_self_iff {stem : List Char} : ofStem stem = stem ↔ IsBundleName stem := by
  constructor
  · intro same
    exact same ▸ isBundleName_ofStem stem
  · intro h
    rw [ofStem_of_ne_nil h.ne_nil,h.withStart_eq]

theorem isBundleName_uploadName (name : List Char) : IsBundleName (uploadName name) := by
  by_cases h : name = []
  case pos =>
    subst h
    exact isBundleName_untitled
  case neg =>
    rw [uploadName_eq h]
    exact isBundleName_withStart (by simpa using h) canStand_of_mem_map_replaced

/-- The names that are stored as they are. -/
theorem uploadName_eq_self_iff {name : List Char} : uploadName name = name ↔ IsBundleName name := by
  constructor
  · intro same
    exact same ▸ isBundleName_uploadName name
  · intro h
    rw [uploadName_eq h.ne_nil,h.withStart_eq]

theorem stem_eq_nil_iff {name : List Char} : stem name = [] ↔ name = [] := by
  constructor
  · exact fun empty => by_contra fun named => stem_ne_nil named empty
  · rintro rfl
    rfl

/-- The bundle name of a file is in the form of such names, and is its stem just if that is. A stem,
which is what stands before the suffix, is changed character by character, and an underscore goes
before it just where the first character that comes out may not begin a name. There is no stem just if
the name of the file is empty, and then a name that stands for none is taken. -/
theorem bundleName_of_stem (name : String) :
    let text := name.toList
    (∀ a, Archive.ofName? text = some a →
      ∃ tail, text = stem text ++ tail ∧ tail.map Char.toLower = a.suffix.toList) ∧
    (Archive.ofName? text = none → stem text = text) ∧
    IsBundleName (bundleName text) ∧
    (bundleName text = stem text ↔ IsBundleName (stem text)) ∧
    (stem text ≠ [] → ∃ c rest, List.Forall₂ Replaces (stem text) (c :: rest) ∧
      ((CanBegin c ∧ bundleName text = c :: rest) ∨
        ¬ CanBegin c ∧ bundleName text = '_' :: c :: rest)) ∧
    (stem text = [] ↔ name = "") ∧
    (name = "" → bundleName text = "untitled-upload".toList) := by
  intro text
  have nothing : name = "" ↔ text = [] := by simp [text]
  refine ⟨?_,?_,isBundleName_ofStem _,ofStem_eq_self_iff,?_,?_,?_⟩
  · intro a h
    exact ⟨suffix text,(stem_append_suffix text).symm,map_toLower_suffix h⟩
  · intro h
    have whole := stem_append_suffix text
    rwa [suffix,h,List.append_nil] at whole
  · intro named
    have named_replaced : (stem text).map replaced ≠ [] := by simpa using named
    obtain ⟨c,rest,changed⟩ := List.exists_cons_of_ne_nil named_replaced
    refine ⟨c,rest,?_,?_⟩
    · rw [← changed,List.forall₂_map_right_iff,List.forall₂_same]
      exact fun d _ => replaces_replaced d
    · rw [bundleName,ofStem_of_ne_nil named,changed]
      exact withStart_cons_cases c rest
  · rw [nothing,stem_eq_nil_iff]
  · rintro rfl
    decide

/-- The name that the service stores is a bundle name, and is that of the file just if the latter is
one; so a file that comes back under the name that was stored for it is stored under it again. -/
theorem stored_name_kept (name : String) :
    let stored := (ContentParams.ofFileName name).filename
    (ContentParams.ofFileName stored).filename = stored ∧ IsBundleName stored.toList ∧
      (stored = name ↔ IsBundleName name.toList) := by
  intro stored
  have form : IsBundleName stored.toList := by
    simpa only [stored,ContentParams.ofFileName,String.toList_ofList] using
      isBundleName_uploadName name.toList
  have kept (s : String) : (ContentParams.ofFileName s).filename = s ↔ IsBundleName s.toList := by
    rw [← uploadName_eq_self_iff,← String.toList_inj,ContentParams.ofFileName,String.toList_ofList]
  exact ⟨(kept stored).2 form,form,kept name⟩

/-- A stored name may be divided elsewhere than the name it was made of. -/
example :
    stem ".tar.gz".toList = ".tar".toList ∧
      stem (uploadName ".tar.gz".toList) = "_".toList := by decide

end WorksheetUpload.FileName
