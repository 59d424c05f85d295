import WorksheetUpload.FileName
import WorksheetUpload.Proofs.Text.Case

/-! Archive suffixes of file names. What the service is told is the name with its characters replaced
and perhaps an underscore before it. Neither makes or breaks a suffix, so the service sees the same
kind of archive as the program, but where there is nothing before the suffix in the name. -/
namespace WorksheetUpload

namespace Archive

/-- Whether a name is nothing but the suffix of a kind. -/
def IsBare (a : Archive) (name : List Char) : Prop := name.map Char.toLower = a.suffix.toList

/-- The kind of archive that the suffix of a kind announces by itself: the dot inside begins a
suffix that has something before it. -/
def ofBare? : Archive → Option Archive
  | tarGz => some gz
  | tarBz2 => some bz2
  | _ => none

/-- A name announces a kind when it ends in its suffix, and is more than that. -/
theorem ends_iff {a : Archive} {name : List Char} :
    a.Ends name ↔ a.suffix.toList <:+ name.map Char.toLower ∧ ¬ a.IsBare name := by
  rw [Ends,IsBare,List.suffix_iff_eq_drop,List.length_map,List.map_drop]
  constructor
  · rintro ⟨longer,tail⟩
    refine ⟨tail.symm,fun bare => ?_⟩
    have same := congrArg List.length bare
    rw [List.length_map] at same
    omega
  · rintro ⟨tail,more⟩
    refine ⟨Nat.lt_of_not_le fun short => more ?_,tail.symm⟩
    rw [Nat.sub_eq_zero_of_le short,List.drop_zero] at tail
    exact tail.symm

theorem exists_suffix_eq (a : Archive) : ∃ rest, a.suffix.toList = '.' :: rest := by
  cases a <;> exact ⟨_,rfl⟩

theorem chars_suffix (a : Archive) :
    ∀ c ∈ a.suffix.toList, FileName.isBundleChar c = true ∧ c ≠ '-' := by
  cases a <;> simp [suffix,FileName.isBundleChar]

theorem ofName?_eq_some {a : Archive} {name : List Char} (h : ofName? name = some a) :
    a.Ends name := by
  simpa using List.find?_some h

/-- The first of the kinds whose suffix ends a text. -/
def first? (text : List Char) : Option Archive := all.find? fun a => a.suffix.toList <:+ text

/-- A name that is no bare suffix announces the first kind whose suffix it ends in. -/
theorem ofName?_of_not_bare {name : List Char} (h : ∀ a : Archive, ¬ a.IsBare name) :
    ofName? name = first? (name.map Char.toLower) := by
  unfold ofName? first?
  congr 1
  funext a
  rw [decide_eq_decide,ends_iff]
  exact and_iff_left (h a)

theorem first?_suffix (a : Archive) : first? a.suffix.toList = some a := by
  cases a <;> decide

theorem ofName?_of_bare {a : Archive} {name : List Char} (h : a.IsBare name) :
    ofName? name = a.ofBare? := by
  have suffixes : all.find? (fun b => decide (b.suffix.toList <:+ a.suffix.toList ∧
      ¬ a.suffix.toList = b.suffix.toList)) = a.ofBare? := by
    cases a <;> decide
  rw [← suffixes,ofName?]
  congr 1
  funext b
  rw [decide_eq_decide,ends_iff,IsBare,show name.map Char.toLower = a.suffix.toList from h]

end Archive

namespace FileName

theorem isBundleChar_replaced (c : Char) : isBundleChar (replaced c) = true := by
  unfold replaced
  split
  case isTrue h => exact h
  case isFalse => decide

theorem replaced_of_isBundleChar {c : Char} (h : isBundleChar c = true) : replaced c = c := if_pos h

/-- A capital may stand in a name as its small letter may. -/
theorem isBundleChar_of_toLower {c : Char} (h : isBundleChar c.toLower = true) :
    isBundleChar c = true := by
  induction c using Utf8.forall_of_ascii with
  | ascii n small => revert n; decide
  | past c own => rwa [own] at h

/-- The dash that stands for a character is no part of a suffix, and what is replaced was none. -/
theorem toLower_replaced_eq_iff {c d : Char} (hd : isBundleChar d = true) (dash : d ≠ '-') :
    (replaced c).toLower = d ↔ c.toLower = d := by
  by_cases hc : isBundleChar c = true
  case pos => rw [replaced_of_isBundleChar hc]
  case neg =>
    have there : replaced c = '-' := if_neg hc
    rw [there]
    refine iff_of_false (fun h => dash h.symm) ?_
    rintro rfl
    exact hc (isBundleChar_of_toLower hd)

theorem map_eq_map_iff {f g : α → β} {text : List β} (h : ∀ d ∈ text, ∀ c, f c = d ↔ g c = d)
    (s : List α) : s.map f = text ↔ s.map g = text := by
  induction s generalizing text with
  | nil => rfl
  | cons c s ih =>
    cases text with
    | nil => simp
    | cons d text =>
      obtain ⟨hd,ht⟩ := List.forall_mem_cons.1 h
      simp only [List.map_cons,List.cons.injEq,hd c,ih ht]

theorem suffix_map_replaced_iff (a : Archive) (name : List Char) :
    a.suffix.toList <:+ (name.map replaced).map Char.toLower ↔
      a.suffix.toList <:+ name.map Char.toLower := by
  have same : ∀ d ∈ a.suffix.toList, ∀ c, (Char.toLower ∘ replaced) c = d ↔ c.toLower = d := by
    intro d hd c
    obtain ⟨there,dash⟩ := a.chars_suffix d hd
    exact toLower_replaced_eq_iff there dash
  rw [List.map_map,List.suffix_iff_eq_drop,List.suffix_iff_eq_drop,List.length_map,List.length_map,
    ← List.map_drop,← List.map_drop,eq_comm,map_eq_map_iff same,eq_comm]

theorem toLower_ne_dot {c : Char} (h : isBundleStart c = true) : c.toLower ≠ '.' := by
  induction c using Utf8.forall_of_ascii with
  | ascii n small => revert n; decide
  | past c own =>
    rw [own]
    rintro rfl
    exact absurd h (by decide)

/-- What begins as a bundle name has something before each suffix. -/
theorem not_isBare_withStart (a : Archive) (text : List Char) : ¬ a.IsBare (withStart text) := by
  obtain ⟨rest,dot⟩ := a.exists_suffix_eq
  rw [Archive.IsBare,dot]
  cases text with
  | nil => simp [withStart]
  | cons c text =>
    rw [withStart]
    split
    case isTrue start =>
      intro bare
      exact toLower_ne_dot start (List.cons.inj bare).1
    case isFalse =>
      intro bare
      exact absurd (List.cons.inj bare).1 (by decide)

theorem ends_withStart (a : Archive) (text : List Char) :
    a.Ends (withStart text) ↔ a.suffix.toList <:+ text.map Char.toLower := by
  rw [Archive.ends_iff,and_iff_left (not_isBare_withStart a text)]
  cases text with
  | nil => rfl
  | cons c text =>
    rw [withStart]
    split
    case isTrue => rfl
    case isFalse =>
      -- The underscore begins no suffix.
      obtain ⟨rest,dot⟩ := a.exists_suffix_eq
      have other : a.suffix.toList ≠ ('_' :: c :: text).map Char.toLower := by
        rw [dot]
        exact fun same => absurd (List.cons.inj same).1 (by decide)
      rw [List.map_cons,List.suffix_cons_iff]
      exact or_iff_right other

theorem suffix_eq_drop (name : List Char) :
    suffix name = name.drop (name.length - (suffix name).length) := by
  unfold suffix
  split
  case h_1 a _ =>
    rw [List.length_drop]
    congr 1
    omega
  case h_2 => simp

theorem stem_append_suffix (name : List Char) : stem name ++ suffix name = name := by
  conv_lhs => rw [suffix_eq_drop name]
  exact List.take_append_drop _ name

theorem map_toLower_suffix {name : List Char} {a : Archive} (h : Archive.ofName? name = some a) :
    (suffix name).map Char.toLower = a.suffix.toList := by
  have spelt := (Archive.ofName?_eq_some h).2
  simpa only [suffix,h] using spelt

/-- Something stands before a recognised suffix. -/
theorem stem_ne_nil {name : List Char} (h : name ≠ []) : stem name ≠ [] := by
  have longer : (suffix name).length < name.length := by
    unfold suffix
    split
    case h_1 a ha =>
      obtain ⟨longer,-⟩ := Archive.ofName?_eq_some ha
      obtain ⟨rest,dot⟩ := a.exists_suffix_eq
      rw [dot] at longer ⊢
      rw [List.length_drop]
      rw [List.length_cons] at longer ⊢
      omega
    case h_2 => exact List.length_pos_of_ne_nil h
  refine List.ne_nil_of_length_pos ?_
  rw [stem,List.length_take]
  omega

theorem isBundleChar_of_mem_suffix {name : List Char} :
    ∀ c ∈ suffix name, isBundleChar c = true := by
  intro c hc
  cases h : Archive.ofName? name with
  | none => simp [suffix,h] at hc
  | some a =>
    apply isBundleChar_of_toLower
    apply (a.chars_suffix _ _).1
    rw [← map_toLower_suffix h]
    exact List.mem_map_of_mem hc

theorem map_replaced_of_forall {text : List Char} (h : ∀ c ∈ text, isBundleChar c = true) :
    text.map replaced = text :=
  (List.map_congr_left fun c hc => replaced_of_isBundleChar (h c hc)).trans (List.map_id text)

theorem withStart_append {s : List Char} (h : s ≠ []) (t : List Char) :
    withStart (s ++ t) = withStart s ++ t := by
  obtain ⟨c,s,rfl⟩ := List.exists_cons_of_ne_nil h
  simp only [withStart,List.cons_append]
  split <;> rfl

/-- The name for the service is the whole name with its characters replaced: those of a suffix stay
what they are. -/
theorem uploadName_eq {name : List Char} (h : name ≠ []) :
    uploadName name = withStart (name.map replaced) := by
  have there := stem_ne_nil h
  have kept : (suffix name).map replaced = suffix name :=
    map_replaced_of_forall isBundleChar_of_mem_suffix
  calc uploadName name
      = withStart ((stem name).map replaced) ++ suffix name := by
        rw [uploadName,bundleName,ofStem,if_neg (by simpa using there)]
    _ = withStart ((stem name).map replaced ++ suffix name) :=
        (withStart_append (by simpa using there) _).symm
    _ = withStart ((stem name ++ suffix name).map replaced) := by rw [List.map_append,kept]
    _ = withStart (name.map replaced) := by rw [stem_append_suffix]

/-- The name for the service ends in what the name ends in, and has something before it. -/
theorem ends_uploadName (a : Archive) (name : List Char) :
    a.Ends (uploadName name) ↔ a.suffix.toList <:+ name.map Char.toLower := by
  by_cases h : name = []
  case pos =>
    subst h
    cases a <;> decide
  case neg => rw [uploadName_eq h,ends_withStart,suffix_map_replaced_iff]

theorem ofName?_uploadName (name : List Char) :
    Archive.ofName? (uploadName name) = Archive.first? (name.map Char.toLower) := by
  unfold Archive.ofName? Archive.first?
  congr 1
  funext a
  rw [decide_eq_decide,ends_uploadName]

/-- A suffix alone goes to the service behind an underscore. -/
theorem uploadName_of_bare {a : Archive} {name : List Char} (h : a.IsBare name) :
    uploadName name = '_' :: name := by
  obtain ⟨rest,dot⟩ := a.exists_suffix_eq
  have same : name.map Char.toLower = a.suffix.toList := h
  have kept : name.map replaced = name := by
    refine map_replaced_of_forall fun c hc => isBundleChar_of_toLower ?_
    exact (a.chars_suffix _ (same ▸ List.mem_map_of_mem hc)).1
  cases name with
  | nil => simp [dot] at same
  | cons c name =>
    have first : c.toLower = '.' := (List.cons.inj (same.trans dot)).1
    have no_start : isBundleStart c ≠ true := fun start => toLower_ne_dot start first
    rw [uploadName_eq (List.cons_ne_nil c name),kept,withStart,if_neg no_start]

/-- The kind of archive that the service sees in the name it is given is the kind that the program
sees in the name of the file, unless that name is nothing but a suffix. Such a name is given with an
underscore before it, so that the service sees its kind, and the program sees at most what the second
dot begins. -/
theorem kind_kept_unless_bare (name : String) :
    let sent := ContentParams.ofFileName name
    let seen := Archive.ofName? sent.filename.toList
    (seen = Archive.ofName? name.toList ↔ ∀ a : Archive, ¬ a.IsBare name.toList) ∧
    ((∀ a : Archive, ¬ a.IsBare name.toList) →
      (sent.unpack = true ↔ ∃ a, seen = some a) ∧
      ∀ a, seen = some a ↔ Archive.ofName? name.toList = some a) ∧
    ∀ a : Archive, a.IsBare name.toList →
      sent.filename.toList = '_' :: name.toList ∧ seen = some a ∧
        Archive.ofName? name.toList = a.ofBare? ∧ (sent.unpack = true ↔ ∃ b, a.ofBare? = some b) := by
  intro sent seen
  have told : sent.filename.toList = uploadName name.toList := String.toList_ofList
  have unpack : sent.unpack = (Archive.ofName? name.toList).isSome := rfl
  have sight : seen = Archive.first? (name.toList.map Char.toLower) := by
    rw [← ofName?_uploadName,← told]
  have usual (h : ∀ a : Archive, ¬ a.IsBare name.toList) : seen = Archive.ofName? name.toList := by
    rw [sight,Archive.ofName?_of_not_bare h]
  have bare (a : Archive) (h : a.IsBare name.toList) : seen = some a := by
    rw [sight,show name.toList.map Char.toLower = a.suffix.toList from h,Archive.first?_suffix]
  refine ⟨⟨?_,usual⟩,?_,?_⟩
  · intro same a h
    have other : a.ofBare? ≠ some a := by cases a <;> decide
    rw [bare a h,Archive.ofName?_of_bare h] at same
    exact other same.symm
  · intro h
    rw [unpack,usual h]
    exact ⟨Option.isSome_iff_exists,fun a => Iff.rfl⟩
  · intro a h
    rw [unpack,Archive.ofName?_of_bare h]
    exact ⟨told.trans (uploadName_of_bare h),bare a h,rfl,Option.isSome_iff_exists⟩

/-- The second dot begins a suffix of its own. -/
example :
    Archive.ofName? ".tar.gz".toList = some .gz ∧
      (ContentParams.ofFileName ".tar.gz").filename = "_.tar.gz" := by decide

end FileName
end WorksheetUpload
