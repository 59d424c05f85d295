import WorksheetUpload.Proofs.FileName.Suffix
import WorksheetUpload.Proofs.Text.Case

/-! Which of several suffixes counts. Names are compared octet for octet, and the first suffix in the
table that fits is taken. As no suffix ends in one from above it, that one is the longest; and as it is
ASCII it begins where a character does, so that a name can be cut before it. -/
namespace WorksheetUpload

namespace Archive

/-- Whether the octets of a name end in those of the suffix, ASCII cases aside, and are more. -/
def EndsOctets (a : Archive) (name : String) : Prop :=
  Utf8.ofString a.suffix <:+ (Utf8.ofString name).map Utf8.lower ∧
    a.suffix.utf8ByteSize < name.utf8ByteSize

theorem mem_all (a : Archive) : a ∈ all := by cases a <;> decide

theorem pairwise_all : all.Pairwise fun a b => ¬ a.suffix.toList <:+ b.suffix.toList := by decide

theorem suffix_injective {a b : Archive} (h : a.suffix.toList = b.suffix.toList) : a = b := by
  have named := first?_suffix a
  rw [h,first?_suffix] at named
  exact (Option.some.inj named).symm

theorem ascii_suffix (a : Archive) : ∀ c ∈ a.suffix.toList, c.toNat < 0x80 := by
  cases a <;> simp [suffix]

theorem utf8ByteSize_suffix (a : Archive) : a.suffix.utf8ByteSize = a.suffix.toList.length := by
  cases a <;> rfl

section

variable {name : List Char} {a b : Archive}

/-- Of the suffixes that a name ends in, the first in the table is the longest. -/
theorem length_le_of_ofName? (first : ofName? name = some a) (hb : b.Ends name) :
    b.suffix.toList.length ≤ a.suffix.toList.length := by
  have tail : a.suffix.toList <:+ name.map Char.toLower := (ends_iff.1 (ofName?_eq_some first)).1
  obtain ⟨-,above,below,table,unfit⟩ := List.find?_eq_some_iff_append.1 first
  have there : b ∈ above ++ a :: below := table ▸ b.mem_all
  rcases List.mem_append.1 there with higher | here
  · have no_fit := unfit b higher
    simp [hb] at no_fit
  · rcases List.mem_cons.1 here with rfl | lower
    · exact Nat.le_refl _
    · have order := pairwise_all
      rw [table,List.pairwise_append,List.pairwise_cons] at order
      rcases List.suffix_or_suffix_of_suffix tail (ends_iff.1 hb).1 with within | within
      · exact absurd within (order.2.1.1 b lower)
      · exact within.length_le

theorem eq_of_length_eq (ha : a.Ends name) (hb : b.Ends name)
    (same : a.suffix.toList.length = b.suffix.toList.length) : a = b := by
  rcases List.suffix_or_suffix_of_suffix (ends_iff.1 ha).1 (ends_iff.1 hb).1 with within | within
  · exact suffix_injective (within.eq_of_length same)
  · exact (suffix_injective (within.eq_of_length same.symm)).symm

theorem ofName?_eq_none_iff : ofName? name = none ↔ ∀ a : Archive, ¬ a.Ends name := by
  simp [ofName?,List.find?_eq_none,mem_all]

theorem ofName?_eq_some_iff_longest : ofName? name = some a ↔
    a.Ends name ∧ ∀ b : Archive, b.Ends name → b.suffix.toList.length ≤ a.suffix.toList.length := by
  constructor
  · intro first
    exact ⟨ofName?_eq_some first,fun b hb => length_le_of_ofName? first hb⟩
  · rintro ⟨ha,longest⟩
    cases found : ofName? name with
    | none => exact absurd ha (ofName?_eq_none_iff.1 found a)
    | some b =>
      have hb := ofName?_eq_some found
      have same := Nat.le_antisymm (longest b hb) (length_le_of_ofName? found ha)
      rw [eq_of_length_eq hb ha same]

/-- The case of a name does not matter to its kind. -/
theorem ofName?_congr {other : List Char} (h : other.map Char.toLower = name.map Char.toLower) :
    ofName? other = ofName? name := by
  unfold ofName?
  congr 1
  funext a
  rw [decide_eq_decide,ends_iff,ends_iff,IsBare,IsBare,h]

end

/-- A name ends in a suffix octet for octet just if it does so character by character. -/
theorem endsOctets_iff {a : Archive} {name : String} : a.EndsOctets name ↔ a.Ends name.toList := by
  have octets : (Utf8.ofString name).map Utf8.lower = Utf8.encode (name.toList.map Char.toLower) :=
    Utf8.map_lower_encode name.toList
  have length : (Utf8.encode (name.toList.map Char.toLower)).length = name.utf8ByteSize := by
    rw [← octets,List.length_map,Utf8.length_ofString]
  rw [EndsOctets,octets,← Utf8.length_ofString a.suffix,← length,ends_iff,Utf8.ofString,
    Utf8.encode_suffix_encode_iff a.ascii_suffix]
  refine and_congr_right fun tail => ?_
  have within := (Utf8.encode_suffix_encode_iff a.ascii_suffix).2 tail
  constructor
  · intro longer bare
    rw [show name.toList.map Char.toLower = a.suffix.toList from bare] at longer
    exact Nat.lt_irrefl _ longer
  · intro more
    refine Nat.lt_of_le_of_ne within.length_le fun same => more ?_
    exact (Utf8.encode_injective (within.eq_of_length same)).symm

end Archive

namespace FileName

theorem length_encode_suffix {name : List Char} {a : Archive} (h : Archive.ofName? name = some a) :
    (Utf8.encode (suffix name)).length = a.suffix.utf8ByteSize := by
  rw [← Utf8.length_ofString,Utf8.ofString,← map_toLower_suffix h,← Utf8.map_lower_encode,
    List.length_map]

/-- A name is cut between two characters into its stem and its suffix. -/
theorem cut_at_suffix {name : String} {a : Archive} (h : Archive.ofName? name.toList = some a) :
    let offset := name.utf8ByteSize-a.suffix.utf8ByteSize
    String.Pos.Raw.IsValid name ⟨offset⟩ ∧
      Utf8.encode (stem name.toList) = (Utf8.ofString name).take offset ∧
      Utf8.encode (suffix name.toList) = (Utf8.ofString name).drop offset := by
  intro offset
  have parts : Utf8.ofString name =
      Utf8.encode (stem name.toList) ++ Utf8.encode (suffix name.toList) := by
    rw [← Utf8.encode_append,stem_append_suffix,Utf8.ofString]
  have before : (Utf8.encode (stem name.toList)).length = offset := by
    have whole := congrArg List.length parts
    rw [List.length_append,Utf8.length_ofString,length_encode_suffix h] at whole
    omega
  refine ⟨?_,?_,?_⟩
  · rw [String.Pos.Raw.isValid_iff_exists_append]
    refine ⟨.ofList (stem name.toList),.ofList (suffix name.toList),?_,?_⟩
    · rw [← String.ofList_append,stem_append_suffix,String.ofList_toList]
    · rw [String.rawEndPos,← Utf8.length_encode,before]
  · rw [parts,← before,List.take_left]
  · rw [parts,← before,List.drop_left]

/-- The kind that a name announces is that of the longest suffix, octet for octet and ASCII cases
aside, that the name ends in with something before it, and there is none just if there is no such
suffix. ASCII cases do not matter. The octets before the suffix end a character, and are those of the
stem, as those behind are those of the suffix as it is spelled. -/
theorem kind_is_longest_suffix (name : String) :
    (∀ a : Archive, Archive.ofName? name.toList = some a ↔ a.EndsOctets name ∧
      ∀ b : Archive, b.EndsOctets name → b.suffix.utf8ByteSize ≤ a.suffix.utf8ByteSize) ∧
    (Archive.ofName? name.toList = none ↔ ∀ a : Archive, ¬ a.EndsOctets name) ∧
    (∀ other : String, other.toList.map Char.toLower = name.toList.map Char.toLower →
      Archive.ofName? other.toList = Archive.ofName? name.toList) ∧
    ∀ a : Archive, Archive.ofName? name.toList = some a →
      let offset := name.utf8ByteSize-a.suffix.utf8ByteSize
      String.Pos.Raw.IsValid name ⟨offset⟩ ∧
        Utf8.encode (stem name.toList) = (Utf8.ofString name).take offset ∧
        Utf8.encode (suffix name.toList) = (Utf8.ofString name).drop offset := by
  simp only [Archive.endsOctets_iff,Archive.utf8ByteSize_suffix]
  refine ⟨?_,?_,?_,?_⟩
  · exact fun a => Archive.ofName?_eq_some_iff_longest
  · exact Archive.ofName?_eq_none_iff
  · exact fun other same => Archive.ofName?_congr same
  · intro a h
    have cut := cut_at_suffix h
    rwa [Archive.utf8ByteSize_suffix] at cut

end FileName
end WorksheetUpload
