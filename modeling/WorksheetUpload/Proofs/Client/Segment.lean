import Mathlib.Data.List.Flatten
import WorksheetUpload.Proofs.Client.Address
import WorksheetUpload.Proofs.Url.Pairs
import WorksheetUpload.Proofs.Url.Segments

/-! The bundle that the address of contents names. The handle is put in as it is, and read as part of
an address: it stays one segment, and denotes itself, only if it holds no mark that an address gives
a meaning to. -/
namespace WorksheetUpload

/-- Whether an address reads a handle as what it is: one segment, without codes or dots. -/
structure Handle.IsPlain (h : Handle) : Prop where
  marks : ∀ d ∈ h.text.toList, Url.isSlash d = false ∧ Url.endsPath d = false ∧ Url.isBreak d = false
  codes : Url.hasCode h.text.toList = false
  single : h.text ≠ "."
  double : h.text ≠ ".."

/-- Whether a path goes on with one segment that denotes the handle, and then to its contents. -/
def Handle.NamedBy (h : Handle) (pieces : List (List Char)) (path : Url.Path) : Prop :=
  ∃ segment, '/' ∉ segment ∧ Url.decode segment = Utf8.ofString h.text ∧
    path = .segments (pieces ++ [segment,"contents".toList,"blob".toList,[]])

namespace Url

theorem slash_not_mem_percentOctet (b : UInt8) : '/' ∉ percentOctet b :=
  Form.forall_octets b (by decide +kernel)

/-- Codes hold no slashes. -/
theorem slash_not_mem_encode (marks : MarkSet) {text : List Char} (h : '/' ∉ text) :
    '/' ∉ encode marks text := by
  intro mem
  obtain ⟨c,hc,mem⟩ := List.mem_flatMap.1 mem
  unfold encodeChar at mem
  split at mem
  case isTrue => exact h (List.mem_singleton.1 mem ▸ hc)
  case isFalse =>
    obtain ⟨b,-,mem⟩ := List.mem_flatMap.1 mem
    exact slash_not_mem_percentOctet b mem

theorem not_hexDigit_of_mem_pathMarks : ∀ c ∈ pathMarks, hexDigit? c = none := by
  simp [pathMarks,fragmentMarks,hexDigit?]

theorem percent_not_mem_pathMarks : '%' ∉ pathMarks := by decide

/-- A part of a text denotes the whole only if it is the whole, and as it is. -/
theorem eq_of_denotes {part text : List Char} (hp : part.Sublist text)
    (hd : decode (encode pathMarks part) = Utf8.encode text) :
    part = text ∧ hasCode text = false := by
  rw [decode_encode not_hexDigit_of_mem_pathMarks percent_not_mem_pathMarks] at hd
  have octets : (Utf8.encode part).Sublist (Utf8.encode text) := hp.flatMap _
  have longest := length_decode_le part
  rw [hd] at longest
  obtain rfl := Utf8.encode_injective (octets.eq_of_length_le longest)
  exact ⟨rfl,(decode_eq_encode_iff part).1 hd⟩

end Url

namespace Client

open Http

/-- The segments that a handle and what stands behind it bring. -/
def handlePieces (h : Handle) : List (List Char) :=
  Url.piecesOf (Url.pathOf (Url.withoutBreaks (beneath h)))

theorem withoutBreaks_beneath (h : Handle) : Url.withoutBreaks (beneath h) =
    Url.withoutBreaks h.text.toList ++ '/' :: "contents/blob/".toList := by
  rw [beneath,Url.withoutBreaks_append]
  rfl

/-- Without a question or number sign in the handle, the path goes on behind it. -/
theorem handlePieces_eq {h : Handle} (hm : ∀ d ∈ h.text.toList, Url.endsPath d = false) :
    handlePieces h = Url.piecesOf (Url.withoutBreaks h.text.toList) ++
      ["contents".toList,"blob".toList,[]] := by
  have whole : Url.pathOf (Url.withoutBreaks (beneath h)) = Url.withoutBreaks (beneath h) := by
    rw [Url.pathOf,Url.cut_of_forall_not]
    intro d hd
    rw [withoutBreaks_beneath] at hd
    rcases List.mem_append.1 hd with hd | hd
    · exact hm d (List.mem_filter.1 hd).1
    · have fixed : ∀ d ∈ '/' :: "contents/blob/".toList, Url.endsPath d = false := by
        simp [Url.endsPath]
      exact fixed d hd
  rw [handlePieces,whole,withoutBreaks_beneath,Url.piecesOf_append_cons]
  congr 1

theorem lead_contents (above pieces : List (List Char)) :
    Url.lead above (pieces ++ ["contents".toList,"blob".toList,[]]) =
      [] :: "blob".toList :: "contents".toList :: Url.lead above pieces := by
  rw [Url.lead_append]
  simp only [Url.lead,List.foldl_cons,List.foldl_nil]
  rw [Url.next_of_not_isDots (by decide),Url.next_of_not_isDots (by decide),
    Url.next_of_not_isDots (by decide)]

theorem trail_contents (pieces : List (List Char)) :
    Url.trail (pieces ++ ["contents".toList,"blob".toList,[]]) = [] := by
  rw [Url.trail_append _ (by simp)]
  rfl

/-- The path that a handle leads to from a path given in reverse. -/
def pathFrom (above : List (List Char)) (h : Handle) : List (List Char) :=
  (Url.trail (handlePieces h) ++ Url.lead above (handlePieces h)).reverse

theorem toList_ne {h : Handle} {text : String} (hn : h.text ≠ text) : h.text.toList ≠ text.toList :=
  fun he => hn (String.toList_injective he)

/-- A plain handle is one segment more, which denotes the handle. -/
theorem pathFrom_of_isPlain {h : Handle} (hp : h.IsPlain) (above : List (List Char)) :
    pathFrom above h = above.reverse ++
      [Url.encode Url.pathMarks h.text.toList,"contents".toList,"blob".toList,[]] := by
  have kept : Url.withoutBreaks h.text.toList = h.text.toList :=
    List.filter_eq_self.2 fun d hd => by simp [(hp.marks d hd).2.2]
  have no_dots : Url.isDots (Url.encode Url.pathMarks h.text.toList) = false :=
    Url.isDots_encode Url.not_hexDigit_of_mem_pathMarks Url.percent_not_mem_pathMarks hp.codes
      (toList_ne hp.single) (toList_ne hp.double)
  have alone : Url.lead above [Url.encode Url.pathMarks h.text.toList] =
      Url.encode Url.pathMarks h.text.toList :: above := Url.next_of_not_isDots no_dots above
  rw [pathFrom,handlePieces_eq fun d hd => (hp.marks d hd).2.1,trail_contents,lead_contents,kept,
    Url.piecesOf_of_forall_not fun d hd => (hp.marks d hd).1,alone]
  simp

theorem denotes_of_isPlain {h : Handle} (hp : h.IsPlain) :
    Url.decode (Url.encode Url.pathMarks h.text.toList) = Utf8.ofString h.text := by
  rw [Url.decode_encode Url.not_hexDigit_of_mem_pathMarks Url.percent_not_mem_pathMarks]
  exact (Url.decode_eq_encode_iff _).2 hp.codes

/-- What stands behind a question or number sign belongs to no path. -/
theorem of_mem_handlePieces {h : Handle} {d : Char} (hd : d ∈ h.text.toList)
    (mark : Url.endsPath d = true) {s : List Char} (hs : s ∈ handlePieces h) :
    ∃ part, part.Sublist h.text.toList ∧ d ∉ part ∧ s = Url.encode Url.pathMarks part := by
  have not_break : Url.isBreak d = false := by
    simp only [Url.endsPath,Bool.or_eq_true,beq_iff_eq] at mark
    rcases mark with rfl | rfl <;> decide
  have kept : d ∈ Url.withoutBreaks h.text.toList := List.mem_filter.2 ⟨hd,by simp [not_break]⟩
  have filtered : (Url.withoutBreaks h.text.toList).Sublist h.text.toList := List.filter_sublist
  obtain ⟨front,back,hw⟩ := List.append_of_mem kept
  have ends : Url.pathOf (Url.withoutBreaks (beneath h)) = (Url.cut Url.endsPath front).1 := by
    rw [withoutBreaks_beneath,hw,List.append_assoc,List.cons_append,Url.pathOf,
      Url.cut_append_cons mark]
  rw [handlePieces,ends] at hs
  obtain ⟨part,hpart,rfl⟩ := List.mem_map.1 hs
  have sub := (Url.sublist_of_mem_splitAt hpart).1
  have inside : (Url.cut Url.endsPath front).1.Sublist front := List.takeWhile_sublist _
  have whole : front.Sublist h.text.toList := by
    rw [hw] at filtered
    exact (List.sublist_append_left front _).trans filtered
  refine ⟨part,(sub.trans inside).trans whole,fun mem => ?_,rfl⟩
  have not_mark := Url.not_isEnd_of_mem_cut (sub.subset mem)
  rw [mark] at not_mark
  contradiction

section

variable {h : Handle} {above back : List (List Char)} {segment : List Char}
  (shorter : above.length ≤ back.length)
  (denotes : Url.decode segment = Utf8.encode h.text.toList)
include shorter denotes

/-- With a question or number sign in it, a handle lends the path less than itself. -/
theorem no_mark_of_reached (reached : Url.trail (handlePieces h) ++ Url.lead above (handlePieces h) =
    [[],"blob".toList,"contents".toList] ++ segment :: back) :
    ∀ d ∈ h.text.toList, Url.endsPath d = false := by
  intro d hd
  cases mark : Url.endsPath d with
  | false => rfl
  | true =>
    obtain ⟨part,sub,lost,rfl⟩ : ∃ part, part.Sublist h.text.toList ∧ d ∉ part ∧
        segment = Url.encode Url.pathMarks part := by
      rcases Url.mem_of_trail_lead shorter reached with rfl | mem
      · exact ⟨[],List.nil_sublist _,List.not_mem_nil,rfl⟩
      · exact of_mem_handlePieces hd mark mem
    obtain ⟨rfl,-⟩ := Url.eq_of_denotes sub denotes
    exact absurd hd lost

/-- The segment that denotes the handle is the whole of it, and is no dots. -/
theorem isPlain_of_climbed (no_mark : ∀ d ∈ h.text.toList, Url.endsPath d = false)
    (climbed : Url.lead above (Url.piecesOf (Url.withoutBreaks h.text.toList)) = segment :: back) :
    h.IsPlain ∧ above = back := by
  obtain ⟨part,hpart,rfl⟩ := List.mem_map.1 (Url.mem_of_lead shorter climbed)
  obtain ⟨sub,no_slash⟩ := Url.sublist_of_mem_splitAt hpart
  have filtered : (Url.withoutBreaks h.text.toList).Sublist h.text.toList := List.filter_sublist
  obtain ⟨rfl,codes⟩ : part = h.text.toList ∧ Url.hasCode h.text.toList = false :=
    Url.eq_of_denotes (sub.trans filtered) denotes
  have kept : Url.withoutBreaks h.text.toList = h.text.toList := filtered.antisymm sub
  rw [kept,Url.piecesOf_of_forall_not no_slash] at climbed
  change Url.Segment.next above _ = _ at climbed
  have no_dots : Url.isDots (Url.encode Url.pathMarks h.text.toList) = false := by
    by_contra dots
    have bound := Url.length_next_of_isDots (by simpa using dots) above
    rw [climbed,List.length_cons] at bound
    omega
  rw [Url.next_of_not_isDots no_dots,List.cons.injEq] at climbed
  refine ⟨⟨fun d hd => ⟨no_slash d hd,no_mark d hd,?_⟩,codes,?_,?_⟩,climbed.2⟩
  · simpa using List.filter_eq_self.1 kept d hd
  · intro dot
    rw [dot] at no_dots
    contradiction
  · intro dots
    rw [dots] at no_dots
    contradiction

end

/-- The path that a handle leads to names it if the handle is plain, and there is a path to go on
from. -/
theorem namedBy_pathFrom_iff (h : Handle) (pieces : List (List Char)) :
    h.NamedBy pieces (.segments (pathFrom (Url.onward pieces) h)) ↔ h.IsPlain ∧ pieces ≠ [[]] := by
  constructor
  · rintro ⟨segment,-,denotes,named⟩
    have shorter : (Url.onward pieces).length ≤ pieces.reverse.length := by
      simpa using Url.length_onward_le pieces
    have reached := congrArg List.reverse (Url.Path.segments.inj named)
    rw [pathFrom,List.reverse_reverse,List.reverse_append] at reached
    have no_mark := no_mark_of_reached shorter denotes reached
    rw [handlePieces_eq no_mark,trail_contents,lead_contents] at reached
    obtain ⟨plain,goes_on⟩ := isPlain_of_climbed shorter denotes no_mark (by simpa using reached)
    refine ⟨plain,?_⟩
    rintro rfl
    contradiction
  · rintro ⟨plain,not_root⟩
    have slash_free : '/' ∉ h.text.toList := fun mem => Bool.noConfusion (plain.marks '/' mem).1
    refine ⟨_,Url.slash_not_mem_encode Url.pathMarks slash_free,denotes_of_isPlain plain,?_⟩
    rw [pathFrom_of_isPlain plain,Url.onward,if_neg not_root,List.reverse_reverse]

/-- No two plain handles lead to the same path. -/
theorem eq_of_pathFrom_eq {h h' : Handle} (plain : h.IsPlain) (plain' : h'.IsPlain)
    {above : List (List Char)} (same : pathFrom above h' = pathFrom above h) : h' = h := by
  rw [pathFrom_of_isPlain plain,pathFrom_of_isPlain plain'] at same
  have segments : Url.encode Url.pathMarks h'.text.toList =
      Url.encode Url.pathMarks h.text.toList := by
    simpa using same
  have octets := congrArg Url.decode segments
  rw [denotes_of_isPlain plain,denotes_of_isPlain plain'] at octets
  have text := String.toList_injective (Utf8.encode_injective octets)
  cases h
  cases h'
  exact congrArg Handle.mk text

section

variable {c : Client} {u : Url} (hu : Url.parse (String.ofList c.bundlesText) = .ok u)
  (http : Url.isHttp u.scheme = true) (base : ∀ d ∈ c.base, Url.endsPath d = false)
include hu http base

/-- The path of the bundles, and the paths that handles lead to from it. -/
theorem paths_of_parse : ∃ pieces, u.path = .segments pieces ∧
    ∀ h : Handle, ∃ v, Url.parse (c.contentsUrl h) = .ok v ∧ v.hasHost = true ∧
      v.path = .segments (pathFrom (Url.onward pieces) h) := by
  obtain ⟨p,hp,further,inside,ends⟩ := parse_contentsUrl hu http
  have special : Url.isSpecial u.scheme = true := (Url.isFile_eq_false_of_isHttp http).2
  have no_mark : ∀ d ∈ p.2, Url.endsPath d = false := by
    intro d hd
    rcases inside d hd with hd | rfl | hd
    · exact base d hd
    · decide
    · have letters : ∀ d ∈ "bundles".toList, Url.endsPath d = false := by
        simp [Url.endsPath]
      exact letters d hd
  have path (more : List Char) : (Url.finished u.scheme more p).path =
      Url.pathAfterAuthority true (p.2 ++ Url.pathOf more) := by
    rw [Url.finished,Url.complete,special,Url.pathOf,Url.cut_append_of_forall_not no_mark]
    rfl
  obtain ⟨pieces,here,beneath_here⟩ :=
    Url.pathAfterAuthority_beneath isWord_bundles (by decide) (by decide) ends
  refine ⟨pieces,?_,fun h => ⟨_,further h,?_,?_⟩⟩
  · rw [hp,path,← here]
    simp [Url.pathOf,Url.cut]
  · exact Url.hasHost_of_parse (further h) http
  · rw [path]
    exact beneath_here _

/-- The request for contents names the bundle exactly when its handle is plain, and no two plain
handles share a path. Any other handle is read as something else: more segments or none, a query, a
fragment, or the spelling of another handle. Where the word for the bundles was read as the host, the
path is the root, and no handle is named. -/
theorem contents_path_names_handle_iff : ∃ pieces, u.path = .segments pieces ∧
    (∀ t m, ∃ url post, c.bundlesUrl t = .ok url ∧ c.createRequest url m = .ok post ∧
      post.url.path = u.path) ∧
    ∀ h p contents, ∃ put, c.contentsRequest h p contents = .ok put ∧
      (h.NamedBy pieces put.url.path ↔ h.IsPlain ∧ pieces ≠ [[]]) ∧
      ∀ h' p' contents' put', c.contentsRequest h' p' contents' = .ok put' →
        h.IsPlain → h'.IsPlain → put'.url.path = put.url.path → h' = h := by
  obtain ⟨pieces,here,beneath_here⟩ := paths_of_parse hu http base
  have sent (h : Handle) (p : ContentParams) (contents : Bytes) : ∃ put,
      c.contentsRequest h p contents = .ok put ∧
        put.url.path = .segments (pathFrom (Url.onward pieces) h) := by
    obtain ⟨v,hv,host,path⟩ := beneath_here h
    exact ⟨_,contentsRequest_of_parse hv host p contents,by simpa using path⟩
  refine ⟨pieces,here,fun t m => ?_,fun h p contents => ?_⟩
  · have host : u.hasHost = true := Url.hasHost_of_parse hu http
    exact ⟨_,_,bundlesUrl_of_parse hu t,createRequest_of_hasHost (by simpa using host) m,
      by simp⟩
  · obtain ⟨put,hput,path⟩ := sent h p contents
    refine ⟨put,hput,by rw [path,namedBy_pathFrom_iff],?_⟩
    intro h' p' contents' put' hput' plain plain' same
    obtain ⟨_,hsent,path'⟩ := sent h' p' contents'
    obtain rfl := Except.ok.inj (hput'.symm.trans hsent)
    rw [path,path'] at same
    exact eq_of_pathFrom_eq plain plain' (Url.Path.segments.inj same)

end

/-- A plain handle is named by its path, a space and all; one with a slash is not. -/
theorem plain_handle_named :
    let c : Client := ⟨"http://[::1]/rest".toList,none,by simp⟩
    let pieces := ["rest".toList,"bundles".toList]
    ∃ put put', c.contentsRequest ⟨"0x9 é"⟩ ⟨true,"n.txt",false⟩ [] = .ok put ∧
      Handle.NamedBy ⟨"0x9 é"⟩ pieces put.url.path ∧
      c.contentsRequest ⟨"a/b"⟩ ⟨true,"n.txt",false⟩ [] = .ok put' ∧
      ¬ Handle.NamedBy ⟨"a/b"⟩ pieces put'.url.path := by
  intro c pieces
  have parsed : Url.parse (String.ofList c.bundlesText) = .ok
      ⟨"http".toList,some ⟨[],none,.ipv6 [0,0,0,0,0,0,0,1],none⟩,.segments pieces,none,none⟩ := by
    decide +kernel
  obtain ⟨_,here,-,puts⟩ := contents_path_names_handle_iff parsed (by decide)
    (by simp [c,Url.endsPath])
  obtain rfl := Url.Path.segments.inj here
  have plain : Handle.IsPlain ⟨"0x9 é"⟩ :=
    ⟨by simp [Url.isSlash,Url.endsPath,Url.isBreak],by decide,by decide,by decide⟩
  obtain ⟨put,sent,named,-⟩ := puts ⟨"0x9 é"⟩ ⟨true,"n.txt",false⟩ []
  obtain ⟨put',sent',named',-⟩ := puts ⟨"a/b"⟩ ⟨true,"n.txt",false⟩ []
  refine ⟨put,put',sent,named.2 ⟨plain,by decide⟩,sent',?_⟩
  intro slash
  exact Bool.noConfusion ((named'.1 slash).1.marks '/' (by decide)).1

/-- A slash in a handle makes two segments of it, none of which denotes it; and a dot before one
makes the path that of another handle. -/
theorem slash_divides_handle :
    let c : Client := ⟨"http://[::1]/rest".toList,none,by simp⟩
    let path (pieces : List String) : Url.Path := .segments (pieces.map String.toList)
    let requests (text : String) := c.contentsRequest ⟨text⟩ ⟨true,"n.txt",false⟩ []
    (Url.parse (String.ofList c.bundlesText)).map (·.path) = .ok (path ["rest","bundles"]) ∧
      (requests "a/b").map (·.url.path) =
        .ok (path ["rest","bundles","a","b","contents","blob",""]) ∧
      (∀ put, requests "a/b" = .ok put →
        ¬ Handle.NamedBy ⟨"a/b"⟩ ["rest".toList,"bundles".toList] put.url.path) ∧
      (requests "./a").map (·.url.path) = (requests "a").map (·.url.path) := by
  intro c path requests
  have divided : (requests "a/b").map (·.url.path) =
      .ok (path ["rest","bundles","a","b","contents","blob",""]) := by
    decide +kernel
  refine ⟨by decide +kernel,divided,?_,by decide +kernel⟩
  rintro put hput ⟨segment,-,-,named⟩
  rw [hput] at divided
  have same := named.symm.trans (Except.ok.inj divided)
  exact absurd (congrArg List.length (Url.Path.segments.inj same)) (by simp)

end Client
end WorksheetUpload
