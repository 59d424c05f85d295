import WorksheetUpload.Proofs.Client.Address
import WorksheetUpload.Proofs.FileName.BundleName
import WorksheetUpload.Proofs.Url.Pairs

/-! What the request for contents tells the service about them. The name of a file is reduced to
characters that a query holds as they are, so it is written out literally, and is one value. -/
namespace WorksheetUpload

namespace FileName

theorem toNat_of_isBundleChar {c : Char} (h : isBundleChar c = true) : c.toNat < 0x80 := by
  have below {d : Char} (top : c ≤ d) (ascii : d.toNat < 0x80) : c.toNat < 0x80 :=
    Nat.lt_of_le_of_lt (Text.le_iff_toNat_le.1 top) ascii
  rcases isBundleChar_iff.1 h with (⟨-,top⟩ | ⟨-,top⟩ | rfl) | ⟨-,top⟩ | rfl | rfl
  · exact below top (by decide)
  · exact below top (by decide)
  · decide
  · exact below top (by decide)
  · decide
  · decide

/-- What holds of the characters of ASCII that may stand in a bundle name holds of all that may. -/
@[elab_as_elim] theorem forall_bundleChars {P : Char → Prop} {c : Char} (hc : isBundleChar c = true)
    (h : ∀ n < 0x80, isBundleChar (Char.ofNat n) = true → P (Char.ofNat n)) : P c := by
  have here := h c.toNat (toNat_of_isBundleChar hc)
  rw [Char.ofNat_toNat] at here
  exact here hc

theorem isUnreserved_of_isBundleChar {c : Char} (h : isBundleChar c = true) :
    ∃ b, Url.Form.isUnreserved b = true ∧ c = Char.ofNat b.toNat := by
  have ascii : ∀ n < 0x80, isBundleChar (Char.ofNat n) = true →
      Url.Form.isUnreserved (UInt8.ofNat n) = true ∧
        Char.ofNat n = Char.ofNat (UInt8.ofNat n).toNat := by
    decide
  refine forall_bundleChars h fun n small fits => ?_
  exact ⟨_,ascii n small fits⟩

theorem isBundleChar_of_mem_uploadName {name : List Char} :
    ∀ c ∈ uploadName name, isBundleChar c = true :=
  fun c hc => isBundleChar_iff.2 ((isBundleName_uploadName name).canStand c hc)

/-- A query holds an upload name as it is. -/
theorem encodeText_uploadName (name : List Char) :
    Url.Form.encodeText (uploadName name) = uploadName name :=
  Url.Form.encodeText_of_isUnreserved fun c hc =>
    isUnreserved_of_isBundleChar (isBundleChar_of_mem_uploadName c hc)

end FileName

namespace Client

open Http

/-- The pairs about a file, as a query holds them. -/
theorem append_contentPairs (query : List Char) (name : String) :
    Url.Form.append query (contentPairs (.ofFileName name)) =
      (if query.isEmpty then [] else query ++ ['&']) ++ "finalize=1&filename=".toList ++
        FileName.uploadName name.toList ++ "&unpack=".toList ++
          [if FileName.isArchive name.toList then '1' else '0'] := by
  have finalize : Url.Form.encodePair ("finalize".toList,flag true) = "finalize=1".toList := by
    decide
  have filename : Url.Form.encodePair ("filename".toList,FileName.uploadName name.toList) =
      "filename=".toList ++ FileName.uploadName name.toList := by
    have field : Url.Form.encodeText "filename".toList = "filename".toList := by decide
    rw [Url.Form.encodePair,FileName.encodeText_uploadName,field]
    rfl
  have unpack (b : Bool) : Url.Form.encodePair ("unpack".toList,flag b) =
      "unpack=".toList ++ [if b then '1' else '0'] := by
    cases b <;> decide
  simp only [contentPairs,Url.Form.append_cons,ContentParams.ofFileName,String.toList_ofList,
    List.flatMap_cons,List.flatMap_nil,finalize,filename,unpack]
  simp

/-- The query that the address of the contents has goes first, and what is said of the file follows
it literally: the name adds no pair, and no character of it is encoded. -/
theorem file_told_literally {c : Client} {h : Handle} {url : Url}
    (hu : Url.parse (c.contentsUrl h) = .ok url) (http : Url.isHttp url.scheme = true)
    (name : String) (contents : Bytes) : ∃ put query,
      c.contentsRequest h (.ofFileName name) contents = .ok put ∧ put.url.query = some query ∧
      query = (if (url.query.getD []).isEmpty then [] else url.query.getD [] ++ ['&']) ++
        "finalize=1&filename=".toList ++ FileName.uploadName name.toList ++ "&unpack=".toList ++
          [if FileName.isArchive name.toList then '1' else '0'] ∧
      Url.Form.read query = Url.Form.read (url.query.getD []) ++
        [("finalize".toList,['1']),("filename".toList,FileName.uploadName name.toList),
          ("unpack".toList,[if FileName.isArchive name.toList then '1' else '0'])] := by
  refine ⟨_,_,contentsRequest_of_parse hu (Url.hasHost_of_parse hu http) _ contents,rfl,?_,?_⟩
  · rw [Request.query_destination,append_contentPairs]
  · rw [Request.query_destination,Url.Form.read_append]
    simp only [contentPairs,ContentParams.ofFileName,String.toList_ofList]
    cases FileName.isArchive name.toList <;> rfl

/-- A handle that brings a query of its own, and an archive whose name holds a space. -/
theorem file_told_behind_a_query :
    let c : Client := ⟨"http://[::1]/rest".toList,none,by simp⟩
    ∃ put query, c.contentsRequest ⟨"a?b=c"⟩ (.ofFileName "My Data.ZIP") [] = .ok put ∧
      put.url.query = some query ∧
      query = "b=c/contents/blob/&finalize=1&filename=My-Data.ZIP&unpack=1".toList ∧
      Url.Form.read query = [("b".toList,"c/contents/blob/".toList),("finalize".toList,['1']),
        ("filename".toList,"My-Data.ZIP".toList),("unpack".toList,['1'])] := by
  intro c
  have parsed : Url.parse (c.contentsUrl ⟨"a?b=c"⟩) = .ok
      ⟨"http".toList,some ⟨[],none,.ipv6 [0,0,0,0,0,0,0,1],none⟩,
        .segments ["rest".toList,"bundles".toList,"a".toList],some "b=c/contents/blob/".toList,
        none⟩ := by
    decide +kernel
  have own : Url.Form.read "b=c/contents/blob/".toList =
      [("b".toList,"c/contents/blob/".toList)] := by
    decide +kernel
  have name : FileName.uploadName "My Data.ZIP".toList = "My-Data.ZIP".toList := by decide
  have archive : FileName.isArchive "My Data.ZIP".toList = true := by decide
  obtain ⟨put,query,sent,here,literal,pairs⟩ :=
    file_told_literally parsed (by decide) "My Data.ZIP" []
  refine ⟨put,query,sent,here,literal.trans ?_,pairs.trans ?_⟩
  · rw [name,archive]
    decide
  · rw [Option.getD_some,own,name,archive]
    rfl

end Client
end WorksheetUpload
