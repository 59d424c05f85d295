import WorksheetUpload.Proofs.Client.Address
import WorksheetUpload.Proofs.Config.SortKey
import WorksheetUpload.Proofs.Url.Pairs

/-! The target of an upload in the address that creates its bundle. Whatever the worksheet is called,
the pairs that name the target come last in the query, and can be read again. -/
namespace WorksheetUpload

namespace Target

/-- The target that the last pairs of a query name. A key comes behind its worksheet. -/
def ofPairs? (pairs : List (List Char × List Char)) : Option Target :=
  match pairs.reverse with
  | [] => none
  | last :: before =>
    if last.1 = "after_sort_key".toList then
      match before.head?,SortKey.read last.2 with
      | some worksheet,.ok key => some ⟨String.ofList worksheet.2,some key⟩
      | _,_ => none
    else some ⟨String.ofList last.2,none⟩

/-- The worksheet always, and the key in decimal where there is one. -/
theorem pairs_eq (t : Target) : Client.targetPairs t =
    ("worksheet".toList,t.worksheet.toList) ::
      t.after.toList.map fun k => ("after_sort_key".toList,(toString k.value).toList) := by
  rw [Client.targetPairs]
  cases t.after <;> rfl

theorem ofPairs?_append (own : List (List Char × List Char)) (t : Target) :
    ofPairs? (own ++ Client.targetPairs t) = some t := by
  obtain ⟨worksheet,after⟩ := t
  cases after with
  | none => simp [ofPairs?,Client.targetPairs]
  | some k => simp [ofPairs?,Client.targetPairs,SortKey.read_text]

end Target

namespace Url

/-- The text of an address determines its query, once the rest of it is known. -/
theorem text_query_injective {u : Url} {query query' : List Char}
    (h : {u with query := some query}.text = {u with query := some query'}.text) :
    query = query' := by
  have h := String.ofList_injective h
  simpa [render,marked,beforePath] using h

end Url

namespace Client

/-- The address that creates a bundle is the one configured, with the target behind its query: both
parts of the target can be read from it, so no two targets share an address, or its text. -/
theorem target_survives {c : Client} {u : Url}
    (hu : Url.parse (String.ofList c.bundlesText) = .ok u) (t : Target) :
    ∃ query, c.bundlesUrl t = .ok {u with query := some query} ∧
      Url.Form.read query = Url.Form.read (u.query.getD []) ++
        ("worksheet".toList,t.worksheet.toList) ::
          t.after.toList.map (fun k => ("after_sort_key".toList,(toString k.value).toList)) ∧
      Target.ofPairs? (Url.Form.read query) = some t ∧
      ∀ t', t' ≠ t → c.bundlesUrl t' ≠ c.bundlesUrl t ∧ c.createUrl t' ≠ c.createUrl t := by
  have read (t : Target) : Url.Form.read (Url.Form.append (u.query.getD []) (targetPairs t)) =
      Url.Form.read (u.query.getD []) ++ targetPairs t := Url.Form.read_append ..
  have shown (t : Target) : c.createUrl t = (u.addPairs (targetPairs t)).text := by
    rw [createUrl,bundlesUrl_of_parse hu]
  refine ⟨_,bundlesUrl_of_parse hu t,?_,?_,?_⟩
  · rw [read,Target.pairs_eq]
  · rw [read,Target.ofPairs?_append]
  · intro t' different
    -- It is enough that the queries differ, since a target is read from its query.
    have queries : Url.Form.append (u.query.getD []) (targetPairs t') ≠
        Url.Form.append (u.query.getD []) (targetPairs t) := by
      intro same
      have pairs := congrArg (fun q => Target.ofPairs? (Url.Form.read q)) same
      simp only [read,Target.ofPairs?_append,Option.some.injEq] at pairs
      exact different pairs
    constructor
    · intro same
      rw [bundlesUrl_of_parse hu,bundlesUrl_of_parse hu] at same
      have query := congrArg Url.query (Except.ok.inj same)
      exact queries (Option.some.inj query)
    · intro same
      rw [shown,shown] at same
      exact queries (Url.text_query_injective same)

/-- A worksheet that spells more parameters, under an address with a query and a fragment. -/
theorem target_behind_a_query :
    let c : Client := ⟨"http://[::1]/rest?worksheet=1#top".toList,none,by simp⟩
    let t : Target := ⟨"a&after_sort_key=7#+%",some ⟨-1,by decide,by decide⟩⟩
    ∃ query, c.bundlesUrl t = .ok ⟨"http".toList,some ⟨[],none,.ipv6 [0,0,0,0,0,0,0,1],none⟩,
        .segments ["rest".toList],some query,some "top/bundles".toList⟩ ∧
      Url.Form.read query = [("worksheet".toList,"1".toList),
        ("worksheet".toList,"a&after_sort_key=7#+%".toList),
        ("after_sort_key".toList,"-1".toList)] := by
  intro c t
  have parsed : Url.parse (String.ofList c.bundlesText) = .ok
      ⟨"http".toList,some ⟨[],none,.ipv6 [0,0,0,0,0,0,0,1],none⟩,.segments ["rest".toList],
        some "worksheet=1".toList,some "top/bundles".toList⟩ := by
    decide +kernel
  have own : Url.Form.read "worksheet=1".toList = [("worksheet".toList,"1".toList)] := by
    decide +kernel
  obtain ⟨query,address,pairs,-,-⟩ := target_survives parsed t
  refine ⟨query,address,pairs.trans ?_⟩
  rw [Option.getD_some,own]
  rfl

end Client
end WorksheetUpload
