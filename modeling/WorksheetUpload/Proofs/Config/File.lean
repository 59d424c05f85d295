import WorksheetUpload.Config.Basic
import WorksheetUpload.Proofs.Json.Shape

/-! Which objects are configurations. The layout of the file does not matter, nor do members of other
names; each field is what its member says, or else the default. -/
namespace WorksheetUpload.Config

open Json (Datum Numeral Gap Entry Written Placed entriesData)

def keys : List String := ["server_url","worksheet_uuid","after_sort_key","auth_token"]

/-- The sort key that a number stands for. -/
def keyOf (d : Datum) : Option SortKey := d.whole?.bind SortKey.ofInt?

/-- What a member changes, if it can stand in a configuration. -/
def change (key : String) (d : Datum) : Option (Config → Config) :=
  if key = "server_url" then d.text?.map fun serverUrl c => {c with serverUrl}
  else if key = "worksheet_uuid" then d.text?.map fun worksheet c => {c with worksheet}
  else if key = "after_sort_key" then (d.orNull keyOf).map fun after c => {c with after}
  else if key = "auth_token" then (d.orNull Datum.text?).map fun token c => {c with token}
  else none

theorem names_shape : shape.names = keys := rfl

theorem fieldsMean_change : shape.FieldsMean change := by
  simp only [Json.Shape.FieldsMean,shape,List.forall_mem_cons]
  refine ⟨?_,?_,?_,?_,nofun⟩
  · exact Json.means_field Json.means_text _ _
  · exact Json.means_field Json.means_text _ _
  · exact Json.means_field (Json.means_orNull (Json.means_whole _ _)) _ _
  · exact Json.means_field (Json.means_orNull Json.means_text) _ _

/-- A configuration is decoded from what its text denotes. -/
theorem toOption_decode (p : Placed Written) :
    (decode (Utf8.encode p.render)).toOption = shape.ofDatum change p.value.datum :=
  Json.parse_render (Json.means_object fieldsMean_change) p

/-- A sort key is written as an integer, and lies within the bounds of its type. -/
theorem keyOf_eq_some_iff {d : Datum} {k : SortKey} :
    keyOf d = some k ↔ ∃ n : Numeral, d = .number n ∧ n.IsInteger ∧ n.integer = k.value := by
  have lower := k.lower
  have upper := k.upper
  cases d with
  | number n =>
    simp only [keyOf,Datum.whole?,Option.bind_eq_some_iff,SortKey.ofInt?_eq_some_iff,
      Numeral.whole?_eq_some_iff,Datum.number.injEq,exists_eq_left']
    constructor
    · rintro ⟨v,⟨written,rfl,-,-⟩,hv⟩
      exact ⟨written,hv⟩
    · rintro ⟨written,hv⟩
      exact ⟨n.integer,⟨written,rfl,by omega,by omega⟩,hv⟩
  | _ => simp [keyOf,Datum.whole?]

theorem isSome_text?_iff {d : Datum} : d.text?.isSome = true ↔ ∃ s, d = .text s := by
  cases d <;> simp [Datum.text?]

theorem isSome_orNull_iff {α : Type} {meaning : Datum → Option α} {d : Datum} :
    (d.orNull meaning).isSome = true ↔ d = .null ∨ (meaning d).isSome = true := by
  cases d <;> simp [Datum.orNull]

/-- The members that make an object a configuration. -/
structure Acceptable (ms : List (String × Datum)) : Prop where
  once : ∀ key ∈ keys, (ms.map Prod.fst).count key ≤ 1
  server : ∀ d, ("server_url",d) ∈ ms → ∃ s, d = .text s
  worksheet : ∀ d, ("worksheet_uuid",d) ∈ ms → ∃ s, d = .text s
  after : ∀ d, ("after_sort_key",d) ∈ ms → d = .null ∨ ∃ n : Numeral, d = .number n ∧
    n.IsInteger ∧ -0x8000000000000000 ≤ n.integer ∧ n.integer < 0x8000000000000000
  token : ∀ d, ("auth_token",d) ∈ ms → d = .null ∨ ∃ s, d = .text s

/-- A configuration that says what the members say, and the default where they are silent. -/
structure Says (ms : List (String × Datum)) (c : Config) : Prop where
  server : ∀ s, ("server_url",.text s) ∈ ms → c.serverUrl = s
  no_server : "server_url" ∉ ms.map Prod.fst → c.serverUrl = "http://localhost:2900/rest"
  worksheet : ∀ s, ("worksheet_uuid",.text s) ∈ ms → c.worksheet = s
  no_worksheet : "worksheet_uuid" ∉ ms.map Prod.fst → c.worksheet = ""
  after : ∀ n, ("after_sort_key",.number n) ∈ ms → c.after.map SortKey.value = some n.integer
  null_after : ("after_sort_key",.null) ∈ ms → c.after = none
  no_after : "after_sort_key" ∉ ms.map Prod.fst → c.after = none
  token : ∀ s, ("auth_token",.text s) ∈ ms → c.token = some s
  null_token : ("auth_token",.null) ∈ ms → c.token = none
  no_token : "auth_token" ∉ ms.map Prod.fst → c.token = none

section

variable (d : Datum)

theorem change_server : change "server_url" d =
    d.text?.map fun serverUrl c => {c with serverUrl} := rfl

theorem change_worksheet : change "worksheet_uuid" d =
    d.text?.map fun worksheet c => {c with worksheet} := rfl

theorem change_after : change "after_sort_key" d =
    (d.orNull keyOf).map fun after c => {c with after} := rfl

theorem change_token : change "auth_token" d =
    (d.orNull Datum.text?).map fun token c => {c with token} := rfl

end

theorem isSome_change_after_iff {d : Datum} : (change "after_sort_key" d).isSome = true ↔
    d = .null ∨ ∃ n : Numeral, d = .number n ∧
      n.IsInteger ∧ -0x8000000000000000 ≤ n.integer ∧ n.integer < 0x8000000000000000 := by
  rw [change_after,Option.isSome_map,isSome_orNull_iff,Option.isSome_iff_exists]
  simp only [keyOf_eq_some_iff]
  apply or_congr_right
  constructor
  · rintro ⟨k,n,hd,written,hk⟩
    exact ⟨n,hd,written,hk ▸ k.lower,hk ▸ k.upper⟩
  · rintro ⟨n,hd,written,lower,upper⟩
    exact ⟨⟨n.integer,lower,upper⟩,n,hd,written,rfl⟩

/-- An object is a configuration exactly when its members are acceptable. -/
theorem exists_collect_iff (ms : List (String × Datum)) :
    (∃ c, shape.collect change [] shape.blank ms = some c) ↔ Acceptable ms := by
  have each : (∀ m ∈ ms, m.1 ∈ keys → (change m.1 m.2).isSome = true) ↔
      ∀ key ∈ keys, ∀ d, (key,d) ∈ ms → (change key d).isSome = true :=
    ⟨fun h key hk d hd => h _ hd hk,fun h m hm hk => h m.1 hk m.2 hm⟩
  rw [Json.Shape.exists_collect_iff,names_shape,each]
  simp only [keys,List.forall_mem_cons,isSome_change_after_iff,change_server,change_worksheet,
    change_token,Option.isSome_map,isSome_orNull_iff,isSome_text?_iff]
  constructor
  · rintro ⟨once,⟨server,worksheet,after,token,-⟩,-⟩
    exact ⟨by simpa [keys] using once,server,worksheet,after,token⟩
  · rintro ⟨once,server,worksheet,after,token⟩
    exact ⟨by simpa [keys] using once,⟨server,worksheet,after,token,nofun⟩,nofun⟩

/-- A member changes the field of its own name alone. -/
theorem change_keeps {key : String} {d : Datum} {f : Config → Config} (h : change key d = some f)
    (c : Config) :
    (key ≠ "server_url" → (f c).serverUrl = c.serverUrl) ∧
    (key ≠ "worksheet_uuid" → (f c).worksheet = c.worksheet) ∧
    (key ≠ "after_sort_key" → (f c).after = c.after) ∧
    (key ≠ "auth_token" → (f c).token = c.token) := by
  unfold change at h
  split_ifs at h with server worksheet after token
  all_goals obtain ⟨x,-,rfl⟩ := Option.map_eq_some_iff.1 h
  · simp [server]
  · simp [worksheet]
  · simp [after]
  · simp [token]

/-- The configuration that an object comes to says what its members say. -/
theorem says_of_collect {ms : List (String × Datum)} {c : Config}
    (h : shape.collect change [] shape.blank ms = some c) : Says ms c := by
  obtain ⟨noServer,server⟩ := Json.Shape.collect_get Config.serverUrl "server_url"
    (by decide) (fun _ hk _ _ hc x => (change_keeps hc x).1 hk) h
  obtain ⟨noWorksheet,worksheet⟩ := Json.Shape.collect_get Config.worksheet "worksheet_uuid"
    (by decide) (fun _ hk _ _ hc x => (change_keeps hc x).2.1 hk) h
  obtain ⟨noAfter,after⟩ := Json.Shape.collect_get Config.after "after_sort_key"
    (by decide) (fun _ hk _ _ hc x => (change_keeps hc x).2.2.1 hk) h
  obtain ⟨noToken,token⟩ := Json.Shape.collect_get Config.token "auth_token"
    (by decide) (fun _ hk _ _ hc x => (change_keeps hc x).2.2.2 hk) h
  constructor
  case server =>
    intro s hs
    obtain ⟨f,x,hf,hc⟩ := server _ hs
    cases hf
    exact hc
  case worksheet =>
    intro s hs
    obtain ⟨f,x,hf,hc⟩ := worksheet _ hs
    cases hf
    exact hc
  case after =>
    intro n hn
    obtain ⟨f,x,hf,hc⟩ := after _ hn
    rw [change_after] at hf
    obtain ⟨o,ho,rfl⟩ := Option.map_eq_some_iff.1 hf
    obtain ⟨k,hk,rfl⟩ : ∃ k, keyOf (.number n) = some k ∧ some k = o := Option.map_eq_some_iff.1 ho
    obtain ⟨m,hm,-,value⟩ := keyOf_eq_some_iff.1 hk
    cases hm
    rw [hc]
    exact congrArg some value.symm
  case null_after =>
    intro hn
    obtain ⟨f,x,hf,hc⟩ := after _ hn
    cases hf
    exact hc
  case token =>
    intro s hs
    obtain ⟨f,x,hf,hc⟩ := token _ hs
    cases hf
    exact hc
  case null_token =>
    intro hn
    obtain ⟨f,x,hf,hc⟩ := token _ hn
    cases hf
    exact hc
  case no_server => exact noServer
  case no_worksheet => exact noWorksheet
  case no_after => exact noAfter
  case no_token => exact noToken

/-- A configuration that an object is decoded to. -/
theorem decode_object_eq_ok_iff {before gap after : Gap} {members : List (Entry Written)}
    {c : Config} : decode (Utf8.encode (Placed.render ⟨before,.object gap members,after⟩)) = .ok c ↔
      shape.collect change [] shape.blank (entriesData members) = some c := by
  have decoded := toOption_decode ⟨before,.object gap members,after⟩
  rw [Written.datum,Json.Shape.ofDatum] at decoded
  rw [← decoded]
  cases decode (Utf8.encode (Placed.render ⟨before,.object gap members,after⟩)) <;>
    simp [Except.toOption]

theorem ofFile_encode (path : String) (text : List Char) :
    ofFile path (.content (Utf8.encode text)) =
      (decode (Utf8.encode text)).mapError (.malformed path (Utf8.encode text)) := by
  rw [ofFile,Utf8.decode?_encode]

theorem ofFile_encode_eq_ok_iff {path : String} {text : List Char} {c : Config} :
    ofFile path (.content (Utf8.encode text)) = .ok c ↔ decode (Utf8.encode text) = .ok c := by
  rw [ofFile_encode]
  cases decode (Utf8.encode text) <;> simp [Except.mapError]

/-- A file that holds an object is accepted exactly when no field comes twice, the addresses are
texts, the token is a text or null, and the sort key is null or an integer within its bounds. The
order of the members does not count, nor do blanks, escapes, or whatever stands under other names.
Each field is then what its member says, or else the default. -/
theorem object_file_iff (path : String) (before gap after : Gap) (members : List (Entry Written)) :
    let file := File.content (Utf8.encode (Placed.render ⟨before,.object gap members,after⟩))
    ((∃ c, ofFile path file = .ok c) ↔ Acceptable (entriesData members)) ∧
      ∀ c, ofFile path file = .ok c → Says (entriesData members) c := by
  simp only [ofFile_encode_eq_ok_iff,decode_object_eq_ok_iff]
  exact ⟨exists_collect_iff _,fun _ h => says_of_collect h⟩

end WorksheetUpload.Config
