import WorksheetUpload.Proofs.Startup.Decision

/-! The token that requests carry, from where it is set to where it is sent. Every request of a client
names the holder of its token, and that token is the one in force, be it empty. The environment brings
no empty token into force, but a file does. -/
namespace WorksheetUpload

namespace Http

theorem Authorization.header_eq_iff {a : Authorization} {token : String} :
    a.header = "Bearer " ++ token ↔ a = .bearer token := by
  cases a with
  | bearer other => simp [header]
  | basic user password =>
    refine iff_of_false (fun same => ?_) (by simp)
    have second := congrArg (fun s : String => s.toList[1]?) same
    simp [header] at second

/-- A request says that the holder of a token asks just if that token is there. -/
theorem Request.header_sender_iff {url : Url} {inForce : Option String} {token : String} :
    (sender url inForce).map Authorization.header = some ("Bearer " ++ token) ↔
      inForce = some token := by
  cases inForce with
  | some other => simp [sender,Authorization.header_eq_iff]
  | none =>
    rcases sender_none url with nobody | ⟨user,password,basic⟩
    · simp [nobody]
    · simp [basic,Authorization.header_eq_iff]

/-- What arrives of a request says who asks as it does. -/
theorem Network.exists_arrived (n : Network) (r : Request) : ∃ sent,
    (n.send r).2.arrived = n.arrived ++ sent ∧ ∀ a ∈ sent, a.authorization = r.authorization := by
  cases fault : n.fault with
  | some f =>
    obtain ⟨e,unsent⟩ := send_eq_of_fault fault r
    exact ⟨[],by simp [unsent],by simp⟩
  | none =>
    refine ⟨r.arriving?.toList,by rw [send_after fault]; rfl,fun a ha => ?_⟩
    rw [Request.arriving?_eq_some (Option.mem_toList.1 ha)]

end Http

namespace Client

open Http

/-- What a client can make of a network, by its two calls in any order and with anything in them. -/
inductive Reaches (c : Client) (n : Network) : Network → Prop
  | start : Reaches c n n
  | create {m : Network} (before : Reaches c n m) (t : Target) (d : Metadata) :
      Reaches c n (c.create t d m).2
  | upload {m : Network} (before : Reaches c n m) (h : Handle) (p : ContentParams)
      (contents : Bytes) : Reaches c n (c.upload h p contents m).2

/-- Whether a request says who asks as some address and the client's token do. -/
def Signs (c : Client) (r : Request) : Prop := ∃ url, r.authorization = Request.sender url c.token

/-- Whether nothing but signed requests has arrived from one network to another. -/
def Adds (c : Client) (n m : Network) : Prop :=
  ∃ sent, m.arrived = n.arrived ++ sent ∧ ∀ r ∈ sent, c.Signs r

variable {c : Client}

namespace Adds

theorem refl (n : Network) : c.Adds n n := ⟨[],by simp,by simp⟩

theorem trans {n m l : Network} (first : c.Adds n m) (second : c.Adds m l) : c.Adds n l := by
  obtain ⟨sent,here,signed⟩ := first
  obtain ⟨more,there,signed'⟩ := second
  refine ⟨sent ++ more,by rw [there,here,List.append_assoc],fun r hr => ?_⟩
  rcases List.mem_append.1 hr with hr | hr
  · exact signed r hr
  · exact signed' r hr

theorem send {r : Request} (signed : c.Signs r) (n : Network) : c.Adds n (n.send r).2 := by
  obtain ⟨sent,arrived,alike⟩ := n.exists_arrived r
  obtain ⟨url,asks⟩ := signed
  exact ⟨sent,arrived,fun a ha => ⟨url,(alike a ha).trans asks⟩⟩

theorem create (t : Target) (d : Metadata) (n : Network) : c.Adds n (c.create t d n).2 := by
  unfold Client.create
  cases c.bundlesUrl t with
  | error f => exact refl n
  | ok url =>
    cases built : c.createRequest url d with
    | error e => simpa only [built] using refl n
    | ok request =>
      have sent : c.Adds n (n.send request).2 := send ⟨url,Request.authorization_of_to? built⟩ n
      simp only [built]
      generalize n.send request = result at sent ⊢
      obtain ⟨answer,m⟩ := result
      cases answer <;> exact sent

theorem upload (h : Handle) (p : ContentParams) (contents : Bytes) (n : Network) :
    c.Adds n (c.upload h p contents n).2 := by
  unfold Client.upload
  cases built : c.contentsRequest h p contents with
  | error e => exact refl n
  | ok request =>
    have signed : c.Signs request := by
      unfold contentsRequest at built
      cases parsed : Url.parse (c.contentsUrl h) with
      | error f => simp [parsed] at built
      | ok url =>
        rw [parsed] at built
        obtain ⟨bare,made,rfl⟩ := Url.map_eq_ok.1 built
        have asks : bare.authorization = Request.sender url c.token :=
          Request.authorization_of_to? made
        exact ⟨url,asks⟩
    have sent : c.Adds n (n.send request).2 := send signed n
    dsimp only
    generalize n.send request = result at sent ⊢
    obtain ⟨answer,m⟩ := result
    cases answer <;> exact sent

end Adds

theorem Reaches.adds {n m : Network} (h : c.Reaches n m) : c.Adds n m := by
  induction h with
  | start => exact .refl n
  | create _ t d ih => exact ih.trans (.create t d _)
  | upload _ h p contents ih => exact ih.trans (.upload h p contents _)

/-- Uploads one after another are such calls. -/
theorem reaches_runAll (tree : FileTree) (target : Target) (ps : List (Option PendingUpload))
    (n : Network) : c.Reaches n (Flow.runAll c.service tree target ps n).2 := by
  refine Flow.runAll_keeps (P := c.Reaches n) ?_ ?_ tree target ps .start
  · intro t d m h
    rw [service_create]
    exact .create h t d
  · intro b p contents m h
    rw [service_upload]
    exact .upload h b p contents

end Client

namespace Config

open Json (Datum Gap Entry Written Placed entriesData)

/-- The token of an object is the text that its member says. -/
theorem token_eq_some_iff {ms : List (String × Datum)} {c : Config}
    (h : shape.collect change [] shape.blank ms = some c) (token : String) :
    c.token = some token ↔ ("auth_token",.text token) ∈ ms := by
  have told := says_of_collect h
  refine ⟨fun there => ?_,told.token token⟩
  by_cases named : "auth_token" ∈ ms.map Prod.fst
  case pos =>
    obtain ⟨⟨_,d⟩,member,rfl⟩ := List.mem_map.1 named
    rcases ((exists_collect_iff ms).1 ⟨c,h⟩).token d member with rfl | ⟨other,rfl⟩
    · cases there.symm.trans (told.null_token member)
    · cases there.symm.trans (told.token other member)
      exact member
  case neg => cases there.symm.trans (told.no_token named)

end Config

namespace Startup

open Config Http
open Json (Gap Entry Written Placed entriesData)

variable {file : File} {env : Environment} {config : Config}

/-- The token of a configuration that was loaded is the token in force. -/
theorem token_load_iff (loaded : load file env = .ok config) (token : String) :
    config.token = some token ↔ TokenInForce env file token := by
  rcases load_cases file env with ⟨e,-,failed⟩ | ⟨base,read,⟨e,-,failed⟩ | ⟨key,-,same⟩⟩
  · cases loaded.symm.trans failed
  · cases loaded.symm.trans failed
  · cases loaded.symm.trans same
    rw [tokenInForce_iff read]
    rfl

theorem decode_of_load {bytes : Bytes} (loaded : load (.content bytes) env = .ok config) :
    ∃ base, decode bytes = .ok base := by
  rcases load_cases (.content bytes) env with ⟨e,-,failed⟩ | ⟨base,read,-⟩
  · cases loaded.symm.trans failed
  · exact ⟨base,(gives_of_ofFile read).decoded bytes rfl⟩

/-- An empty token is in force just where the environment sets none and the file sets an empty one. -/
theorem tokenInForce_empty_iff : TokenInForce env file "" ↔ env "BUNDLE_UPLOADER_TOKEN" = none ∧
    ∃ bytes base, file = .content bytes ∧ decode bytes = .ok base ∧ base.token = some "" := by
  constructor
  · rintro (⟨-,nonempty⟩ | ⟨unset,decoded,there⟩)
    · exact absurd rfl nonempty
    · exact ⟨unset,_,_,rfl,decoded,there⟩
  · rintro ⟨unset,bytes,base,rfl,decoded,there⟩
    exact .kept unset decoded there

theorem ok_of_toOption {ε α : Type} {result : Except ε α} {a : α}
    (h : result.toOption = some a) : result = .ok a := by
  cases result with
  | error e => cases h
  | ok b => exact congrArg Except.ok (Option.some.inj h)

/-- A configuration has an empty token just where the environment sets no token and the file sets an
empty one; among its members, where it holds an object. A client is made of it like any other, and of
all requests that a client ever sends, one upload after another or the calls of several in any order,
each says that the holder of the token in force asks: with an empty one, a bearer of nothing. -/
theorem empty_token_loaded_iff (loaded : load file env = .ok config) :
    (config.token = some "" ↔ env "BUNDLE_UPLOADER_TOKEN" = none ∧
      ∃ bytes base, file = .content bytes ∧ decode bytes = .ok base ∧ base.token = some "") ∧
    (∀ (before gap after : Gap) (members : List (Entry Written)),
      file = .content (Utf8.encode (Placed.render ⟨before,.object gap members,after⟩)) →
        (config.token = some "" ↔ env "BUNDLE_UPLOADER_TOKEN" = none ∧
          ("auth_token",.text "") ∈ entriesData members)) ∧
    (config.token = some "" → ∃ client, Client.ofConfig? config = some client) ∧
    ∀ client, Client.ofConfig? config = some client →
      (∀ tree ps n, client.Reaches n (Flow.runAll client.service tree config.target ps n).2) ∧
      ∀ n m, client.Reaches n m → ∃ sent, m.arrived = n.arrived ++ sent ∧
        ∀ r ∈ sent, (r.authorization.map Authorization.header = some "Bearer " ↔
            config.token = some "") ∧
          ∀ token, r.authorization.map Authorization.header = some ("Bearer " ++ token) ↔
            config.token = some token := by
  refine ⟨?_,?_,?_,?_⟩
  · rw [token_load_iff loaded,tokenInForce_empty_iff]
  · rintro before gap after members rfl
    obtain ⟨base,decoded⟩ := decode_of_load loaded
    rw [token_load_iff loaded,tokenInForce_empty_iff,
      ← token_eq_some_iff (decode_object_eq_ok_iff.1 decoded)]
    refine and_congr_right fun _ => ⟨?_,fun there => ⟨_,base,rfl,decoded,there⟩⟩
    rintro ⟨bytes,other,same,decoded',there⟩
    cases same
    cases decoded.symm.trans decoded'
    exact there
  · intro empty
    refine Option.isSome_iff_exists.1 ((Client.isSome_ofConfig?_iff config).2 ?_)
    simp [empty,FitsHeader]
  · intro client made
    obtain ⟨-,token⟩ := Client.ofConfig?_eq_some made
    refine ⟨fun tree ps n => Client.reaches_runAll tree config.target ps n,fun n m reached => ?_⟩
    obtain ⟨sent,arrived,signed⟩ := reached.adds
    refine ⟨sent,arrived,fun r hr => ?_⟩
    have bearer (t : String) : r.authorization.map Authorization.header = some ("Bearer " ++ t) ↔
        config.token = some t := by
      obtain ⟨url,asks⟩ := signed r hr
      rw [asks,token]
      exact Request.header_sender_iff
    refine ⟨?_,bearer⟩
    rw [← bearer "",String.append_empty]

/-- A file with an empty token, where the environment sets nothing. -/
theorem empty_token_of_file_signs :
    let file : File := .content
      (Utf8.ofString "\x7b\"server_url\":\"http://[::1]/rest\",\"auth_token\":\"\"\x7d")
    let config : Config := ⟨"http://[::1]/rest","",none,some ""⟩
    load file (fun _ => none) = .ok config ∧
    ∃ client, Client.ofConfig? config = some client ∧
      ∀ n m, client.Reaches n m → ∃ sent, m.arrived = n.arrived ++ sent ∧
        ∀ r ∈ sent, r.authorization.map Authorization.header = some "Bearer " := by
  intro file config
  have loaded : load file (fun _ => none) = .ok config := ok_of_toOption (by decide +kernel)
  obtain ⟨-,-,made,sent⟩ := empty_token_loaded_iff loaded
  obtain ⟨client,made⟩ := made rfl
  refine ⟨loaded,client,made,fun n m reached => ?_⟩
  obtain ⟨sent,arrived,signed⟩ := (sent client made).2 n m reached
  exact ⟨sent,arrived,fun r hr => (signed r hr).1.2 rfl⟩

/-- An upload with an empty token from the file: both of its requests bear nothing. -/
theorem empty_token_of_file_sent :
    let file : File := .content
      (Utf8.ofString "\x7b\"server_url\":\"http://[::1]/rest\",\"auth_token\":\"\"\x7d")
    let reply : Reply := .answered ⟨⟨200,by decide,by decide⟩,none,
      Utf8.ofString "\x7b\"data\":[\x7b\"id\":\"0x1\"\x7d]\x7d",0⟩
    let pending : PendingUpload := ⟨.ofContents "n.txt" [],⟨"n.txt","",[]⟩,none⟩
    (load file fun _ => none).toOption.map Config.token = some (some "") ∧
    ((run file fun _ => none).outcome.toOption.map fun client =>
      (Flow.run client.service .empty ⟨"",none⟩ (some pending)
        (.scripted [] reply)).state.arrived.map fun r =>
          (r.method,r.authorization.map Authorization.header)) =
      some [(.post,some "Bearer "),(.put,some "Bearer ")] := by
  decide +kernel

end Startup
end WorksheetUpload
