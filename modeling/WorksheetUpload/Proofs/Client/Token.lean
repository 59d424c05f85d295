import WorksheetUpload.Proofs.Client.Sender
import WorksheetUpload.Proofs.Client.Sending
import WorksheetUpload.Proofs.Flow.Alike
import WorksheetUpload.Proofs.Http.Header

/-! What a token does. Nothing that a client does depends on its token but whom its requests name as
asking, so that clients which differ in their tokens send the same requests otherwise, and their
uploads go the same way. -/
namespace WorksheetUpload

namespace Http

/-- A request but for whom it names as asking. -/
def Request.unsigned (r : Request) : Request := {r with authorization := none}

/-- What becomes of requests but for whom they name. -/
def Network.unsigned (n : Network) : Network := {n with arrived := n.arrived.map Request.unsigned}

theorem Request.to?_unsigned (method : Method) (url : Url) (token token' : Option String)
    (contentType : String) (body : Bytes) :
    (to? method url token contentType body).map unsigned =
      (to? method url token' contentType body).map unsigned := by
  unfold to?
  split
  case isTrue => rfl
  case isFalse => cases credentials? url <;> rfl

/-- A network does not look at whom a request names. -/
theorem Network.send_unsigned (n : Network) (r : Request) :
    n.unsigned.send r.unsigned = ((n.send r).1,(n.send r).2.unsigned) := by
  have ha : n.unsigned.answer r.unsigned = ((n.answer r).1,(n.answer r).2.unsigned) := by
    simp [answer_eq,unsigned,next,after,Request.unsigned]
  have url : r.unsigned.url = r.url := rfl
  have fault : n.unsigned.fault = n.fault := rfl
  unfold send
  rw [ha,url,fault]
  split
  case isTrue => rfl
  case isFalse =>
    split
    case isTrue => rfl
    case isFalse => cases n.fault <;> rfl

/-- Networks and requests that differ in this alone answer alike, and differ in no more afterwards. -/
theorem Network.exists_send {n m : Network} {r s : Request} (hn : n.unsigned = m.unsigned)
    (hr : r.unsigned = s.unsigned) : ∃ answer n' m', n.send r = (answer,n') ∧
      m.send s = (answer,m') ∧ n'.unsigned = m'.unsigned := by
  have same : ((n.send r).1,(n.send r).2.unsigned) = ((m.send s).1,(m.send s).2.unsigned) := by
    rw [← send_unsigned,← send_unsigned,hn,hr]
  obtain ⟨answers,nets⟩ := Prod.mk.inj same
  exact ⟨(n.send r).1,(n.send r).2,(m.send s).2,rfl,Prod.ext answers.symm rfl,nets⟩

end Http

namespace Client

open Http

/-- Answers that look the same in some respect are both errors, the same one, or both none. -/
theorem map_eq_map_cases {ε α β : Type} {f : α → β} {x y : Except ε α} (h : x.map f = y.map f) :
    (∃ e, x = .error e ∧ y = .error e) ∨ ∃ r s, x = .ok r ∧ y = .ok s ∧ f r = f s := by
  cases x with
  | error e =>
    cases y with
    | error e' => exact .inl ⟨e,rfl,by cases h; rfl⟩
    | ok s => cases h
  | ok r =>
    cases y with
    | error e => cases h
    | ok s => exact .inr ⟨r,s,rfl,rfl,Except.ok.inj h⟩

section

variable {a b : Client} (same : a.base = b.base)
include same

theorem bundlesText_of_base : a.bundlesText = b.bundlesText := by rw [bundlesText,bundlesText,same]

theorem bundlesUrl_of_base (t : Target) : a.bundlesUrl t = b.bundlesUrl t := by
  rw [bundlesUrl,bundlesUrl,bundlesText_of_base same]

theorem createUrl_of_base (t : Target) : a.createUrl t = b.createUrl t := by
  rw [createUrl,createUrl,bundlesUrl_of_base same,bundlesText_of_base same]

theorem contentsUrl_of_base (h : Handle) : a.contentsUrl h = b.contentsUrl h := by
  rw [contentsUrl,contentsUrl,bundlesText_of_base same]

theorem contentsRequest_unsigned (h : Handle) (p : ContentParams) (contents : Bytes) :
    (a.contentsRequest h p contents).map Request.unsigned =
      (b.contentsRequest h p contents).map Request.unsigned := by
  rw [contentsRequest,contentsRequest,contentsUrl_of_base same]
  cases Url.parse (b.contentsUrl h) with
  | error f => rfl
  | ok url =>
    rcases map_eq_map_cases (Request.to?_unsigned .put url a.token b.token
        "application/octet-stream" contents) with ⟨e,ha,hb⟩ | ⟨r,s,ha,hb,hr⟩
    · simp [ha,hb]
    · simp only [ha,hb]
      exact congrArg (fun q : Request => Except.ok (q.addPairs (contentPairs p))) hr

variable [Decoding] {n m : Network} (hn : n.unsigned = m.unsigned)
include hn

theorem create_of_base (t : Target) (d : Metadata) :
    (a.create t d n).1 = (b.create t d m).1 ∧
      (a.create t d n).2.unsigned = (b.create t d m).2.unsigned := by
  unfold create
  rw [bundlesUrl_of_base same,createUrl_of_base same]
  cases b.bundlesUrl t with
  | error f => exact ⟨rfl,hn⟩
  | ok url =>
    rcases map_eq_map_cases (Request.to?_unsigned .post url a.token b.token "application/json"
        (Utf8.ofString (Creation.requestText d))) with ⟨e,ha,hb⟩ | ⟨r,s,ha,hb,hr⟩
    case inl =>
      simp only [createRequest,ha,hb,true_and]
      exact hn
    case inr =>
      simp only [createRequest,ha,hb]
      obtain ⟨answer,n',m',hx,hy,nets⟩ := Network.exists_send hn hr
      rw [hx,hy]
      cases answer <;> exact ⟨rfl,nets⟩

theorem upload_of_base (h : Handle) (p : ContentParams) (contents : Bytes) :
    (a.upload h p contents n).1 = (b.upload h p contents m).1 ∧
      (a.upload h p contents n).2.unsigned = (b.upload h p contents m).2.unsigned := by
  unfold upload
  rw [contentsUrl_of_base same]
  rcases map_eq_map_cases (contentsRequest_unsigned same h p contents) with
    ⟨e,ha,hb⟩ | ⟨r,s,ha,hb,hr⟩
  case inl =>
    simp only [ha,hb,true_and]
    exact hn
  case inr =>
    simp only [ha,hb]
    obtain ⟨answer,n',m',hx,hy,nets⟩ := Network.exists_send hn hr
    rw [hx,hy]
    cases answer <;> exact ⟨rfl,nets⟩

end

/-- Clients of one server answer alike over networks that differ only in whom requests named. -/
theorem alike_of_base [Decoding] {a b : Client} (same : a.base = b.base) :
    a.service.Alike b.service fun n m => n.unsigned = m.unsigned := by
  refine ⟨funext (contentsUrl_of_base same),?_,?_⟩
  · intro t d n m hn
    rw [service_create,service_create]
    exact create_of_base same hn t d
  · intro h p contents n m hn
    rw [service_upload,service_upload]
    exact upload_of_base same hn h p contents

theorem runAll_of_base [Decoding] {a b : Client} (same : a.base = b.base) (tree : FileTree)
    (target : Target) (ps : List (Option PendingUpload)) (n : Network) :
    (Flow.runAll a.service tree target ps n).1.map Flow.outcome =
        (Flow.runAll b.service tree target ps n).1.map Flow.outcome ∧
      (Flow.runAll a.service tree target ps n).2.unsigned =
        (Flow.runAll b.service tree target ps n).2.unsigned :=
  Flow.runAll_alike (alike_of_base same) tree target ps rfl

theorem ofConfig?_eq_some {config : Config} {c : Client} (h : ofConfig? config = some c) :
    c.base = baseOf config.serverUrl ∧ c.token = config.token := by
  unfold ofConfig? at h
  split at h
  · cases h
    exact ⟨rfl,rfl⟩
  · contradiction

theorem isSome_ofConfig?_iff (config : Config) :
    (ofConfig? config).isSome = true ↔ ∀ s ∈ config.token, FitsHeader s := by
  unfold ofConfig?
  split
  case isTrue h => exact iff_of_true rfl fun s hs => (isHeaderText_iff s).1 (h s hs)
  case isFalse h =>
    exact iff_of_false (by simp) fun fit => h fun s hs => (isHeaderText_iff s).2 (fit s hs)

theorem mem_of_mem_baseOf {serverUrl : String} {c : Char} (h : c ∈ baseOf serverUrl) :
    c ∈ serverUrl.toList := by
  have h := (List.dropWhile_suffix _).subset (List.mem_reverse.1 h)
  exact List.mem_reverse.1 h

/-- A token shows in nothing but in whom requests name. Clients whose configurations differ in their
tokens alone send the same requests otherwise over the same network, and their uploads end alike, with
the same events and calls. Both requests of an upload name the same sender: the holder of the token,
whatever credentials stand in the address of the server, or else whom those name. -/
theorem token_only_signs [Decoding] (config : Config) {t t' : Option String}
    (ht : ∀ s ∈ t, FitsHeader s) (ht' : ∀ s ∈ t', FitsHeader s) (tree : FileTree) (n : Network) :
    ∃ a b : Client, ofConfig? {config with token := t} = some a ∧
      ofConfig? {config with token := t'} = some b ∧
      (∀ ps : List (Option PendingUpload),
        let x := Flow.runAll a.service tree config.target ps n
        let y := Flow.runAll b.service tree config.target ps n
        x.1.map (·.final) = y.1.map (·.final) ∧ x.1.map (·.events) = y.1.map (·.events) ∧
          x.1.map (·.calls) = y.1.map (·.calls) ∧
          x.2.arrived.map Request.unsigned = y.2.arrived.map Request.unsigned ∧
          x.2.replies = y.2.replies) ∧
      ∀ (m : Metadata) (h : Handle) (p : ContentParams) (contents : Bytes) (url : Url)
        (post put : Request), a.bundlesUrl config.target = .ok url →
        a.createRequest url m = .ok post → a.contentsRequest h p contents = .ok put →
        put.authorization = post.authorization ∧
        (∀ token, t = some token →
          post.authorization.map Authorization.header = some ("Bearer " ++ token)) ∧
        (t = none →
          (post.authorization = none ∨
            ∃ user password, post.authorization = some (.basic user password)) ∧
          (url.IsAnonymous ∨ '@' ∉ config.serverUrl.toList → post.authorization = none)) := by
  obtain ⟨a,ha⟩ := Option.isSome_iff_exists.1 ((isSome_ofConfig?_iff {config with token := t}).2 ht)
  obtain ⟨b,hb⟩ := Option.isSome_iff_exists.1 ((isSome_ofConfig?_iff {config with token := t'}).2 ht')
  obtain ⟨baseA,tokenA⟩ := ofConfig?_eq_some ha
  obtain ⟨baseB,-⟩ := ofConfig?_eq_some hb
  refine ⟨a,b,ha,hb,?_,?_⟩
  · intro ps x y
    obtain ⟨outcomes,nets⟩ := runAll_of_base (baseA.trans baseB.symm) tree config.target ps n
    have shown {β : Type} (g : Phase × List Step → β) :
        x.1.map (fun f => g f.outcome) = y.1.map fun f => g f.outcome := by
      have same := congrArg (List.map g) outcomes
      rwa [List.map_map,List.map_map] at same
    refine ⟨shown (·.1),shown (·.2.filterMap Step.event?),shown (·.2.filterMap Step.call?),?_,?_⟩
    · exact congrArg (·.arrived) nets
    · exact congrArg (·.replies) nets
  · intro m h p contents url post put address created sent
    obtain ⟨sender,sender'⟩ := authorization_of_requests address created sent
    refine ⟨sender'.trans sender.symm,?_,?_⟩
    · rintro token rfl
      rw [sender,tokenA]
      rfl
    · rintro rfl
      rw [sender,tokenA]
      refine ⟨Request.sender_none url,fun nobody => Request.sender_none_of_isAnonymous ?_⟩
      rcases nobody with nobody | no_at
      · exact nobody
      · refine isAnonymous_of_bundlesUrl (fun there => no_at ?_) address
        exact mem_of_mem_baseOf (baseA ▸ there)

/-- A token beside credentials, and no token beside them. -/
theorem token_beside_credentials :
    let config : Config := ⟨"http://me:pw@[::1]/rest/","w",none,none⟩
    let upload : PendingUpload := ⟨.ofContents "f" [1],⟨"f","",[]⟩,none⟩
    ∃ (a b : Client) (url : Url) (post put : Request),
      ofConfig? {config with token := some "é\t"} = some a ∧ ofConfig? config = some b ∧
      a.bundlesUrl config.target = .ok url ∧ a.createRequest url upload.metadata = .ok post ∧
      a.contentsRequest ⟨"0x1"⟩ (.ofFileName "f") [1] = .ok put ∧
      post.authorization.map Authorization.header = some "Bearer é\t" ∧
      put.authorization.map Authorization.header = some "Bearer é\t" ∧
      (Flow.runAll a.service .empty config.target [some upload]
          (.scripted [] .closed)).2.arrived.map Request.unsigned =
        (Flow.runAll b.service .empty config.target [some upload]
          (.scripted [] .closed)).2.arrived.map Request.unsigned := by
  intro config upload
  obtain ⟨a,b,ha,hb,alike,signed⟩ := @token_only_signs _ config (some "é\t") none
    (by simp [FitsHeader]) (by simp) .empty (.scripted [] .closed)
  have base : a.base = "http://me:pw@[::1]/rest".toList := (ofConfig?_eq_some ha).1.trans (by decide)
  obtain ⟨u,hu,host⟩ : ∃ u, Url.parse (String.ofList a.bundlesText) = .ok u ∧ u.hasHost = true := by
    rw [bundlesText,base]
    exact ⟨⟨"http".toList,some ⟨"me".toList,some "pw".toList,.ipv6 [0,0,0,0,0,0,0,1],none⟩,
      .segments ["rest".toList,"bundles".toList],none,none⟩,by decide +kernel,by decide⟩
  obtain ⟨v,hv,host'⟩ : ∃ v, Url.parse (a.contentsUrl ⟨"0x1"⟩) = .ok v ∧ v.hasHost = true := by
    rw [contentsUrl,bundlesText,base]
    exact ⟨⟨"http".toList,some ⟨"me".toList,some "pw".toList,.ipv6 [0,0,0,0,0,0,0,1],none⟩,
      .segments (["rest","bundles","0x1","contents","blob",""].map String.toList),none,none⟩,
      by decide +kernel,by decide⟩
  have address := bundlesUrl_of_parse hu config.target
  have created := createRequest_of_hasHost (c := a) (u := u.addPairs (targetPairs config.target))
    (by simpa using host) upload.metadata
  have sent := contentsRequest_of_parse hv host' (.ofFileName "f") [1]
  obtain ⟨same,bearer,-⟩ := signed _ _ _ _ _ _ _ address created sent
  have bearer := bearer "é\t" rfl
  exact ⟨a,b,_,_,_,ha,hb,address,created,sent,bearer,same ▸ bearer,(alike [some upload]).2.2.2.1⟩

end Client
end WorksheetUpload
