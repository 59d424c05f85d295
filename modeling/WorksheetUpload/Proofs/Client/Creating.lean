import WorksheetUpload.Proofs.Client.Arrival
import WorksheetUpload.Proofs.Creation.Response
import WorksheetUpload.Proofs.Flow.Ending

/-! The outcomes of creating a bundle. A response that names bundles gives the first of them, or says
that there is none; whatever else happens is a failed request, told with the address that was meant. -/
namespace WorksheetUpload

theorem Http.Status.isSuccess_iff {s : Status} :
    s.isSuccess = true ↔ 200 ≤ s.code ∧ s.code ≤ 299 := by
  simp only [isSuccess,Bool.and_eq_true,decide_eq_true_eq]
  omega

/-- Whether a response names these bundles: it is a success, and its whole body is decoded to them. -/
def Http.Response.Names (r : Http.Response) (handles : List Handle) : Prop :=
  200 ≤ r.status.code ∧ r.status.code ≤ 299 ∧
    ∃ body, r.received? = some body ∧ Creation.handles body = .ok handles

namespace Client

open Json (Datum Written Placed)

/-- Whether the request for a bundle arrives and is answered with these bundles. -/
def Receives (c : Client) (t : Target) (m : Metadata) (n : Http.Network) (handles : List Handle) :
    Prop :=
  n.fault = none ∧ (c.post? t m).isSome = true ∧ ∃ r, n.next = .answered r ∧ r.Names handles

/-- The first bundle, or that there is none. -/
def firstOf (shown : String) : List Handle → Except UploadError Handle
  | [] => .error (.noHandle shown)
  | h :: _ => .ok h

section

variable {c : Client} {t : Target} {m : Metadata} {n : Http.Network}

/-- One answer names bundles in one way. -/
theorem Receives.unique {handles others : List Handle} (h : c.Receives t m n handles)
    (h' : c.Receives t m n others) : handles = others := by
  obtain ⟨-,-,r,answered,-,-,body,whole,decoded⟩ := h
  obtain ⟨-,-,r',answered',-,-,body',whole',decoded'⟩ := h'
  cases answered.symm.trans answered'
  cases whole.symm.trans whole'
  cases decoded.symm.trans decoded'
  rfl

/-- A response is useless when an element of its data has no id. -/
theorem not_receives_of_no_id {r : Http.Response} (reply : n.next = .answered r)
    {p : Placed Written} (body : r.received? = some (Utf8.encode p.render)) {ds : List Datum}
    {d : Datum} (data : p.value.datum.Holds "data" (.list ds)) (hd : d ∈ ds)
    (no_id : ∀ text, ¬ d.Holds "id" (.text text)) (handles : List Handle) :
    ¬ c.Receives t m n handles := by
  rintro ⟨-,-,r',reply',-,-,body',whole,decoded⟩
  cases reply.symm.trans reply'
  cases body.symm.trans whole
  obtain ⟨text,has⟩ := (Creation.handles_render_eq_ok_iff.1 decoded).exists_id data hd
  exact no_id text has

end

variable [Http.Decoding]

section

variable {shown : String} {r : Http.Response}

theorem handleOf_names {handles : List Handle} (h : r.Names handles) :
    handleOf shown r = firstOf shown handles := by
  obtain ⟨lower,upper,body,whole,decoded⟩ := h
  have success := Http.Status.isSuccess_iff.2 ⟨lower,upper⟩
  simp only [handleOf,success,whole,decoded]
  cases handles <;> rfl

theorem handleOf_useless (h : ∀ handles, ¬ r.Names handles) :
    ∃ message, handleOf shown r = .error (.creation shown message) := by
  unfold handleOf
  cases success : r.status.isSuccess with
  | false => exact ⟨_,rfl⟩
  | true =>
    obtain ⟨lower,upper⟩ := Http.Status.isSuccess_iff.1 success
    cases whole : r.received? with
    | none => exact ⟨_,rfl⟩
    | some body =>
      cases decoded : Creation.handles body with
      | error f => exact ⟨unreadable (undecodable ++ f.message body),by simp [decoded]⟩
      | ok handles => exact absurd ⟨lower,upper,body,whole,decoded⟩ (h handles)

end

section

variable {c : Client} {t : Target} {m : Metadata} {n : Http.Network}

/-- A request that does not arrive uses up no reply. -/
theorem create_unsent (h : n.fault = none → c.post? t m = none) :
    ∃ message, c.create t m n = (.error (.creation (c.createUrl t) message),n) := by
  unfold create
  cases hu : c.bundlesUrl t with
  | error f => exact ⟨_,rfl⟩
  | ok url =>
    cases hq : c.createRequest url m with
    | error e => exact ⟨unsent e.message,by simp only [hq]⟩
    | ok request =>
      have still : n.fault = none → request.arriving? = none := by
        simpa only [post?,hu,hq] using h
      obtain ⟨e,he⟩ := Http.Network.send_eq_of_lost still
      exact ⟨unsent e.message,by simp only [hq,he]⟩

/-- A request that arrives uses up one reply, and its outcome depends on that reply. -/
theorem create_sent {a : Http.Request} (hn : n.fault = none) (ha : c.post? t m = some a) :
    ∃ url : Url, c.create t m n = (match n.next with
      | .closed => .error (.creation (c.createUrl t) (unsent (Http.SendError.closed url).message))
      | .answered r => handleOf (c.createUrl t) r,n.after [a]) := by
  unfold post? at ha
  unfold create
  cases hu : c.bundlesUrl t with
  | error f => simp [hu] at ha
  | ok url =>
    cases hq : c.createRequest url m with
    | error e => simp [hu,hq] at ha
    | ok request =>
      simp only [hu,hq] at ha
      have sent := Http.Network.send_eq_of_arriving hn ha
      refine ⟨request.url,?_⟩
      simp only [hq,sent]
      cases n.next <;> rfl

theorem create_of_receives {handles : List Handle} (h : c.Receives t m n handles) :
    (c.create t m n).1 = firstOf (c.createUrl t) handles := by
  obtain ⟨hn,arrives,r,answered,names⟩ := h
  obtain ⟨a,ha⟩ := Option.isSome_iff_exists.1 arrives
  obtain ⟨url,sent⟩ := create_sent hn ha
  rw [sent,answered]
  exact handleOf_names names

/-- Where no answer names bundles, the request failed. -/
theorem create_of_not_receives (h : ∀ handles, ¬ c.Receives t m n handles) :
    ∃ message, (c.create t m n).1 = .error (.creation (c.createUrl t) message) := by
  rcases n.lost_or_arrives (c.post? t m) with lost | ⟨hn,a,ha⟩
  · obtain ⟨message,unsent⟩ := create_unsent lost
    exact ⟨message,by rw [unsent]⟩
  · obtain ⟨url,sent⟩ := create_sent hn ha
    rw [sent]
    cases reply : n.next with
    | closed => exact ⟨_,rfl⟩
    | answered r =>
      have arrives : (c.post? t m).isSome = true := Option.isSome_iff_exists.2 ⟨a,ha⟩
      exact handleOf_useless fun handles names => h handles ⟨hn,arrives,r,reply,names⟩

/-- The three outcomes. -/
theorem create_cases (c : Client) (t : Target) (m : Metadata) (n : Http.Network) :
    (∃ h others, c.Receives t m n (h :: others) ∧ (c.create t m n).1 = .ok h) ∨
    (c.Receives t m n [] ∧ (c.create t m n).1 = .error (.noHandle (c.createUrl t))) ∨
    ((∀ handles, ¬ c.Receives t m n handles) ∧
      ∃ message, (c.create t m n).1 = .error (.creation (c.createUrl t) message)) := by
  by_cases received : ∃ handles, c.Receives t m n handles
  case neg =>
    have nothing := not_exists.1 received
    exact .inr (.inr ⟨nothing,create_of_not_receives nothing⟩)
  case pos =>
    obtain ⟨handles,received⟩ := received
    cases handles with
    | nil => exact .inr (.inl ⟨received,create_of_receives received⟩)
    | cons h others => exact .inl ⟨h,others,received,create_of_receives received⟩

/-- One request arrives at most, and it is the one that creates a bundle. -/
theorem exists_create_after (c : Client) (t : Target) (m : Metadata) (n : Http.Network) :
    ∃ sent, (c.create t m n).2 = n.after sent ∧ sent.length ≤ 1 ∧ ∀ r ∈ sent, r.method = .post := by
  rcases n.lost_or_arrives (c.post? t m) with lost | ⟨hn,a,ha⟩
  · obtain ⟨message,unsent⟩ := create_unsent lost
    refine ⟨[],by rw [unsent,Http.Network.after_nil],Nat.zero_le 1,?_⟩
    exact List.forall_mem_nil _
  · obtain ⟨url,sent⟩ := create_sent hn ha
    refine ⟨[a],by rw [sent],Nat.le_refl 1,?_⟩
    simpa using (post?_eq_some ha).1

theorem create_eq_ok_iff_first {h : Handle} :
    (c.create t m n).1 = .ok h ↔ ∃ others, c.Receives t m n (h :: others) := by
  rcases create_cases c t m n with ⟨g,gs,received,result⟩ | ⟨received,result⟩ |
    ⟨nothing,message,result⟩
  · rw [result]
    constructor
    · rintro ⟨⟩
      exact ⟨gs,received⟩
    · rintro ⟨others,received'⟩
      cases received.unique received'
      rfl
  · rw [result]
    constructor
    · nofun
    · rintro ⟨others,received'⟩
      cases received.unique received'
  · rw [result]
    constructor
    · nofun
    · rintro ⟨others,received⟩
      exact absurd received (nothing _)

theorem create_eq_noHandle_iff :
    (∃ url, (c.create t m n).1 = .error (.noHandle url)) ↔ c.Receives t m n [] := by
  constructor
  · rintro ⟨url,failed⟩
    rcases create_cases c t m n with ⟨h,others,-,result⟩ | ⟨received,-⟩ | ⟨-,message,result⟩
    · cases failed.symm.trans result
    · exact received
    · cases failed.symm.trans result
  · exact fun received => ⟨_,create_of_receives received⟩

theorem create_eq_creation_iff :
    (∃ url message, (c.create t m n).1 = .error (.creation url message)) ↔
      ∀ handles, ¬ c.Receives t m n handles := by
  constructor
  · rintro ⟨url,message,failed⟩
    rcases create_cases c t m n with ⟨h,others,-,result⟩ | ⟨-,result⟩ | ⟨nothing,-⟩
    · cases failed.symm.trans result
    · cases failed.symm.trans result
    · exact nothing
  · exact fun nothing => ⟨_,create_of_not_receives nothing⟩

theorem create_error_names_url {e : UploadError} (h : (c.create t m n).1 = .error e) :
    e = .noHandle (c.createUrl t) ∨ ∃ message, e = .creation (c.createUrl t) message := by
  rcases create_cases c t m n with ⟨g,others,-,result⟩ | ⟨-,result⟩ | ⟨-,message,result⟩
  · cases h.symm.trans result
  · cases h.symm.trans result
    exact .inl rfl
  · cases h.symm.trans result
    exact .inr ⟨message,rfl⟩

/-- What arrives where the address can be reached and connections are made. -/
theorem create_arrives {url : Url} (address : c.bundlesUrl t = .ok url)
    (there : Http.Reachable url) (hn : n.fault = none) : (c.create t m n).2 = n.after
      [⟨.post,url.onWire,Http.Request.sender url c.token,"application/json",
        Utf8.ofString (Creation.requestText m)⟩] := by
  obtain ⟨_,sent⟩ := create_sent hn (post?_eq_some_iff.2 ⟨url,address,there,rfl⟩)
  rw [sent]

/-- An upload whose bundle is not created ends there, with one alert and no contents handed over. -/
theorem run_of_create_error (c : Client) (tree : FileTree) (t : Target) (p : PendingUpload)
    (n : Http.Network) {e : UploadError} (h : (c.create t p.metadata n).1 = .error e) :
    let f := Flow.run c.service tree t (some p) n
    f.final = .failed .creation ∧ f.events.filterMap Event.alert? = [e.message] ∧
      f.calls.countP Call.isUpload = 0 ∧ f.state = (c.create t p.metadata n).2 := by
  have answer : c.create t p.metadata n = (.error e,(c.create t p.metadata n).2) :=
    Prod.ext h rfl
  rw [Flow.run,service_create,answer]
  exact ⟨rfl,rfl,rfl,rfl⟩

end

/-- Creating a bundle gives the first of the bundles that the answer names, and says that there is none
where it names none; in every other case the request failed, one element of the data without an id
being enough. All errors name the address that creates bundles. Without an address nothing is sent,
and where the address can be reached the request arrives. An upload ends with such an error, in one
alert. -/
theorem create_classified (c : Client) (t : Target) (m : Metadata) (n : Http.Network) :
    (∀ h, (c.create t m n).1 = .ok h ↔ ∃ others, c.Receives t m n (h :: others)) ∧
    ((∃ url, (c.create t m n).1 = .error (.noHandle url)) ↔ c.Receives t m n []) ∧
    ((∃ url message, (c.create t m n).1 = .error (.creation url message)) ↔
      ∀ handles, ¬ c.Receives t m n handles) ∧
    (∀ (p : Placed Written) handles, Creation.handles (Utf8.encode p.render) = .ok handles ↔
      Creation.Names p.value.datum handles) ∧
    (∀ r (p : Placed Written) ds, ∀ d ∈ ds, n.next = .answered r →
      r.received? = some (Utf8.encode p.render) → p.value.datum.Holds "data" (.list ds) →
      (∀ text, ¬ d.Holds "id" (.text text)) →
        ∃ url message, (c.create t m n).1 = .error (.creation url message)) ∧
    (∀ e, (c.create t m n).1 = .error e → e = .noHandle (c.createUrl t) ∨
      ∃ message, e = .creation (c.createUrl t) message) ∧
    (∀ f, c.bundlesUrl t = .error f → (c.create t m n).2 = n) ∧
    ((c.post? t m).isSome = true ↔ ∃ url, c.bundlesUrl t = .ok url ∧ Http.Reachable url) ∧
    (∀ url, c.bundlesUrl t = .ok url → Http.Reachable url → n.fault = none →
      (c.create t m n).2 = n.after
        [⟨.post,url.onWire,Http.Request.sender url c.token,"application/json",
          Utf8.ofString (Creation.requestText m)⟩]) ∧
    ∀ tree file source e, (c.create t m n).1 = .error e →
      let f := Flow.run c.service tree t (some ⟨file,m,source⟩) n
      f.final = .failed .creation ∧ f.events.filterMap Event.alert? = [e.message] ∧
        f.calls.countP Call.isUpload = 0 ∧
        ∃ sent, f.state = n.after sent ∧ sent.length ≤ 1 ∧ ∀ r ∈ sent, r.method = .post := by
  refine ⟨fun h => create_eq_ok_iff_first,create_eq_noHandle_iff,create_eq_creation_iff,
    fun p handles => Creation.handles_render_eq_ok_iff,?_,fun e => create_error_names_url,?_,
    isSome_post?_iff,fun url => create_arrives,?_⟩
  · intro r p ds d hd reply body data no_id
    exact create_eq_creation_iff.2 (not_receives_of_no_id reply body data hd no_id)
  · intro f unread
    rw [create,unread]
  · intro tree file source e failed
    obtain ⟨final,alerts,calls,state⟩ := run_of_create_error c tree t ⟨file,m,source⟩ n failed
    exact ⟨final,alerts,calls,state ▸ exists_create_after c t m n⟩

end Client
end WorksheetUpload
