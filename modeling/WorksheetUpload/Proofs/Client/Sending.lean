import WorksheetUpload.Service

/-! What a client sends. Each call sends one request at most, which arrives if its address can be
sent; the answer depends on the next reply only, and not on what arrived before. -/
namespace WorksheetUpload

namespace Url

@[simp] theorem onWire_withoutCredentials (u : Url) : u.withoutCredentials.onWire = u.onWire := by
  simp [onWire,withoutCredentials,Function.comp_def]

end Url

namespace Http

/-- A request that was built is to the address it was built for, which may have lost its
credentials. -/
theorem Request.to?_eq_ok {method : Method} {url : Url} {token : Option String}
    {contentType : String} {body : Bytes} {r : Request}
    (h : Request.to? method url token contentType body = .ok r) :
    r.method = method ∧ r.body = body ∧ (r.url = url ∨ r.url = url.withoutCredentials) := by
  unfold Request.to? at h
  split at h
  · contradiction
  · split at h
    · cases h; exact ⟨rfl,rfl,.inr rfl⟩
    · cases h; exact ⟨rfl,rfl,.inl rfl⟩

/-- A request as it arrives, if its address can be sent. -/
def Request.arriving? (r : Request) : Option Request :=
  if Url.isHttp r.url.scheme && isSendable r.url then some {r with url := r.url.onWire} else none

theorem Request.arriving?_eq_some {r a : Request} (h : r.arriving? = some a) :
    a = {r with url := r.url.onWire} := by
  unfold Request.arriving? at h
  split at h
  · exact (Option.some.inj h).symm
  · contradiction

/-- A reply that grants a bundle: a success whose whole body names it before any other. -/
def Reply.Grants (reply : Reply) (h : Handle) : Prop :=
  ∃ (response : Response) (body : Bytes) (others : List Handle),
    reply = .answered response ∧ response.status.isSuccess = true ∧
      response.received? = some body ∧ Creation.handles body = .ok (h :: others)

theorem Reply.Grants.unique {reply : Reply} {h h' : Handle} (hr : reply.Grants h)
    (hr' : reply.Grants h') : h = h' := by
  obtain ⟨response,body,others,rfl,-,hb,hh⟩ := hr
  obtain ⟨response',body',others',he,-,hb',hh'⟩ := hr'
  cases he
  rw [hb] at hb'
  cases hb'
  rw [hh] at hh'
  cases hh'
  rfl

/-- What a reply is to who sent the request. -/
def Reply.result (url : Url) : Reply → Except SendError Response
  | closed => .error (.closed url)
  | answered response => .ok response

namespace Network

/-- The reply to the next request that arrives. -/
def next (n : Network) : Reply := n.replies.headD n.otherwise

/-- The network when some more requests have arrived. -/
def after (n : Network) (sent : List Request) : Network :=
  {n with replies := n.replies.drop sent.length,arrived := n.arrived ++ sent}

@[simp] theorem after_nil (n : Network) : n.after [] = n := by simp [after]

theorem answer_eq (n : Network) (r : Request) :
    n.answer r = (n.next.result r.url,n.after [{r with url := r.url.onWire}]) := by
  obtain ⟨fault,replies,otherwise,arrived⟩ := n
  cases replies with
  | nil => cases otherwise <;> rfl
  | cons reply replies => cases reply <;> rfl

variable {n : Network}

/-- A request whose address cannot be sent brings no response, and leaves all as it was. -/
theorem send_eq_of_not_arriving {r : Request} (h : r.arriving? = none) :
    ∃ e, n.send r = (.error e,n) := by
  unfold send
  split
  case isTrue => exact ⟨_,rfl⟩
  case isFalse hh =>
    split
    case isTrue => exact ⟨_,rfl⟩
    case isFalse hs => simp_all [Request.arriving?]

/-- Nor does any request where no connection is made. -/
theorem send_eq_of_fault {fault : IoFault} (h : n.fault = some fault) (r : Request) :
    ∃ e, n.send r = (.error e,n) := by
  unfold send
  split
  case isTrue => exact ⟨_,rfl⟩
  case isFalse =>
    split
    case isTrue => exact ⟨_,rfl⟩
    case isFalse => exact ⟨.noConnection r.url fault,by rw [h]⟩

/-- A request that is lost on its way brings no response, whatever keeps it. -/
theorem send_eq_of_lost {r : Request} (lost : n.fault = none → r.arriving? = none) :
    ∃ e, n.send r = (.error e,n) := by
  cases hn : n.fault with
  | some fault => exact send_eq_of_fault hn r
  | none => exact send_eq_of_not_arriving (lost hn)

/-- What is to be sent is lost or arrives. -/
theorem lost_or_arrives (n : Network) (arriving : Option Request) :
    (n.fault = none → arriving = none) ∨ n.fault = none ∧ ∃ a, arriving = some a := by
  cases arriving with
  | none => exact .inl fun _ => rfl
  | some a =>
    cases hn : n.fault with
    | some fault => exact .inl nofun
    | none => exact .inr ⟨rfl,a,rfl⟩

variable (hn : n.fault = none)
include hn

/-- Where connections are made, a request whose address can be sent gets the next reply. -/
theorem send_eq_of_arriving {r a : Request} (h : r.arriving? = some a) :
    n.send r = (n.next.result r.url,n.after [a]) := by
  obtain rfl := Request.arriving?_eq_some h
  unfold Request.arriving? at h
  split at h
  case isTrue hs =>
    obtain ⟨hh,hs⟩ := Bool.and_eq_true_iff.1 hs
    simp [send,hh,hs,hn,answer_eq]
  case isFalse => contradiction

theorem send_after (r : Request) : (n.send r).2 = n.after r.arriving?.toList := by
  cases h : r.arriving? with
  | none =>
    obtain ⟨e,he⟩ := send_eq_of_not_arriving (n := n) h
    simp [he]
  | some a => simp [send_eq_of_arriving hn h]

end Network
end Http

namespace Client

/-- The request that creates a bundle, as it arrives; none where it cannot be built or sent. -/
def post? (c : Client) (t : Target) (m : Metadata) : Option Http.Request :=
  match c.bundlesUrl t with
  | .error _ => none
  | .ok url =>
    match c.createRequest url m with
    | .error _ => none
    | .ok request => request.arriving?

/-- The request that puts contents into a bundle, as it arrives. -/
def put? (c : Client) (h : Handle) (p : ContentParams) (contents : Bytes) : Option Http.Request :=
  match c.contentsRequest h p contents with
  | .error _ => none
  | .ok request => request.arriving?

section

variable [Http.Decoding]

@[simp] theorem service_create (c : Client) : c.service.create = c.create := by
  simp only [service]

@[simp] theorem service_upload (c : Client) : c.service.upload = c.upload := by
  simp only [service]

section

variable (c : Client) (before : List Http.Request)

end

variable {c : Client} {n : Http.Network} (hn : n.fault = none)
include hn

end

end Client
end WorksheetUpload
