import WorksheetUpload.Proofs.Client.Sender
import WorksheetUpload.Proofs.Client.Sending

/-! When the two requests of an upload arrive, where connections are made. An address that was read is
enough, if it is one of the web and can stand on a request line. -/
namespace WorksheetUpload

namespace Http

/-- Whether requests to an address arrive: it is on the web, not too long when credentials have left
it, and its host is written without marks that are not allowed on a request line. -/
structure Reachable (u : Url) : Prop where
  web : u.scheme = "http".toList ∨ u.scheme = "https".toList
  short : (Request.destination u).render.length ≤ 65534
  plain : ∀ a, u.authority = some a → ∀ c ∈ a.host.render, c ∉ "\"`\x7b\x7d".toList

namespace Request

theorem onWire_destination (u : Url) : (destination u).onWire = u.onWire := by
  unfold destination
  split <;> simp

theorem scheme_destination (u : Url) : (destination u).scheme = u.scheme := by
  unfold destination
  split <;> rfl

/-- Credentials do not change what host is named. -/
theorem forall_host_destination {u : Url} {P : Url.Host → Prop} :
    (∀ a, (destination u).authority = some a → P a.host) ↔
      ∀ a, u.authority = some a → P a.host := by
  unfold destination
  split
  · simp [Url.withoutCredentials]
  · rfl

end Request

theorem isSendable_iff {u : Url} : isSendable u = true ↔ u.render.length ≤ 65534 ∧
    ∀ a, u.authority = some a → ∀ c ∈ a.host.render, c ∉ "\"`\x7b\x7d".toList := by
  rw [isSendable,Bool.and_eq_true,decide_eq_true_eq]
  refine and_congr Iff.rfl ?_
  cases u.authority <;> simp

theorem isHttp_iff {scheme : List Char} :
    Url.isHttp scheme = true ↔ scheme = "http".toList ∨ scheme = "https".toList := by
  simp [Url.isHttp]

theorem reachable_iff {u : Url} : Reachable u ↔
    (Url.isHttp (Request.destination u).scheme && isSendable (Request.destination u)) = true := by
  rw [Bool.and_eq_true,isSendable_iff,Request.forall_host_destination (P := fun host =>
    ∀ c ∈ host.render, c ∉ "\"`\x7b\x7d".toList),Request.scheme_destination,isHttp_iff]
  constructor
  · rintro ⟨web,short,plain⟩
    exact ⟨web,short,plain⟩
  · rintro ⟨web,short,plain⟩
    exact ⟨web,short,plain⟩

/-- A request to a host arrives where the host can be reached. -/
theorem Request.arriving?_eq_some_iff {url : Url} {method : Method} {sender : Option Authorization}
    {contentType : String} {body : Bytes} {a : Request} :
    (⟨method,destination url,sender,contentType,body⟩ : Request).arriving? = some a ↔
      Reachable url ∧ a = ⟨method,url.onWire,sender,contentType,body⟩ := by
  rw [reachable_iff,arriving?,Option.ite_none_right_eq_some,Option.some_inj,onWire_destination]
  exact and_congr_right fun _ => eq_comm

end Http

namespace Client

open Http

variable {c : Client}

/-- An address of the web that was read names a host. -/
theorem hasHost_of_reachable {text : String} {u : Url} {pairs : List (List Char × List Char)}
    (read : Url.parse text = .ok u) (there : Reachable (u.addPairs pairs)) : u.hasHost = true :=
  Url.hasHost_of_parse read (isHttp_iff.2 there.web)

theorem post?_eq_some_iff {t : Target} {m : Metadata} {a : Request} :
    c.post? t m = some a ↔ ∃ url, c.bundlesUrl t = .ok url ∧ Reachable url ∧
      a = ⟨.post,url.onWire,Request.sender url c.token,"application/json",
        Utf8.ofString (Creation.requestText m)⟩ := by
  constructor
  · intro arrives
    unfold post? at arrives
    cases address : c.bundlesUrl t with
    | error f => simp [address] at arrives
    | ok url =>
      cases host : url.hasHost with
      | false => simp [address,createRequest,Request.to?,host] at arrives
      | true =>
        simp only [address,createRequest_of_hasHost host] at arrives
        exact ⟨url,rfl,Request.arriving?_eq_some_iff.1 arrives⟩
  · rintro ⟨url,address,there,rfl⟩
    obtain ⟨u,read,rfl⟩ := exists_parse_of_bundlesUrl address
    have host : (u.addPairs (targetPairs t)).hasHost = true := by
      simpa using hasHost_of_reachable read there
    unfold post?
    simp only [address,createRequest_of_hasHost host]
    exact Request.arriving?_eq_some_iff.2 ⟨there,rfl⟩

theorem post?_eq_some {t : Target} {m : Metadata} {a : Request} (h : c.post? t m = some a) :
    a.method = .post ∧ a.body = Utf8.ofString (Creation.requestText m) ∧
      ∃ url, c.bundlesUrl t = .ok url ∧ a.url = url.onWire := by
  obtain ⟨url,address,-,same⟩ := post?_eq_some_iff.1 h
  exact ⟨by rw [same],by rw [same],url,address,by rw [same]⟩

theorem isSome_post?_iff {t : Target} {m : Metadata} :
    (c.post? t m).isSome = true ↔ ∃ url, c.bundlesUrl t = .ok url ∧ Reachable url := by
  rw [Option.isSome_iff_exists]
  constructor
  · rintro ⟨a,arrives⟩
    obtain ⟨url,address,there,-⟩ := post?_eq_some_iff.1 arrives
    exact ⟨url,address,there⟩
  · rintro ⟨url,address,there⟩
    exact ⟨_,post?_eq_some_iff.2 ⟨url,address,there,rfl⟩⟩

end Client
end WorksheetUpload
