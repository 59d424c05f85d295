import WorksheetUpload.Client
import WorksheetUpload.Proofs.Url.Beneath

/-! The addresses of the two requests of an upload. That of the contents stands beneath that of the
bundles, so a handle decides what it names on the server, and not which server that is. -/
namespace WorksheetUpload

namespace Url

/-- The server that an address names, with the port that is in effect. -/
structure Origin where
  scheme : List Char
  host : Host
  port : Option Nat
  deriving DecidableEq, Repr

def origin? (u : Url) : Option Origin :=
  u.authority.map fun a => ⟨u.scheme,a.host,a.port.or (defaultPort u.scheme)⟩

/-- The user name and password in an address. -/
def userInfo? (u : Url) : Option (List Char × Option (List Char)) :=
  u.authority.map fun a => (a.username,a.password)

@[simp] theorem origin?_addPairs (u : Url) (pairs : List (List Char × List Char)) :
    (u.addPairs pairs).origin? = u.origin? := rfl

@[simp] theorem hasHost_addPairs (u : Url) (pairs : List (List Char × List Char)) :
    (u.addPairs pairs).hasHost = u.hasHost := rfl

@[simp] theorem origin?_withoutCredentials (u : Url) : u.withoutCredentials.origin? = u.origin? := by
  simp [origin?,withoutCredentials,Function.comp_def]

theorem userInfo?_withoutCredentials (u : Url) :
    u.withoutCredentials.userInfo? = u.userInfo?.map fun _ => ([],none) := by
  simp [userInfo?,withoutCredentials,Function.comp_def]

@[simp] theorem path_addPairs (u : Url) (pairs : List (List Char × List Char)) :
    (u.addPairs pairs).path = u.path := rfl

theorem origin?_of_hasHost {u : Url} (h : u.hasHost = true) : ∃ o, u.origin? = some o := by
  cases ha : u.authority with
  | none => simp [hasHost,ha] at h
  | some a => exact ⟨_,by rw [origin?,ha]; rfl⟩

end Url

namespace Http

theorem credentials?_eq_of_userInfo? {u v : Url} (h : u.userInfo? = v.userInfo?) :
    credentials? u = credentials? v := by
  unfold credentials?
  cases hu : u.authority <;> cases hv : v.authority <;> simp_all [Url.userInfo?]

/-- The address that a request goes to: credentials that can be read leave it. -/
def Request.destination (url : Url) : Url :=
  if (credentials? url).isSome then url.withoutCredentials else url

/-- Whom a request names as asking: the holder of the token, or else of the credentials. -/
def Request.sender (url : Url) (token : Option String) : Option Authorization :=
  (token.map Authorization.bearer).or ((credentials? url).map fun p => .basic p.1 p.2)

/-- A request to an address with a host can be built. -/
theorem Request.to?_of_hasHost {url : Url} (h : url.hasHost = true) (method : Method)
    (token : Option String) (contentType : String) (body : Bytes) :
    Request.to? method url token contentType body =
      .ok ⟨method,destination url,sender url token,contentType,body⟩ := by
  unfold Request.to?
  cases hc : credentials? url <;> simp [h,hc,destination,sender]

@[simp] theorem Request.origin?_destination (url : Url) :
    (destination url).origin? = url.origin? := by
  unfold destination
  split <;> simp

@[simp] theorem Request.path_destination (url : Url) : (destination url).path = url.path := by
  unfold destination
  split <;> rfl

@[simp] theorem Request.query_destination (url : Url) : (destination url).query = url.query := by
  unfold destination
  split <;> rfl

theorem Request.userInfo?_destination {u v : Url} (h : u.userInfo? = v.userInfo?) :
    (destination u).userInfo? = (destination v).userInfo? := by
  unfold destination
  rw [credentials?_eq_of_userInfo? h]
  split
  · rw [Url.userInfo?_withoutCredentials,Url.userInfo?_withoutCredentials,h]
  · exact h

theorem Request.sender_eq {u v : Url} (h : u.userInfo? = v.userInfo?) (token : Option String) :
    sender u token = sender v token := by
  rw [sender,sender,credentials?_eq_of_userInfo? h]

end Http

namespace Client

open Http

variable (c : Client)

theorem isWord_bundles : Url.IsWord "bundles".toList := ⟨by decide,by simp⟩

theorem bundlesText_eq : c.bundlesText = c.base ++ '/' :: "bundles".toList := rfl

/-- What stands behind the address of the bundles in that of the contents of one. -/
def beneath (h : Handle) : List Char := h.text.toList ++ "/contents/blob/".toList

theorem contentsUrl_eq (h : Handle) : c.contentsUrl h =
    String.ofList (c.base ++ '/' :: ("bundles".toList ++ '/' :: beneath h)) := by
  simp [contentsUrl,bundlesText_eq,beneath]

theorem getLast?_beneath (h : Handle) : ∀ d ∈ (beneath h).getLast?, 0x20 < d.toNat := by
  intro d hd
  have hd : d ∈ "/contents/blob/".toList.getLast? := by
    simpa [beneath,List.getLast?_append] using hd
  cases hd
  decide

variable {c} {u : Url}

/-- Where bundles can be created, an authority and a text are read, and the address of the contents
of a bundle goes on with that text. -/
theorem parse_contentsUrl (hu : Url.parse (String.ofList c.bundlesText) = .ok u)
    (http : Url.isHttp u.scheme = true) : ∃ p : Url.Authority × List Char,
      u = Url.finished u.scheme [] p ∧
      (∀ h : Handle, Url.parse (c.contentsUrl h) =
        .ok (Url.finished u.scheme ('/' :: Url.withoutBreaks (beneath h)) p)) ∧
      (∀ d ∈ p.2, d ∈ c.base ∨ d = '/' ∨ d ∈ "bundles".toList) ∧
      (p.2 = [] ∨ '/' :: "bundles".toList <:+ p.2) := by
  obtain ⟨p,hp,further,inside,ends⟩ := Url.parse_http_beneath isWord_bundles hu http
  refine ⟨p,hp,fun h => ?_,inside,ends⟩
  rw [contentsUrl_eq]
  exact further (beneath h) (getLast?_beneath h)

theorem parse_contentsUrl_error {fault : Url.Fault}
    (hf : Url.parse (String.ofList c.bundlesText) = .error fault) (h : Handle) :
    Url.parse (c.contentsUrl h) = .error fault := by
  rw [contentsUrl_eq]
  exact Url.parse_error_beneath isWord_bundles hf (getLast?_beneath h)

theorem bundlesUrl_of_parse (hu : Url.parse (String.ofList c.bundlesText) = .ok u) (t : Target) :
    c.bundlesUrl t = .ok (u.addPairs (targetPairs t)) := by
  rw [bundlesUrl,hu]
  rfl

theorem createRequest_of_hasHost (host : u.hasHost = true) (m : Metadata) :
    c.createRequest u m = .ok ⟨.post,Request.destination u,Request.sender u c.token,
      "application/json",Utf8.ofString (Creation.requestText m)⟩ :=
  Request.to?_of_hasHost host ..

theorem contentsRequest_of_parse {h : Handle} (hu : Url.parse (c.contentsUrl h) = .ok u)
    (host : u.hasHost = true) (p : ContentParams) (contents : Bytes) :
    c.contentsRequest h p contents = .ok
      ⟨.put,(Request.destination u).addPairs (contentPairs p),Request.sender u c.token,
        "application/octet-stream",contents⟩ := by
  rw [contentsRequest,hu]
  simp only [Request.to?_of_hasHost host]
  rfl

/-- The handle that the service chooses moves no contents to another server, and sends them as
nobody else: both requests can be built, and they agree on server and sender. Where no bundle can be
created for want of an address, there is none for contents either. -/
theorem handle_keeps_origin (c : Client) (h : Handle) :
    (∀ u, Url.parse (String.ofList c.bundlesText) = .ok u → Url.isHttp u.scheme = true →
      ∀ (t : Target) (m : Metadata) (p : ContentParams) (contents : Bytes),
        ∃ (o : Url.Origin) (url v : Url) (post put : Request),
          c.bundlesUrl t = .ok url ∧ c.createRequest url m = .ok post ∧
          Url.parse (c.contentsUrl h) = .ok v ∧ c.contentsRequest h p contents = .ok put ∧
          u.origin? = some o ∧ url.origin? = some o ∧ v.origin? = some o ∧
          v.userInfo? = url.userInfo? ∧
          post.url.origin? = some o ∧ put.url.origin? = some o ∧
          put.url.userInfo? = post.url.userInfo? ∧ put.authorization = post.authorization) ∧
    ∀ fault, Url.parse (String.ofList c.bundlesText) = .error fault →
      Url.parse (c.contentsUrl h) = .error fault := by
  refine ⟨?_,fun fault hf => parse_contentsUrl_error hf h⟩
  intro u hu http t m params contents
  obtain ⟨p,hp,further,-,-⟩ := parse_contentsUrl hu http
  have host : u.hasHost = true := Url.hasHost_of_parse hu http
  obtain ⟨o,ho⟩ := Url.origin?_of_hasHost host
  -- The two addresses differ in path, query and fragment only.
  obtain ⟨v,hv⟩ : ∃ v, v = Url.finished u.scheme ('/' :: Url.withoutBreaks (beneath h)) p := ⟨_,rfl⟩
  have scheme : v.scheme = u.scheme := by rw [hv]; rfl
  have authority : v.authority = u.authority := by rw [hv,hp]; rfl
  have origin : v.origin? = u.origin? := by rw [Url.origin?,Url.origin?,scheme,authority]
  have user : v.userInfo? = u.userInfo? := by rw [Url.userInfo?,Url.userInfo?,authority]
  have host' : v.hasHost = true := by rw [Url.hasHost,authority]; exact host
  have parsed : Url.parse (c.contentsUrl h) = .ok v := by rw [hv]; exact further h
  refine ⟨o,_,v,_,_,bundlesUrl_of_parse hu t,createRequest_of_hasHost (by simpa using host) m,parsed,
    contentsRequest_of_parse parsed host' params contents,ho,ho,origin.trans ho,user,?_,?_,?_,?_⟩
  · simpa using ho
  · simpa using origin.trans ho
  · exact Request.userInfo?_destination user
  · exact Request.sender_eq user c.token

/-- A handle that spells another server, as whom to ask there and where to go from there. -/
theorem handle_of_another_server :
    let h : Handle := ⟨"\\\\you:no@other:99/../..\t?#"⟩
    let served : Client := ⟨"http://me:pw@[::1]:81/rest".toList,none,by simp⟩
    let unserved : Client := ⟨"host/rest".toList,none,by simp⟩
    (∃ (url : Url) (post put : Request), served.bundlesUrl ⟨"",none⟩ = .ok url ∧
      served.createRequest url ⟨"","",[]⟩ = .ok post ∧
      served.contentsRequest h ⟨true,"f",false⟩ [] = .ok put ∧
      post.url.origin? = some ⟨"http".toList,.ipv6 [0,0,0,0,0,0,0,1],some 81⟩ ∧
      put.url.origin? = some ⟨"http".toList,.ipv6 [0,0,0,0,0,0,0,1],some 81⟩ ∧
      put.authorization = post.authorization) ∧
    Url.parse (unserved.contentsUrl h) = .error .noScheme := by
  intro h served unserved
  have parsed : Url.parse (String.ofList served.bundlesText) = .ok
      ⟨"http".toList,some ⟨"me".toList,some "pw".toList,.ipv6 [0,0,0,0,0,0,0,1],some 81⟩,
        .segments ["rest".toList,"bundles".toList],none,none⟩ := by
    decide +kernel
  have refused : Url.parse (String.ofList unserved.bundlesText) = .error .noScheme := by
    decide +kernel
  constructor
  · obtain ⟨o,url,v,post,put,address,created,-,sent,here,-,-,-,origin,origin',-,sender⟩ :=
      (handle_keeps_origin served h).1 _ parsed (by decide) ⟨"",none⟩ ⟨"","",[]⟩ ⟨true,"f",false⟩ []
    obtain rfl := Option.some.inj here
    exact ⟨url,post,put,address,created,sent,origin,origin',sender⟩
  · exact (handle_keeps_origin unserved h).2 _ refused

end Client
end WorksheetUpload
