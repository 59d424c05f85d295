import WorksheetUpload.Proofs.Client.Address
import WorksheetUpload.Proofs.Url.Percent

/-! Whom the two requests of an upload name as asking. Both addresses are read up to the same user
information, whatever their scheme, so the requests name the same sender: the holder of the token, or
else of the credentials in the address. -/
namespace WorksheetUpload

namespace Url

/-- Whether an address says nothing of who asks. -/
def IsAnonymous (u : Url) : Prop := ∀ info ∈ u.userInfo?, info = ([],none)

@[simp] theorem userInfo?_addPairs (u : Url) (pairs : List (List Char × List Char)) :
    (u.addPairs pairs).userInfo? = u.userInfo? := rfl

theorem serverOf_userInfo {scheme username text rest : List Char} {password : Option (List Char)}
    {a : Authority} (h : serverOf scheme username password text = .ok (a,rest)) :
    a.username = username ∧ a.password = password := by
  simp only [serverOf,bind,Except.bind] at h
  split at h
  case isTrue => contradiction
  case isFalse =>
    split at h
    case h_1 => contradiction
    case h_2 host _ =>
      split at h
      case h_1 portPart _ =>
        split at h
        · contradiction
        · cases ho : portOf scheme portPart with
          | error f => simp [ho] at h
          | ok p =>
            simp only [ho] at h
            cases h
            exact ⟨rfl,rfl⟩
      case h_2 =>
        split at h
        · contradiction
        · cases h
          exact ⟨rfl,rfl⟩

theorem withAuthority_userInfo_of_no_at {scheme text : List Char} {u : Url} (no_at : '@' ∉ text)
    (h : withAuthority scheme text = .ok u) : u.userInfo? = some ([],none) := by
  obtain ⟨before,behind,hc⟩ :
      ∃ before behind, cut (endsAuthority (isSpecial scheme)) text = (before,behind) := ⟨_,_,rfl⟩
  have part : before ++ behind = text := by
    have whole : (cut (endsAuthority (isSpecial scheme)) text).1 ++
        (cut (endsAuthority (isSpecial scheme)) text).2 = text := cut_fst_append_snd text
    rwa [hc] at whole
  have none_before : '@' ∉ before := fun h => no_at (part ▸ List.mem_append_left _ h)
  rw [withAuthority_eq hc,authorityOf_eq,splitLastAt_of_no_at none_before] at h
  obtain ⟨p,hp,rfl⟩ := map_eq_ok.1 h
  obtain ⟨user,password⟩ := serverOf_userInfo hp
  exact congrArg some (Prod.ext user password)

/-- The address of a file names nobody. -/
theorem fileUrl_userInfo {scheme text : List Char} {u : Url} (h : fileUrl scheme text = .ok u) :
    u.userInfo? = some ([],none) := by
  simp only [fileUrl,bind,Except.bind] at h
  split at h
  case h_1 => cases h; rfl
  case h_2 =>
    split at h
    case isTrue => cases h; rfl
    case isFalse =>
      split at h
      · contradiction
      · cases h
        simp only [userInfo?,complete,Option.map_some]
        split <;> rfl

theorem withoutAuthority_userInfo (scheme text : List Char) :
    (withoutAuthority scheme text).userInfo? = none := by
  unfold withoutAuthority
  split <;> rfl

section

variable {name : List Char} (hn : IsWord name)
include hn

theorem withAuthority_userInfo_beneath {scheme d more : List Char} {u v : Url} (hd : Leads d)
    (hu : withAuthority scheme (d ++ (name ++ [])) = .ok u)
    (hv : withAuthority scheme (d ++ (name ++ '/' :: more)) = .ok v) : v.userInfo? = u.userInfo? := by
  obtain ⟨answer,here,beneath,-⟩ := withAuthority_beneath hn scheme hd
  rw [List.append_nil,here] at hu
  rw [beneath] at hv
  obtain ⟨p,rfl,rfl⟩ := map_eq_ok.1 hu
  cases hv
  rfl

/-- What stands behind the word does not reach the user information. -/
theorem behindScheme_userInfo_beneath {scheme rest more : List Char} {u v : Url}
    (hu : behindScheme scheme (rest ++ '/' :: (name ++ [])) = .ok u)
    (hv : behindScheme scheme (rest ++ '/' :: (name ++ '/' :: more)) = .ok v) :
    v.userInfo? = u.userInfo? := by
  have here := withoutBreaks_beneath hn rest []
  have beneath := withoutBreaks_beneath hn rest ('/' :: more)
  rw [withoutBreaks_cons_slash] at beneath
  unfold behindScheme at hu hv
  split at hu
  case isTrue file =>
    rw [if_pos file] at hv
    rw [fileUrl_userInfo hu,fileUrl_userInfo hv]
  case isFalse file =>
    rw [if_neg file] at hv
    simp only [here] at hu
    simp only [beneath] at hv
    split at hu
    case isTrue special =>
      rw [if_pos special] at hv
      obtain ⟨d,leads,-,drop⟩ := dropSlashes_beneath hn (withoutBreaks rest)
      rw [drop] at hu hv
      exact withAuthority_userInfo_beneath hn leads hu hv
    case isFalse special =>
      rw [if_neg special] at hv
      rcases slashes_beneath hn (withoutBreaks rest) with none_here | ⟨d,leads,slashes⟩
      case inl =>
        split at hu
        case h_1 two => exact absurd two (none_here _ _)
        case h_2 =>
          split at hv
          case h_1 two => exact absurd two (none_here _ _)
          case h_2 =>
            cases hu
            cases hv
            rw [withoutAuthority_userInfo,withoutAuthority_userInfo]
      case inr =>
        rw [slashes] at hu hv
        exact withAuthority_userInfo_beneath hn leads hu hv

theorem parse_userInfo_beneath {base more : List Char} {u v : Url}
    (hl : ∀ c ∈ more.getLast?, 0x20 < c.toNat)
    (hu : parse (String.ofList (base ++ '/' :: name)) = .ok u)
    (hv : parse (String.ofList (base ++ '/' :: (name ++ '/' :: more))) = .ok v) :
    v.userInfo? = u.userInfo? := by
  rw [parse_append fun c => getLast?_beneath hn] at hu
  rw [parse_append (getLast?_beneath_more hl name)] at hv
  split at hu
  case h_1 => contradiction
  case h_2 scheme rest hs =>
    rw [hs] at hv
    exact behindScheme_userInfo_beneath hn (by rwa [List.append_nil]) hv

end

theorem behindScheme_isAnonymous_of_no_at {scheme rest : List Char} {u : Url} (no_at : '@' ∉ rest)
    (h : behindScheme scheme rest = .ok u) : u.IsAnonymous := by
  have nobody (h : u.userInfo? = some ([],none)) : u.IsAnonymous := by simp [IsAnonymous,h]
  have sub {text : List Char} (ht : text <:+ withoutBreaks rest) : '@' ∉ text := fun hc =>
    no_at (List.mem_filter.1 (ht.subset hc)).1
  unfold behindScheme at h
  split at h
  case isTrue => exact nobody (fileUrl_userInfo h)
  case isFalse =>
    dsimp only at h
    split at h
    case isTrue =>
      exact nobody (withAuthority_userInfo_of_no_at (sub (List.dropWhile_suffix _)) h)
    case isFalse =>
      split at h
      case h_1 text slashes =>
        have behind : text <:+ withoutBreaks rest := slashes ▸ List.suffix_append ['/','/'] text
        exact nobody (withAuthority_userInfo_of_no_at (sub behind) h)
      case h_2 =>
        cases h
        simp [IsAnonymous,withoutAuthority_userInfo]

theorem mem_of_mem_stripped {text : List Char} {c : Char} (h : c ∈ stripped text) : c ∈ text := by
  rw [stripped,List.mem_reverse] at h
  have h := (List.dropWhile_suffix _).subset h
  exact (List.dropWhile_suffix _).subset (List.mem_reverse.1 h)

/-- An address without an at-sign names nobody. -/
theorem isAnonymous_of_no_at {text : String} {u : Url} (no_at : '@' ∉ text.toList)
    (h : parse text = .ok u) : u.IsAnonymous := by
  rw [parse_eq] at h
  split at h
  case h_1 => contradiction
  case h_2 scheme rest hs =>
    refine behindScheme_isAnonymous_of_no_at (fun hc => no_at ?_) h
    exact mem_of_mem_stripped ((schemeOf?_suffix hs).subset hc)

end Url

namespace Http

theorem credentials?_of_isAnonymous {u : Url} (h : u.IsAnonymous) : credentials? u = none := by
  cases ha : u.authority with
  | none => simp [credentials?,ha]
  | some a =>
    obtain ⟨user,password⟩ := Prod.mk.inj (h (a.username,a.password) (by simp [Url.userInfo?,ha]))
    have empty : Utf8.decode? [] = some [] := by
      rw [Utf8.decode?,Utf8.scan]
      rfl
    simp [credentials?,ha,user,password,empty]

/-- A request that was built says who asks as its address and the token do. -/
theorem Request.authorization_of_to? {method : Method} {url : Url} {token : Option String}
    {contentType : String} {body : Bytes} {r : Request}
    (h : to? method url token contentType body = .ok r) : r.authorization = sender url token := by
  cases host : url.hasHost with
  | false => simp [to?,host] at h
  | true =>
    rw [to?_of_hasHost host] at h
    cases h
    rfl

/-- Without a token, nobody asks or whom the credentials name. -/
theorem Request.sender_none (url : Url) :
    sender url none = none ∨ ∃ user password, sender url none = some (.basic user password) := by
  unfold sender
  cases credentials? url with
  | none => exact .inl rfl
  | some p => exact .inr ⟨p.1,p.2,rfl⟩

theorem Request.sender_none_of_isAnonymous {url : Url} (h : url.IsAnonymous) :
    sender url none = none := by
  rw [sender,credentials?_of_isAnonymous h]
  rfl

end Http

namespace Client

open Http

theorem exists_parse_of_bundlesUrl {c : Client} {t : Target} {url : Url}
    (h : c.bundlesUrl t = .ok url) : ∃ u, Url.parse (String.ofList c.bundlesText) = .ok u ∧
      u.addPairs (targetPairs t) = url :=
  Url.map_eq_ok.1 h

/-- Both requests of an upload, where they can be built, name the same sender. -/
theorem authorization_of_requests {c : Client} {t : Target} {m : Metadata} {h : Handle}
    {p : ContentParams} {contents : Bytes} {url : Url} {post put : Request}
    (address : c.bundlesUrl t = .ok url) (created : c.createRequest url m = .ok post)
    (sent : c.contentsRequest h p contents = .ok put) :
    post.authorization = Request.sender url c.token ∧
      put.authorization = Request.sender url c.token := by
  refine ⟨Request.authorization_of_to? created,?_⟩
  obtain ⟨u,hu,rfl⟩ := exists_parse_of_bundlesUrl address
  cases hv : Url.parse (c.contentsUrl h) with
  | error f => simp [contentsRequest,hv] at sent
  | ok v =>
    simp only [contentsRequest,hv] at sent
    obtain ⟨r,hr,rfl⟩ := Url.map_eq_ok.1 sent
    have same : v.userInfo? = u.userInfo? := by
      rw [contentsUrl_eq] at hv
      exact Url.parse_userInfo_beneath isWord_bundles (getLast?_beneath h) hu hv
    calc r.authorization
        = Request.sender v c.token := Request.authorization_of_to? hr
      _ = Request.sender u c.token := Request.sender_eq same c.token
      _ = Request.sender (u.addPairs (targetPairs t)) c.token :=
        (Request.sender_eq (Url.userInfo?_addPairs u _) c.token).symm

/-- The address of a server without an at-sign names nobody. -/
theorem isAnonymous_of_bundlesUrl {c : Client} {t : Target} {url : Url} (no_at : '@' ∉ c.base)
    (h : c.bundlesUrl t = .ok url) : url.IsAnonymous := by
  obtain ⟨u,hu,rfl⟩ := exists_parse_of_bundlesUrl h
  have none_here : '@' ∉ (String.ofList c.bundlesText).toList := by
    rw [String.toList_ofList,bundlesText_eq]
    simpa using no_at
  simpa [Url.IsAnonymous] using Url.isAnonymous_of_no_at none_here hu

end Client
end WorksheetUpload
