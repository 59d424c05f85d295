import WorksheetUpload.Proofs.Url.Split
import WorksheetUpload.Url.Parse

/-! What is read of an authority: a host always, in a scheme that the network knows, and no more than
the text holds. -/
namespace WorksheetUpload.Url

theorem map_eq_ok {ε α β : Type} {f : α → β} {answer : Except ε α} {b : β} :
    answer.map f = .ok b ↔ ∃ a, answer = .ok a ∧ f a = b := by
  cases answer <;> simp [Except.map]

deriving instance DecidableEq for Except

namespace Host

/-- The network knows hosts that have a name or a number. -/
theorem not_isEmpty_of_parse {text : List Char} {host : Host} (h : parse true text = .ok host) :
    host.isEmpty = false := by
  rw [parse,if_pos rfl,parseSpecial] at h
  split at h
  case h_1 answer hb =>
    unfold bracketed? at hb
    split at hb
    case h_1 inner =>
      obtain rfl := Option.some.inj hb
      split at h
      · obtain ⟨pieces,-,rfl⟩ := map_eq_ok.1 h
        rfl
      · contradiction
    case h_2 => contradiction
  case h_2 =>
    split at h
    case h_1 => contradiction
    case h_2 => contradiction
    case h_3 domain not_nil _ =>
      split at h
      · obtain ⟨address,-,rfl⟩ := map_eq_ok.1 h
        rfl
      · cases h
        simpa [isEmpty] using not_nil

end Host

/-- The host text comes first, and what is behind it ends the text. -/
theorem hostText_suffix (inBrackets : Bool) (text : List Char) :
    (hostText inBrackets text).2 <:+ text := by
  induction text generalizing inBrackets with
  | nil => exact List.suffix_refl _
  | cons c rest ih =>
    rw [hostText]
    split
    case isTrue => exact List.suffix_refl _
    case isFalse => exact (ih _).trans (List.suffix_cons c rest)

/-- Only a colon ends a host text. -/
theorem hostText_of_no_colon {text : List Char} (h : ':' ∉ text) (inBrackets : Bool) :
    hostText inBrackets text = (text,[]) := by
  induction text generalizing inBrackets with
  | nil => rfl
  | cons c rest ih =>
    rw [List.mem_cons,not_or] at h
    simp [hostText,Ne.symm h.1,ih h.2]

theorem suffix_of_splitLastAt {text before after : List Char}
    (h : splitLastAt text = some (before,after)) : after <:+ text := by
  unfold splitLastAt at h
  split at h
  case h_1 rest behind hc =>
    cases h
    have ht : (cut (· == '@') text.reverse).1 ++ (cut (· == '@') text.reverse).2 = text.reverse :=
      cut_fst_append_snd text.reverse
    rw [hc] at ht
    refine ⟨behind.reverse ++ ['@'],?_⟩
    rw [← List.reverse_reverse text,← ht]
    simp
  case h_2 => contradiction

theorem splitLastAt_of_no_at {text : List Char} (h : '@' ∉ text) : splitLastAt text = none := by
  rw [splitLastAt,cut_of_forall_not]
  intro c hc
  exact beq_false_of_ne (by rintro rfl; exact h (List.mem_reverse.1 hc))

theorem portOf_suffix {scheme text rest : List Char} {port : Option Nat}
    (h : portOf scheme text = .ok (port,rest)) : rest <:+ text := by
  simp only [portOf] at h
  split at h
  · contradiction
  split at h
  · contradiction
  cases h
  exact List.dropWhile_suffix _

/-- Host and port, once it is known who asks. -/
def serverOf (scheme username : List Char) (password : Option (List Char)) (text : List Char) :
    Except Fault (Authority × List Char) := do
  let (hostPart,rest) := hostText false text
  if isSpecial scheme && hostPart.isEmpty then .error .emptyHost
  else
    let host ← Host.parse (isSpecial scheme) hostPart
    match rest with
    | ':' :: portPart =>
      if host.isEmpty then .error .emptyHost
      else
        let (port,rest) ← portOf scheme portPart
        .ok (⟨username,password,host,port⟩,rest)
    | _ =>
      if host.isEmpty && (!username.isEmpty || password.isSome) then .error .emptyHost
      else .ok (⟨username,password,host,none⟩,rest)

theorem authorityOf_eq (scheme : List Char) (more : Bool) (text : List Char) :
    authorityOf scheme more text =
      match splitLastAt text with
      | none => serverOf scheme [] none text
      | some (before,after) =>
        if before.isEmpty && after.isEmpty && more then .error .emptyHost
        else serverOf scheme (credentialsOf before).1 (credentialsOf before).2 after := by
  unfold authorityOf
  cases splitLastAt text with
  | none => rfl
  | some p =>
    dsimp only
    split <;> rfl

theorem serverOf_eq_ok {scheme username text rest : List Char} {password : Option (List Char)}
    {a : Authority} (h : serverOf scheme username password text = .ok (a,rest)) :
    rest <:+ (hostText false text).2 ∧
      ∃ hostPart, Host.parse (isSpecial scheme) hostPart = .ok a.host := by
  simp only [serverOf,bind,Except.bind] at h
  split at h
  case isTrue => contradiction
  case isFalse =>
    cases hh : Host.parse (isSpecial scheme) (hostText false text).1 with
    | error f => simp [hh] at h
    | ok host =>
      simp only [hh] at h
      split at h
      case h_1 portPart hp =>
        split at h
        · contradiction
        · cases ho : portOf scheme portPart with
          | error f => simp [ho] at h
          | ok p =>
            simp only [ho] at h
            cases h
            rw [hp]
            exact ⟨(portOf_suffix ho).trans (List.suffix_cons ':' portPart),_,hh⟩
      case h_2 =>
        split at h
        · contradiction
        · cases h
          exact ⟨List.suffix_refl _,_,hh⟩

theorem authorityOf_eq_ok {scheme text rest : List Char} {more : Bool} {a : Authority}
    (h : authorityOf scheme more text = .ok (a,rest)) :
    rest <:+ text ∧ ∃ hostPart, Host.parse (isSpecial scheme) hostPart = .ok a.host := by
  have server {username hostAndPort : List Char} {password : Option (List Char)}
      (hs : serverOf scheme username password hostAndPort = .ok (a,rest)) :
      rest <:+ hostAndPort ∧ ∃ hostPart, Host.parse (isSpecial scheme) hostPart = .ok a.host :=
    (serverOf_eq_ok hs).imp_left (·.trans (hostText_suffix false hostAndPort))
  rw [authorityOf_eq] at h
  split at h
  case h_1 => exact server h
  case h_2 before after hs =>
    split at h
    case isTrue => contradiction
    case isFalse => exact (server h).imp_left (·.trans (suffix_of_splitLastAt hs))

/-- A text without marks is a host and nothing else. -/
theorem authorityOf_of_no_mark {scheme text : List Char} (at_sign : '@' ∉ text) (colon : ':' ∉ text) :
    ∃ answer : Except Fault (Authority × List Char),
      (∀ more, authorityOf scheme more text = answer) ∧ ∀ p, answer = .ok p → p.2 = [] := by
  refine ⟨serverOf scheme [] none text,?_,?_⟩
  · intro more
    rw [authorityOf_eq,splitLastAt_of_no_at at_sign]
  · rintro ⟨a,rest⟩ h
    have hs := (serverOf_eq_ok h).1
    rw [hostText_of_no_colon colon] at hs
    exact List.suffix_nil.1 hs

theorem withAuthority_eq {scheme text before behind : List Char}
    (h : cut (endsAuthority (isSpecial scheme)) text = (before,behind)) :
    withAuthority scheme text = (authorityOf scheme (!behind.isEmpty) before).map
      fun p =>
        complete scheme (some p.1) (pathAfterAuthority (isSpecial scheme)) (p.2 ++ behind) := by
  simp only [withAuthority,h]
  cases authorityOf scheme (!behind.isEmpty) before <;> rfl

theorem withAuthority_eq_ok {scheme text : List Char} {u : Url}
    (h : withAuthority scheme text = .ok u) : u.scheme = scheme ∧
      ∃ a hostPart, u.authority = some a ∧ Host.parse (isSpecial scheme) hostPart = .ok a.host := by
  obtain ⟨before,behind,hc⟩ :
      ∃ before behind, cut (endsAuthority (isSpecial scheme)) text = (before,behind) := ⟨_,_,rfl⟩
  rw [withAuthority_eq hc] at h
  obtain ⟨p,hp,rfl⟩ := map_eq_ok.1 h
  obtain ⟨-,hostPart,hh⟩ := authorityOf_eq_ok hp
  exact ⟨rfl,p.1,hostPart,rfl,hh⟩

theorem fileUrl_scheme {scheme text : List Char} {u : Url} (h : fileUrl scheme text = .ok u) :
    u.scheme = scheme := by
  simp only [fileUrl,bind,Except.bind] at h
  split at h
  case h_1 => cases h; rfl
  case h_2 =>
    split at h
    case isTrue => cases h; rfl
    case isFalse =>
      split at h
      · contradiction
      · cases h; rfl

/-- The address that stands behind a scheme. -/
def behindScheme (scheme rest : List Char) : Except Fault Url :=
  if isFile scheme then fileUrl scheme rest
  else
    let rest := withoutBreaks rest
    if isSpecial scheme then
      withAuthority scheme (rest.dropWhile fun c => c == '/' || c == '\\')
    else match rest with
      | '/' :: '/' :: rest => withAuthority scheme rest
      | _ => .ok (withoutAuthority scheme rest)

theorem parse_eq (text : String) : parse text =
    match schemeOf? (stripped text.toList) with
    | none => .error .noScheme
    | some (scheme,rest) => behindScheme scheme rest := rfl

theorem behindScheme_scheme {scheme rest : List Char} {u : Url}
    (h : behindScheme scheme rest = .ok u) : u.scheme = scheme := by
  unfold behindScheme at h
  split at h
  case isTrue => exact fileUrl_scheme h
  case isFalse =>
    dsimp only at h
    split at h
    case isTrue => exact (withAuthority_eq_ok h).1
    case isFalse =>
      split at h
      case h_1 => exact (withAuthority_eq_ok h).1
      case h_2 =>
        cases h
        unfold withoutAuthority
        split <;> rfl

theorem isFile_eq_false_of_isHttp {scheme : List Char} (h : isHttp scheme = true) :
    isFile scheme = false ∧ isSpecial scheme = true := by
  simp only [isHttp,Bool.or_eq_true,beq_iff_eq] at h
  rcases h with rfl | rfl <;> decide

/-- In a scheme that requests can be sent to, slashes of any number lead to the authority. -/
theorem behindScheme_of_isHttp {scheme : List Char} (h : isHttp scheme = true) (rest : List Char) :
    behindScheme scheme rest =
      withAuthority scheme ((withoutBreaks rest).dropWhile fun c => c == '/' || c == '\\') := by
  obtain ⟨hf,hs⟩ := isFile_eq_false_of_isHttp h
  simp [behindScheme,hf,hs]

/-- An address that requests can be sent to names a host. -/
theorem hasHost_of_parse {text : String} {u : Url} (h : parse text = .ok u)
    (http : isHttp u.scheme = true) : u.hasHost = true := by
  rw [parse_eq] at h
  split at h
  case h_1 => contradiction
  case h_2 scheme rest _ =>
    obtain rfl := behindScheme_scheme h
    rw [behindScheme_of_isHttp http] at h
    obtain ⟨-,a,hostPart,ha,hh⟩ := withAuthority_eq_ok h
    rw [(isFile_eq_false_of_isHttp http).2] at hh
    simp [hasHost,ha,Host.not_isEmpty_of_parse hh]

end WorksheetUpload.Url
