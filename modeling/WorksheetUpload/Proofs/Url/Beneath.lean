import WorksheetUpload.Proofs.Text.Case
import WorksheetUpload.Proofs.Url.Authority

/-! Addresses beneath an address. Where a text ends in a slash and a word, whatever follows behind
another slash is read into path, query and fragment: it reaches neither scheme nor authority. -/
namespace WorksheetUpload.Url

/-- A name of letters, as a segment may be. -/
structure IsWord (name : List Char) : Prop where
  not_nil : name ≠ []
  letters : ∀ c ∈ name, c.isAlpha = true

namespace IsWord

variable {name : List Char} (hn : IsWord name)
include hn

theorem not_mem {d : Char} (hd : d.isAlpha = false) : d ∉ name := fun h => by
  simp [hn.letters d h] at hd

/-- A test that finds letters only where there are none. -/
theorem not_of_mem {p : Char → Bool} (hp : ∀ c, p c = true → c.isAlpha = false) {c : Char}
    (h : c ∈ name) : p c = false := by
  cases hc : p c with
  | false => rfl
  | true => exact absurd h (hn.not_mem (hp c hc))

end IsWord

theorem toNat_of_isAlpha {c : Char} (h : c.isAlpha = true) : 0x20 < c.toNat := by
  rcases Text.isAlpha_iff.1 h with ⟨first,-⟩ | ⟨first,-⟩
  · exact Nat.lt_of_lt_of_le (by decide) (Text.le_iff_toNat_le.1 first)
  · exact Nat.lt_of_lt_of_le (by decide) (Text.le_iff_toNat_le.1 first)

theorem isAlpha_eq_false_of_isBreak {c : Char} (h : isBreak c = true) : c.isAlpha = false := by
  simp only [isBreak,Bool.or_eq_true,beq_iff_eq] at h
  rcases h with (rfl | rfl) | rfl <;> decide

theorem isAlpha_eq_false_of_isSlash {c : Char} (h : isSlash c = true) : c.isAlpha = false := by
  simp only [isSlash,Bool.or_eq_true,beq_iff_eq] at h
  rcases h with rfl | rfl <;> decide

theorem isAlpha_eq_false_of_endsAuthority {special : Bool} {c : Char}
    (h : endsAuthority special c = true) : c.isAlpha = false := by
  simp only [endsAuthority,Bool.or_eq_true,beq_iff_eq,Bool.and_eq_true] at h
  rcases h with ((rfl | rfl) | rfl) | ⟨-,rfl⟩ <;> decide

/-- What begins with a character that is kept is kept whole. -/
theorem dropWhile_append_cons {p : Char → Bool} {c : Char} (h : p c = false) (s t : List Char) :
    (s ++ c :: t).dropWhile p = s.dropWhile p ++ c :: t := by
  induction s with
  | nil => simp [h]
  | cons d s ih => cases hd : p d <;> simp [hd,ih]

theorem withoutBreaks_append (s t : List Char) :
    withoutBreaks (s ++ t) = withoutBreaks s ++ withoutBreaks t := List.filter_append ..

/-- Where a text ends in a character that is kept, nothing is dropped behind. -/
theorem stripped_append_cons {first : Char} {t : List Char} (hf : 0x20 < first.toNat)
    (hl : ∀ c ∈ (first :: t).getLast?, 0x20 < c.toNat) (s : List Char) :
    stripped (s ++ first :: t) = s.dropWhile (fun c => decide (c.toNat ≤ 0x20)) ++ first :: t := by
  obtain ⟨front,last,ht⟩ : ∃ front last, first :: t = front ++ [last] :=
    ⟨_,_,(List.dropLast_concat_getLast (List.cons_ne_nil first t)).symm⟩
  have kept : decide (last.toNat ≤ 0x20) = false := by
    have := hl last (by simp [ht])
    simpa using this
  rw [stripped,dropWhile_append_cons (by simpa using hf),ht,← List.append_assoc]
  simp [kept]

theorem schemeOf?_append (s t : List Char) :
    schemeOf? (s ++ '/' :: t) = (schemeOf? s).map fun p => (p.1,p.2 ++ '/' :: t) := by
  by_cases h : ':' ∈ s
  case pos =>
    obtain ⟨before,behind,rfl,hb⟩ := List.eq_append_cons_of_mem h
    have ends (u : List Char) : cut (· == ':') (before ++ ':' :: u) = (before,':' :: u) := by
      rw [cut_append_cons (by simp),cut_of_forall_not]
      · rfl
      · exact fun c hc => beq_false_of_ne (by rintro rfl; exact hb hc)
    simp only [schemeOf?,List.append_assoc,List.cons_append,ends]
    split <;> rfl
  case neg =>
    -- Without a colon there is no scheme, and the slash keeps a later colon from ending one.
    have ends : ∀ c ∈ s, (c == ':') = false := fun c hc =>
      beq_false_of_ne (by rintro rfl; exact h hc)
    have none_here : schemeOf? s = none := by
      simp only [schemeOf?,cut_of_forall_not ends]
      split <;> rfl
    have slash : ∃ u, (cut (· == ':') (s ++ '/' :: t)).1 = s ++ '/' :: u := by
      rw [cut_append_of_forall_not ends]
      exact ⟨(cut (· == ':') t).1,by simp [cut]⟩
    obtain ⟨u,hu⟩ := slash
    rw [none_here]
    simp [schemeOf?,hu,withoutBreaks,isBreak]

/-- The scheme of a text that goes on behind a slash is that of what stands before. -/
theorem parse_append {base t : List Char} (hl : ∀ c ∈ ('/' :: t).getLast?, 0x20 < c.toNat) :
    parse (String.ofList (base ++ '/' :: t)) =
      match schemeOf? (base.dropWhile fun c => decide (c.toNat ≤ 0x20)) with
      | none => .error .noScheme
      | some (scheme,rest) => behindScheme scheme (rest ++ '/' :: t) := by
  rw [parse_eq,String.toList_ofList,stripped_append_cons (by decide) hl,schemeOf?_append]
  cases schemeOf? (base.dropWhile fun c => decide (c.toNat ≤ 0x20)) <;> rfl

/-- What may stand before the word: nothing, or a text that ends in a slash. -/
def Leads (d : List Char) : Prop := d = [] ∨ ∃ r, d = r ++ ['/']

section

variable {name : List Char} (hn : IsWord name)
include hn

/-- A cut where a slash ends the part is not moved by what follows behind another slash. -/
theorem cut_beneath {isEnd : Char → Bool} (slash : isEnd '/' = true)
    (letters : ∀ c, isEnd c = true → c.isAlpha = false) {d : List Char} (hd : Leads d) :
    ∃ before behind, before ++ behind = d ++ name ∧
      (before = name ∧ behind = [] ∨ '/' :: name <:+ behind) ∧
      cut isEnd (d ++ name) = (before,behind) ∧
      ∀ more, cut isEnd (d ++ (name ++ '/' :: more)) = (before,behind ++ '/' :: more) := by
  have alone : cut isEnd name = (name,[]) := cut_of_forall_not fun c hc => hn.not_of_mem letters hc
  obtain rfl | ⟨r,rfl⟩ := hd
  case inl =>
    refine ⟨name,[],by simp,.inl ⟨rfl,rfl⟩,by simpa using alone,fun more => ?_⟩
    rw [List.nil_append,cut_append_cons slash,alone]
  case inr =>
    refine ⟨(cut isEnd r).1,(cut isEnd r).2 ++ '/' :: name,?_,.inr (List.suffix_append _ _),?_,?_⟩
    · rw [← List.append_assoc,cut_fst_append_snd,List.append_assoc,List.singleton_append]
    · rw [List.append_assoc,List.singleton_append,cut_append_cons slash]
    · intro more
      simp only [List.append_assoc,List.cons_append,List.nil_append,cut_append_cons slash]

/-- An address completed with a text that may go on. -/
def finished (scheme more : List Char) (p : Authority × List Char) : Url :=
  complete scheme (some p.1) (pathAfterAuthority (isSpecial scheme)) (p.2 ++ more)

theorem withAuthority_beneath (scheme : List Char) {d : List Char} (hd : Leads d) :
    ∃ answer : Except Fault (Authority × List Char),
      withAuthority scheme (d ++ name) = answer.map (finished scheme []) ∧
      (∀ more, withAuthority scheme (d ++ (name ++ '/' :: more)) =
        answer.map (finished scheme ('/' :: more))) ∧
      ∀ p, answer = .ok p → p.2 <:+ d ++ name ∧ (p.2 = [] ∨ '/' :: name <:+ p.2) := by
  obtain ⟨before,behind,whole,ends,hcut,hmore⟩ :=
    cut_beneath hn (show endsAuthority (isSpecial scheme) '/' = true from rfl)
      (fun c => isAlpha_eq_false_of_endsAuthority) hd
  rcases ends with ⟨rfl,rfl⟩ | ends
  case inl =>
    obtain ⟨answer,same,nothing⟩ := @authorityOf_of_no_mark scheme _ (hn.not_mem (by decide))
      (hn.not_mem (by decide))
    refine ⟨answer,?_,?_,fun p hp => ?_⟩
    · rw [withAuthority_eq hcut,same]; rfl
    · intro more
      rw [withAuthority_eq (hmore more),same]; rfl
    · rw [nothing p hp]
      exact ⟨List.nil_suffix,.inl rfl⟩
  case inr =>
    have more_is_there (t : List Char) : (!(behind ++ t).isEmpty) = true := by
      obtain ⟨front,rfl⟩ := ends
      simp
    refine ⟨(authorityOf scheme true before).map fun p => (p.1,p.2 ++ behind),?_,?_,?_⟩
    · rw [← List.append_nil behind] at hcut
      rw [withAuthority_eq hcut,more_is_there]
      cases authorityOf scheme true before <;> simp [Except.map,finished]
    · intro more
      rw [withAuthority_eq (hmore more),more_is_there]
      cases authorityOf scheme true before <;> simp [Except.map,finished]
    · intro p hp
      obtain ⟨q,hq,rfl⟩ := map_eq_ok.1 hp
      obtain ⟨⟨front,rfl⟩,-⟩ := authorityOf_eq_ok hq
      exact ⟨⟨front,by rw [← whole,List.append_assoc]⟩,.inr (ends.trans (List.suffix_append _ _))⟩

/-- The slashes before an authority end before the word. -/
theorem dropSlashes_beneath (w : List Char) : ∃ d, Leads d ∧ d <:+ w ++ ['/'] ∧
    ∀ t, (w ++ '/' :: (name ++ t)).dropWhile (fun c => c == '/' || c == '\\') = d ++ (name ++ t) := by
  have hs : (w ++ ['/']).dropWhile (fun c => c == '/' || c == '\\') <:+ w ++ ['/'] :=
    List.dropWhile_suffix _
  refine ⟨_,?_,hs,fun t => ?_⟩
  · rcases List.suffix_concat_iff.1 hs with h | ⟨r,hr,-⟩
    · exact .inl h
    · exact .inr ⟨r,hr⟩
  · obtain ⟨c,rest,rfl⟩ := List.exists_cons_of_ne_nil hn.not_nil
    have hc : isSlash c = false := hn.not_of_mem (fun _ => isAlpha_eq_false_of_isSlash) (by simp)
    have kept := dropWhile_append_cons hc (w ++ ['/']) (rest ++ t)
    rw [List.append_assoc] at kept
    exact kept

theorem withoutBreaks_beneath (rest t : List Char) : withoutBreaks (rest ++ '/' :: (name ++ t)) =
    withoutBreaks rest ++ '/' :: (name ++ withoutBreaks t) := by
  have kept : withoutBreaks name = name := List.filter_eq_self.2 fun c hc => by
    simpa using hn.not_of_mem (fun _ => isAlpha_eq_false_of_isBreak) hc
  have slash : withoutBreaks ['/'] = ['/'] := rfl
  rw [withoutBreaks_append,← List.singleton_append,withoutBreaks_append,withoutBreaks_append,kept,
    slash]
  rfl

theorem getLast?_beneath {c : Char} (h : c ∈ ('/' :: name).getLast?) : 0x20 < c.toNat := by
  rcases List.mem_cons.1 (List.mem_of_mem_getLast? h) with rfl | h
  · decide
  · exact toNat_of_isAlpha (hn.letters c h)

end

theorem withoutBreaks_cons_slash (t : List Char) :
    withoutBreaks ('/' :: t) = '/' :: withoutBreaks t := rfl

theorem getLast?_beneath_more {more : List Char} (hl : ∀ c ∈ more.getLast?, 0x20 < c.toNat)
    (name : List Char) : ∀ c ∈ ('/' :: (name ++ '/' :: more)).getLast?, 0x20 < c.toNat := by
  intro c hc
  cases more with
  | nil =>
    rw [← List.cons_append,List.getLast?_concat] at hc
    cases hc
    decide
  | cons d more => exact hl c (by simpa [List.getLast?_append,List.getLast?_cons] using hc)

theorem schemeOf?_suffix {text scheme rest : List Char} (h : schemeOf? text = some (scheme,rest)) :
    rest <:+ text := by
  simp only [schemeOf?] at h
  split at h
  case isTrue =>
    split at h
    case h_1 hc =>
      cases h
      exact (List.suffix_cons ':' _).trans (hc ▸ List.dropWhile_suffix _)
    case h_2 => contradiction
  case isFalse => contradiction

section

variable {base name : List Char} (hn : IsWord name)
include hn

/-- An address that ends in a word has an authority and a text for the rest. What stands beneath it
has the same authority, and a text that goes on with what was added. -/
theorem parse_http_beneath {u : Url} (hu : parse (String.ofList (base ++ '/' :: name)) = .ok u)
    (http : isHttp u.scheme = true) : ∃ p : Authority × List Char,
      u = finished u.scheme [] p ∧
      (∀ more, (∀ c ∈ more.getLast?, 0x20 < c.toNat) →
        parse (String.ofList (base ++ '/' :: (name ++ '/' :: more))) =
          .ok (finished u.scheme ('/' :: withoutBreaks more) p)) ∧
      (∀ c ∈ p.2, c ∈ base ∨ c = '/' ∨ c ∈ name) ∧ (p.2 = [] ∨ '/' :: name <:+ p.2) := by
  rw [parse_append fun c => getLast?_beneath hn] at hu
  split at hu
  case h_1 => contradiction
  case h_2 scheme rest hs =>
    obtain rfl := behindScheme_scheme hu
    obtain ⟨d,leads,hd,drop⟩ := dropSlashes_beneath hn (withoutBreaks rest)
    obtain ⟨answer,here,beneath,texts⟩ := withAuthority_beneath hn u.scheme leads
    have read (t : List Char) : behindScheme u.scheme (rest ++ '/' :: (name ++ t)) =
        withAuthority u.scheme (d ++ (name ++ withoutBreaks t)) := by
      rw [behindScheme_of_isHttp http,withoutBreaks_beneath hn,drop]
    have hu' := read []
    rw [List.append_nil,hu,show withoutBreaks [] = [] from rfl,List.append_nil,here] at hu'
    obtain ⟨p,hp,hpu⟩ := map_eq_ok.1 hu'.symm
    obtain ⟨inside,ends⟩ := texts p hp
    refine ⟨p,hpu.symm,?_,?_,ends⟩
    · intro more hl
      rw [parse_append (getLast?_beneath_more hl name),hs]
      dsimp only
      rw [read,withoutBreaks_cons_slash,beneath,hp]
      rfl
    · intro c hc
      rcases List.mem_append.1 (inside.subset hc) with hc | hc
      · rcases List.mem_append.1 (hd.subset hc) with hc | hc
        · have hb := (schemeOf?_suffix hs).subset (List.mem_filter.1 hc).1
          exact .inl ((List.dropWhile_suffix _).subset hb)
        · exact .inr (.inl (List.mem_singleton.1 hc))
      · exact .inr (.inr hc)

theorem withAuthority_error_beneath {scheme d : List Char} {fault : Fault} (hd : Leads d)
    (h : withAuthority scheme (d ++ (name ++ [])) = .error fault) (more : List Char) :
    withAuthority scheme (d ++ (name ++ '/' :: more)) = .error fault := by
  obtain ⟨answer,here,beneath,-⟩ := withAuthority_beneath hn scheme hd
  rw [List.append_nil,here] at h
  rw [beneath]
  cases answer with
  | error fault' => exact h
  | ok p => cases h

/-- What begins with two slashes in a file's address begins so whatever follows the word. -/
theorem behindSlashes?_beneath (rest : List Char) :
    (∀ t, behindSlashes? (rest ++ '/' :: (name ++ t)) = none) ∨
      ∃ d, Leads d ∧ ∀ t, behindSlashes? (rest ++ '/' :: (name ++ t)) = some (d ++ (name ++ t)) := by
  have kept (s t : List Char) : (s ++ '/' :: t).dropWhile isBreak = s.dropWhile isBreak ++ '/' :: t :=
    dropWhile_append_cons (by decide) s t
  have slash : isSlash '/' = true := by decide
  cases hr : rest.dropWhile isBreak with
  | nil =>
    obtain ⟨c,letters,rfl⟩ := List.exists_cons_of_ne_nil hn.not_nil
    have hb : isBreak c = false := hn.not_of_mem (fun _ => isAlpha_eq_false_of_isBreak) (by simp)
    have hc : isSlash c = false := hn.not_of_mem (fun _ => isAlpha_eq_false_of_isSlash) (by simp)
    exact .inl fun t => by simp [behindSlashes?,kept,hr,hb,hc]
  | cons a rest' =>
    cases hr' : rest'.dropWhile isBreak with
    | nil =>
      cases ha : isSlash a with
      | false => exact .inl fun t => by simp [behindSlashes?,kept,hr,hr',ha]
      | true => exact .inr ⟨[],.inl rfl,fun t => by simp [behindSlashes?,kept,hr,hr',ha,slash]⟩
    | cons b rest'' =>
      cases hab : isSlash a && isSlash b with
      | false => exact .inl fun t => by simp [behindSlashes?,kept,hr,hr',hab]
      | true =>
        exact .inr ⟨rest'' ++ ['/'],.inr ⟨_,rfl⟩,fun t => by simp [behindSlashes?,kept,hr,hr',hab]⟩

theorem fileUrl_error_beneath {scheme rest : List Char} {fault : Fault}
    (h : fileUrl scheme (rest ++ '/' :: (name ++ [])) = .error fault) (more : List Char) :
    fileUrl scheme (rest ++ '/' :: (name ++ '/' :: more)) = .error fault := by
  rcases behindSlashes?_beneath hn rest with none_here | ⟨d,leads,slashes⟩
  case inl =>
    rw [fileUrl,none_here] at h
    cases h
  case inr =>
    obtain ⟨before,behind,-,-,hcut,hmore⟩ :=
      cut_beneath hn (show endsAuthority true '/' = true from rfl)
        (fun c => isAlpha_eq_false_of_endsAuthority) leads
    simp only [fileUrl,slashes] at h
    simp only [List.append_nil,hcut] at h
    simp only [fileUrl,slashes,hmore]
    split at h
    case isTrue => cases h
    case isFalse hd =>
      rw [if_neg hd]
      cases hh : Host.parseSpecial (withoutBreaks before) with
      | error fault' => rw [hh] at h; exact h
      | ok host => rw [hh] at h; cases h

/-- The same in other schemes, where no backslash stands for a slash. -/
theorem slashes_beneath (w : List Char) :
    (∀ t rest, w ++ '/' :: (name ++ t) ≠ '/' :: '/' :: rest) ∨
      ∃ d, Leads d ∧ ∀ t, w ++ '/' :: (name ++ t) = '/' :: '/' :: (d ++ (name ++ t)) := by
  match w with
  | [] =>
    obtain ⟨c,letters,rfl⟩ := List.exists_cons_of_ne_nil hn.not_nil
    have hc : c ≠ '/' := by rintro rfl; exact hn.not_mem (by decide) List.mem_cons_self
    exact .inl fun t rest h => by simp [hc] at h
  | [a] =>
    by_cases ha : a = '/'
    · exact .inr ⟨[],.inl rfl,fun t => by simp [ha]⟩
    · exact .inl fun t rest h => by simp [ha] at h
  | a :: b :: w =>
    by_cases hab : a = '/' ∧ b = '/'
    · exact .inr ⟨w ++ ['/'],.inr ⟨w,rfl⟩,fun t => by simp [hab]⟩
    · exact .inl fun t rest h => hab (by simp_all)

theorem behindScheme_error_beneath {scheme rest : List Char} {fault : Fault}
    (h : behindScheme scheme (rest ++ '/' :: (name ++ [])) = .error fault) (more : List Char) :
    behindScheme scheme (rest ++ '/' :: (name ++ '/' :: more)) = .error fault := by
  have here := withoutBreaks_beneath hn rest []
  have beneath := withoutBreaks_beneath hn rest ('/' :: more)
  rw [withoutBreaks_cons_slash] at beneath
  unfold behindScheme at h ⊢
  split at h
  case isTrue hf =>
    rw [if_pos hf]
    exact fileUrl_error_beneath hn h more
  case isFalse hf =>
    rw [if_neg hf]
    simp only [here,beneath] at h ⊢
    split at h
    case isTrue hs =>
      rw [if_pos hs]
      obtain ⟨d,leads,-,drop⟩ := dropSlashes_beneath hn (withoutBreaks rest)
      rw [drop] at h ⊢
      exact withAuthority_error_beneath hn leads h _
    case isFalse hs =>
      rw [if_neg hs]
      rcases slashes_beneath hn (withoutBreaks rest) with none_here | ⟨d,leads,slashes⟩
      case inl =>
        split at h
        case h_1 two => exact absurd two (none_here _ _)
        case h_2 => cases h
      case inr =>
        rw [slashes] at h ⊢
        exact withAuthority_error_beneath hn leads h _

/-- What stands beneath a text that is no address is none either, for the same reason. -/
theorem parse_error_beneath {fault : Fault}
    (h : parse (String.ofList (base ++ '/' :: name)) = .error fault) {more : List Char}
    (hl : ∀ c ∈ more.getLast?, 0x20 < c.toNat) :
    parse (String.ofList (base ++ '/' :: (name ++ '/' :: more))) = .error fault := by
  rw [parse_append fun c => getLast?_beneath hn] at h
  rw [parse_append (getLast?_beneath_more hl name)]
  split at h
  case h_1 => exact h
  case h_2 => exact behindScheme_error_beneath hn (by rwa [List.append_nil]) more

end

end WorksheetUpload.Url
