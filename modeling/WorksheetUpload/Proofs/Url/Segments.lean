import WorksheetUpload.Proofs.Url.Beneath
import WorksheetUpload.Proofs.Url.Percent

/-! Paths that go on behind a word. What was added leads on from where the word is, so the segments
of the longer path are some of the new ones, above what is left of the old ones. -/
namespace WorksheetUpload.Url

def isDots (piece : List Char) : Bool := isDoubleDot piece || isSingleDot piece

/-- Where encoded pieces lead from a path given in reverse. -/
def lead (above pieces : List (List Char)) : List (List Char) :=
  pieces.foldl (fun above piece => Segment.next above ⟨piece,none⟩) above

/-- The empty segment that dots at the end leave. -/
def trail (pieces : List (List Char)) : List (List Char) :=
  if pieces.getLast?.any isDots then [[]] else []

theorem eq_nil_of_mem_trail {pieces : List (List Char)} {s : List Char} (h : s ∈ trail pieces) :
    s = [] := by
  unfold trail at h
  split at h
  case isTrue => exact List.mem_singleton.1 h
  case isFalse => contradiction

theorem lead_append (above pieces more : List (List Char)) :
    lead above (pieces ++ more) = lead (lead above pieces) more := List.foldl_append

theorem next_of_not_isDots {piece : List Char} (h : isDots piece = false)
    (above : List (List Char)) : Segment.next above ⟨piece,none⟩ = piece :: above := by
  obtain ⟨double,single⟩ := Bool.or_eq_false_iff.1 h
  simp [Segment.next,double,single]

/-- Segments that begin no path with the name of a volume are followed one by one. -/
theorem follow_eq (above pieces : List (List Char)) :
    follow above (pieces.map fun piece => ⟨piece,none⟩) =
      (trail pieces ++ lead above pieces).reverse := by
  induction pieces generalizing above with
  | nil => simp [follow,trail,lead]
  | cons piece pieces ih =>
    have step : follow above (⟨piece,none⟩ :: pieces.map fun piece => ⟨piece,none⟩) =
        if isDots piece && pieces.isEmpty then ([] :: Segment.next above ⟨piece,none⟩).reverse
        else follow (Segment.next above ⟨piece,none⟩) (pieces.map fun piece => ⟨piece,none⟩) := by
      rw [follow]
      · simp [Segment.isDots,isDots]
      · simp
    rw [List.map_cons,step]
    cases pieces with
    | nil => cases hp : isDots piece <;> simp [follow,trail,lead,hp]
    | cons next pieces =>
      rw [List.isEmpty_cons,Bool.and_false,if_neg (by simp),ih]
      rfl

theorem goUp_suffix (above : List (List Char)) : goUp above <:+ above := by
  cases above with
  | nil => exact List.suffix_refl _
  | cons piece above =>
    rw [goUp]
    split
    case isTrue => exact List.suffix_refl _
    case isFalse => exact List.suffix_cons piece above

/-- Dots lead no further on. -/
theorem length_next_of_isDots {piece : List Char} (h : isDots piece = true)
    (above : List (List Char)) : (Segment.next above ⟨piece,none⟩).length ≤ above.length := by
  unfold Segment.next
  split
  case isTrue => exact (goUp_suffix above).length_le
  case isFalse double =>
    have single : isSingleDot piece = true := by simpa [isDots,double] using h
    rw [if_pos single]

/-- One step up or on, from some new segments above some old ones. -/
theorem next_append (new old : List (List Char)) (piece : List Char) : ∃ new' old',
    Segment.next (new ++ old) ⟨piece,none⟩ = new' ++ old' ∧ old' <:+ old ∧
      ∀ s ∈ new', s ∈ new ∨ s = piece := by
  unfold Segment.next
  split
  case isTrue =>
    cases new with
    | nil => exact ⟨[],goUp old,rfl,goUp_suffix old,by simp⟩
    | cons first new =>
      rw [List.cons_append,goUp]
      split
      case isTrue => exact ⟨first :: new,old,rfl,List.suffix_refl _,fun s hs => .inl hs⟩
      case isFalse =>
        exact ⟨new,old,rfl,List.suffix_refl _,fun s hs => .inl (List.mem_cons_of_mem first hs)⟩
  case isFalse =>
    split
    case isTrue => exact ⟨new,old,rfl,List.suffix_refl _,fun s hs => .inl hs⟩
    case isFalse =>
      exact ⟨piece :: new,old,rfl,List.suffix_refl _,fun s hs => (List.mem_cons.1 hs).symm⟩

theorem lead_from (new old pieces : List (List Char)) : ∃ new' old',
    lead (new ++ old) pieces = new' ++ old' ∧ old' <:+ old ∧ ∀ s ∈ new', s ∈ new ∨ s ∈ pieces := by
  induction pieces generalizing new old with
  | nil => exact ⟨new,old,rfl,List.suffix_refl _,fun s hs => .inl hs⟩
  | cons piece pieces ih =>
    obtain ⟨new',old',step,older,newer⟩ := next_append new old piece
    obtain ⟨new'',old'',run,older',newer'⟩ := ih new' old'
    refine ⟨new'',old'',?_,older'.trans older,fun s hs => ?_⟩
    · rw [← run,← step]
      rfl
    · rcases newer' s hs with hs | hs
      · rcases newer s hs with hs | rfl
        · exact .inl hs
        · exact .inr List.mem_cons_self
      · exact .inr (List.mem_cons_of_mem piece hs)

/-- Wherever pieces lead, the path there is some of them above what is left of the path before. -/
theorem lead_eq (above pieces : List (List Char)) : ∃ new old,
    lead above pieces = new ++ old ∧ old <:+ above ∧ ∀ s ∈ new, s ∈ pieces := by
  simpa using lead_from [] above pieces

theorem mem_of_append_eq {α : Type} {new old front back : List α} {a : α}
    (h : new ++ old = front ++ a :: back) (shorter : old.length ≤ back.length) : a ∈ new := by
  rcases List.append_eq_append_iff.1 h with ⟨rest,-,ho⟩ | ⟨rest,rfl,hb⟩
  · have longer := congrArg List.length ho
    simp only [List.length_append,List.length_cons] at longer
    omega
  · cases rest with
    | nil =>
      have longer := congrArg List.length hb
      simp only [List.nil_append,List.length_cons] at longer
      omega
    | cons b rest =>
      obtain ⟨rfl,-⟩ := List.cons_eq_cons.1 hb
      simp

/-- What is above as many segments as there were at the start is a piece, or left by dots. -/
theorem mem_of_trail_lead {above pieces front back : List (List Char)} {s : List Char}
    (shorter : above.length ≤ back.length)
    (h : trail pieces ++ lead above pieces = front ++ s :: back) : s = [] ∨ s ∈ pieces := by
  obtain ⟨new,old,hl,older,newer⟩ := lead_eq above pieces
  rw [hl,← List.append_assoc] at h
  rcases List.mem_append.1 (mem_of_append_eq h (older.length_le.trans shorter)) with mem | mem
  · exact .inl (eq_nil_of_mem_trail mem)
  · exact .inr (newer s mem)

theorem mem_of_lead {above pieces back : List (List Char)} {s : List Char}
    (shorter : above.length ≤ back.length) (h : lead above pieces = s :: back) : s ∈ pieces := by
  obtain ⟨new,old,hl,older,newer⟩ := lead_eq above pieces
  have split : new ++ old = [] ++ s :: back := hl.symm.trans h
  exact newer s (mem_of_append_eq split (older.length_le.trans shorter))

theorem eq_or_of_toLower {c d : Char} (h : c.toLower = d) : c = d ∨ c = d.toUpper := by
  subst h
  induction c using Utf8.forall_of_ascii with
  | ascii n small => revert n; decide
  | past c own => exact .inl own.symm

/-- Dots that are spelled with codes denote dots. -/
theorem decode_of_isDots {piece : List Char} (h : isDots piece = true) :
    decode piece = [0x2E] ∨ decode piece = [0x2E,0x2E] := by
  have dot {a : Char} (ha : a.toLower = '.') (rest : List Char) :
      decode (a :: rest) = 0x2E :: decode rest := by
    obtain rfl | rfl := eq_or_of_toLower ha
    · exact decode_cons rfl
    · exact decode_cons rfl
  have code {a b c : Char} (ha : a.toLower = '%') (hb : b.toLower = '2') (hc : c.toLower = 'e')
      (rest : List Char) : decode (a :: b :: c :: rest) = 0x2E :: decode rest := by
    obtain rfl : a = '%' := by simpa using eq_or_of_toLower ha
    obtain rfl : b = '2' := by simpa using eq_or_of_toLower hb
    obtain rfl | rfl := eq_or_of_toLower hc
    · exact decode_code (x := 2) (y := 14) (by decide) (by decide) rest
    · exact decode_code (x := 2) (y := 14) (by decide) (by decide) rest
  simp only [isDots,isDoubleDot,isSingleDot,List.any_cons,List.any_nil,String.reduceToList,
    Bool.or_false,Bool.or_eq_true,beq_iff_eq,List.map_eq_cons_iff,List.map_eq_nil_iff,
    exists_eq_right_right,↓existsAndEq,true_and] at h
  obtain (⟨a,b,rfl,ha,hb⟩ | ⟨a,b,c,d,rfl,ha,hb,hc,hd⟩ | ⟨a,b,c,d,rfl,ha,hb,hc,hd⟩ |
    ⟨a,b,c,a',b',c',rfl,ha,hb,hc,ha',hb',hc'⟩) | ⟨a,rfl,ha⟩ | ⟨a,b,c,rfl,ha,hb,hc⟩ := h
  · exact .inr (by rw [dot ha,dot hb,decode_nil])
  · exact .inr (by rw [code ha hb hc,dot hd,decode_nil])
  · exact .inr (by rw [dot ha,code hb hc hd,decode_nil])
  · exact .inr (by rw [code ha hb hc,code ha' hb' hc',decode_nil])
  · exact .inl (by rw [dot ha,decode_nil])
  · exact .inl (by rw [code ha hb hc,decode_nil])

/-- A text without codes is no dots in any spelling, unless it is dots as they are. -/
theorem isDots_encode {marks : MarkSet} (hm : ∀ c ∈ marks, hexDigit? c = none) (hp : '%' ∉ marks)
    {text : List Char} (codes : hasCode text = false) (single : text ≠ ['.'])
    (double : text ≠ ['.','.']) : isDots (encode marks text) = false := by
  by_contra dots
  have denotes := decode_of_isDots (by simpa using dots)
  rw [decode_encode hm hp,(decode_eq_encode_iff text).2 codes] at denotes
  rcases denotes with h | h
  · exact single (Utf8.encode_injective h)
  · exact double (Utf8.encode_injective h)

/-- The segments of a text, each encoded. A backslash divides as a slash does. -/
def piecesOf (text : List Char) : List (List Char) := (splitAt isSlash text).map (encode pathMarks)

theorem piecesOf_ne_nil (text : List Char) : piecesOf text ≠ [] := by
  simp [piecesOf,splitAt_ne_nil]

theorem piecesOf_append_cons (s t : List Char) :
    piecesOf (s ++ '/' :: t) = piecesOf s ++ piecesOf t := by
  rw [piecesOf,splitAt_append_cons (by decide),List.map_append]
  rfl

theorem piecesOf_of_forall_not {text : List Char} (h : ∀ c ∈ text, isSlash c = false) :
    piecesOf text = [encode pathMarks text] := by
  rw [piecesOf,splitAt_of_forall_not h]
  rfl

theorem segmentsOf_eq (text : List Char) :
    segmentsOf true text = (trail (piecesOf text) ++ lead [] (piecesOf text)).reverse := by
  rw [← follow_eq,piecesOf,List.map_map]
  rfl

/-- What a longer path goes on from, in reverse. A single empty segment is the root, above which
there is nothing. -/
def onward (pieces : List (List Char)) : List (List Char) :=
  if pieces = [[]] then [] else pieces.reverse

theorem length_onward_le (pieces : List (List Char)) : (onward pieces).length ≤ pieces.length := by
  unfold onward
  split <;> simp

theorem trail_append (pieces : List (List Char)) {more : List (List Char)} (h : more ≠ []) :
    trail (pieces ++ more) = trail more := by
  rw [trail,trail,List.getLast?_append,List.getLast?_eq_some_getLast h,Option.some_or]

section

variable {name : List Char} (hn : IsWord name) (plain : encode pathMarks name = name)
  (no_dots : isDots name = false)
include hn plain no_dots

/-- Behind a word the path goes on from the word. -/
theorem segmentsOf_beneath {d : List Char} (hd : Leads d) : ∃ above,
    segmentsOf true (d ++ name) = (name :: above).reverse ∧
    ∀ more, segmentsOf true (d ++ (name ++ '/' :: more)) =
      (trail (piecesOf more) ++ lead (name :: above) (piecesOf more)).reverse := by
  have word : piecesOf name = [name] := by
    rw [piecesOf_of_forall_not fun c hc => hn.not_of_mem (fun _ => isAlpha_eq_false_of_isSlash) hc,
      plain]
  obtain ⟨before,whole⟩ : ∃ before, piecesOf (d ++ name) = before ++ [name] := by
    obtain rfl | ⟨r,rfl⟩ := hd
    · exact ⟨[],word⟩
    · exact ⟨piecesOf r,by rw [List.append_assoc,List.singleton_append,piecesOf_append_cons,word]⟩
  have last : lead [] (before ++ [name]) = name :: lead [] before := by
    rw [lead_append]
    exact next_of_not_isDots no_dots _
  refine ⟨lead [] before,?_,fun more => ?_⟩
  · rw [segmentsOf_eq,whole,last,trail_append _ (List.cons_ne_nil name [])]
    simp [trail,no_dots]
  · rw [← List.append_assoc,segmentsOf_eq,piecesOf_append_cons,whole,
      trail_append _ (piecesOf_ne_nil more),lead_append,last]

/-- The path that ends in the word, and the longer ones. -/
theorem pathAfterAuthority_beneath {t : List Char} (ht : t = [] ∨ '/' :: name <:+ t) :
    ∃ pieces, pathAfterAuthority true t = .segments pieces ∧
      ∀ more, pathAfterAuthority true (t ++ '/' :: more) =
        .segments (trail (piecesOf more) ++ lead (onward pieces) (piecesOf more)).reverse := by
  obtain rfl | ⟨s,rfl⟩ := ht
  case inl => exact ⟨[[]],rfl,fun more => by rw [onward,if_pos rfl,← segmentsOf_eq]; rfl⟩
  case inr =>
    obtain ⟨d,leads,here⟩ : ∃ d, Leads d ∧ ∀ more,
        pathAfterAuthority true (s ++ '/' :: (name ++ more)) =
          .segments (segmentsOf true (d ++ (name ++ more))) := by
      cases s with
      | nil => exact ⟨[],.inl rfl,fun more => rfl⟩
      | cons c s =>
        have first (more : List Char) : pathAfterAuthority true (c :: more) =
            .segments (segmentsOf true (if isSlash c then more else c :: more)) := rfl
        cases hc : isSlash c with
        | true =>
          refine ⟨s ++ ['/'],.inr ⟨s,rfl⟩,fun more => ?_⟩
          rw [List.cons_append,first,hc,List.append_assoc]
          rfl
        | false =>
          refine ⟨c :: s ++ ['/'],.inr ⟨c :: s,rfl⟩,fun more => ?_⟩
          rw [List.cons_append,first,hc,List.append_assoc]
          rfl
    obtain ⟨above,ends,further⟩ := segmentsOf_beneath hn plain no_dots leads
    have from_word : onward (name :: above).reverse = name :: above := by
      rw [onward,if_neg,List.reverse_reverse]
      intro root
      have mem : name ∈ (name :: above).reverse := List.mem_reverse.2 List.mem_cons_self
      rw [root,List.mem_singleton] at mem
      exact hn.not_nil mem
    refine ⟨(name :: above).reverse,?_,fun more => ?_⟩
    · have ends_here := here []
      rw [List.append_nil,ends] at ends_here
      exact ends_here
    · rw [List.append_assoc,List.cons_append,here,further,from_word]

end

end WorksheetUpload.Url
