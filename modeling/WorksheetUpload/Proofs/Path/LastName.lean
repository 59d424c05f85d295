import WorksheetUpload.Proofs.Path.Parts

/-! The name that a path ends in. Slashes and steps to the same place that follow a path lead nowhere
and leave its name as it is; without them, the name is what stands behind the last slash, unless that
leads up. -/
namespace WorksheetUpload.Path

/-- What may follow a path and leads nowhere. -/
inductive Idle : Bytes → Prop
  | nil : Idle []
  | slash {rest : Bytes} (idle : Idle rest) : Idle (slash :: rest)
  | stay {rest : Bytes} (idle : Idle rest) : Idle (Path.slash :: dot ++ rest)

/-- A path that nothing of that kind follows. -/
def Bare (p : Bytes) : Prop := ∀ q rest, Idle rest → p = q ++ rest → rest = []

/-- The text behind the last slash, which is the whole path if it has none. -/
def EndsIn (p last : Bytes) : Prop :=
  slash ∉ last ∧ (p = last ∨ ∃ above, p = above ++ slash :: last)

/-- A path, what is left of it without what idly follows, and the text behind the last slash of
that. -/
structure Cut (p q last rest : Bytes) : Prop where
  split : p = q ++ rest
  idle : Idle rest
  bare : Bare q
  ends : EndsIn q last

theorem Idle.append {rest more : Bytes} (h : Idle rest) (h' : Idle more) : Idle (rest ++ more) := by
  induction h with
  | nil => exact h'
  | slash _ ih => exact .slash ih
  | stay _ ih => exact .stay ih

theorem exists_bare (p : Bytes) : ∃ q rest, p = q ++ rest ∧ Idle rest ∧ Bare q := by
  by_cases bare : Bare p
  case pos => exact ⟨p,[],(List.append_nil p).symm,.nil,bare⟩
  case neg =>
    simp only [Bare,not_forall] at bare
    obtain ⟨q,rest,idle,split,more⟩ := bare
    have shorter : q.length < p.length := by
      rw [split,List.length_append]
      exact Nat.lt_add_of_pos_right (List.length_pos_of_ne_nil more)
    obtain ⟨q',rest',split',idle',bare'⟩ := exists_bare q
    refine ⟨q',rest' ++ rest,?_,idle'.append idle,bare'⟩
    rw [split,split',List.append_assoc]
termination_by p.length

theorem exists_endsIn (p : Bytes) : ∃ last, EndsIn p last := by
  induction p with
  | nil => exact ⟨[],List.not_mem_nil,.inl rfl⟩
  | cons b p ih =>
    obtain ⟨last,whole,rfl | ⟨above,rfl⟩⟩ := ih
    · by_cases hb : b = slash
      case pos => exact ⟨p,whole,.inr ⟨[],by rw [hb]; rfl⟩⟩
      case neg => exact ⟨b :: p,by simpa [Ne.symm hb] using whole,.inl rfl⟩
    · exact ⟨last,whole,.inr ⟨b :: above,rfl⟩⟩

/-- Every path can be cut so. -/
theorem exists_cut (p : Bytes) : ∃ q last rest, Cut p q last rest := by
  obtain ⟨q,rest,split,idle,bare⟩ := exists_bare p
  obtain ⟨last,ends⟩ := exists_endsIn q
  exact ⟨q,last,rest,split,idle,bare,ends⟩

/-- What idly follows a name makes gaps behind it, and no more. -/
theorem pieces_append_idle {rest : Bytes} (h : Idle rest) {name : Bytes} (whole : slash ∉ name) :
    ∃ gaps, pieces (name ++ rest) = name :: gaps ∧ gaps.all fun c => c.isEmpty || c == dot := by
  induction h generalizing name with
  | nil => exact ⟨[],by rw [List.append_nil,pieces_of_not_mem whole],rfl⟩
  | @slash rest idle ih =>
    obtain ⟨gaps,split,allIdle⟩ := ih (List.not_mem_nil (a := Path.slash))
    refine ⟨[] :: gaps,?_,allIdle⟩
    rw [pieces_append_slash,pieces_of_not_mem whole]
    exact congrArg (name :: ·) split
  | @stay rest idle ih =>
    obtain ⟨gaps,split,allIdle⟩ := ih (by decide : Path.slash ∉ dot)
    refine ⟨dot :: gaps,?_,allIdle⟩
    rw [List.cons_append,pieces_append_slash,pieces_of_not_mem whole]
    exact congrArg (name :: ·) split

theorem idle_of_pieces {p name : Bytes} {gaps : List Bytes} (h : pieces p = name :: gaps)
    (allIdle : gaps.all fun c => c.isEmpty || c == dot) : ∃ rest, Idle rest ∧ p = name ++ rest := by
  induction p generalizing name gaps with
  | nil =>
    cases h
    exact ⟨[],.nil,rfl⟩
  | cons b p ih =>
    obtain ⟨first,more,split⟩ := List.exists_cons_of_ne_nil (pieces_ne_nil p)
    rw [pieces,split] at h
    split at h
    case isTrue hb =>
      cases h
      rw [List.all_cons,Bool.and_eq_true,Bool.or_eq_true,List.isEmpty_iff,beq_iff_eq] at allIdle
      obtain ⟨rest,idle,rfl⟩ := ih split allIdle.2
      rcases allIdle.1 with rfl | rfl
      · exact ⟨_,.slash idle,by rw [hb]; rfl⟩
      · exact ⟨_,.stay idle,by rw [hb]; rfl⟩
    case isFalse =>
      cases h
      obtain ⟨rest,idle,rfl⟩ := ih split allIdle
      exact ⟨rest,idle,rfl⟩

/-- The parts that lead to another place. -/
def moves (p : Bytes) : List Bytes := (parts p).filter (· != dot)

theorem finalName?_eq (p : Bytes) : finalName? p = (moves p).getLast?.filter (· != dotDot) := by
  rw [finalName?,moves,parts,List.filter_filter]
  simp only [Bool.and_comm]

theorem moves_of_name {name : Bytes} (present : name ≠ []) (whole : slash ∉ name)
    (leads : name ≠ dot) : moves name = [name] := by
  rw [moves,parts_of_not_mem present whole]
  simp [leads]

theorem moves_append_slash (p q : Bytes) : moves (p ++ slash :: q) = moves p ++ moves q := by
  rw [moves,parts_append_slash,List.filter_append,moves,moves]

theorem moves_append_idle {rest : Bytes} (h : Idle rest) (p : Bytes) :
    moves (p ++ rest) = moves p := by
  induction h generalizing p with
  | nil => rw [List.append_nil]
  | @slash rest idle ih =>
    calc moves (p ++ slash :: rest) = moves ((p ++ [slash]) ++ rest) := by simp
      _ = moves (p ++ [slash]) := ih _
      _ = moves p := by rw [moves,parts_concat_slash,moves]
  | @stay rest idle ih =>
    calc moves (p ++ (slash :: dot ++ rest)) = moves ((p ++ slash :: dot) ++ rest) := by simp
      _ = moves (p ++ slash :: dot) := ih _
      _ = moves p ++ moves dot := moves_append_slash p dot
      _ = moves p := List.append_nil _

/-- What leads nowhere changes no name. -/
theorem finalName?_append_idle {rest : Bytes} (h : Idle rest) (p : Bytes) :
    finalName? (p ++ rest) = finalName? p := by
  rw [finalName?_eq,finalName?_eq,moves_append_idle h]

/-- A path that nothing idle follows is empty, or a step to the same place, or ends in a text that
is neither. -/
theorem Bare.ending {p last : Bytes} (bare : Bare p) (ends : EndsIn p last) :
    p = [] ∨ p = dot ∨ last ≠ [] ∧ last ≠ dot ∧ (moves p).getLast? = some last := by
  obtain ⟨whole,rfl | ⟨above,rfl⟩⟩ := ends
  · by_cases empty : p = []
    · exact .inl empty
    · by_cases stays : p = dot
      · exact .inr (.inl stays)
      · refine .inr (.inr ⟨empty,stays,?_⟩)
        rw [moves_of_name empty whole stays]
        rfl
  · have present : last ≠ [] := by
      rintro rfl
      exact absurd (bare above [slash] (.slash .nil) rfl) (List.cons_ne_nil _ _)
    have leads : last ≠ dot := by
      rintro rfl
      exact absurd (bare above [slash,0x2E] (.stay .nil) rfl) (List.cons_ne_nil _ _)
    refine .inr (.inr ⟨present,leads,?_⟩)
    rw [moves_append_slash,moves_of_name present whole leads,List.getLast?_concat]

variable {p q last rest name : Bytes}

theorem Cut.finalName?_eq (h : Cut p q last rest) :
    finalName? p = if q = [] ∨ q = dot ∨ last = dotDot then none else some last := by
  rw [h.split,finalName?_append_idle h.idle]
  rcases h.bare.ending h.ends with rfl | rfl | ⟨-,-,final⟩
  · rfl
  · rfl
  · have there : q ≠ [] := by rintro rfl; cases final
    have elsewhere : q ≠ dot := by rintro rfl; cases final
    rw [Path.finalName?_eq,final]
    by_cases up : last = dotDot
    · simp [up]
    · simp [up,there,elsewhere]

/-- A name that a path ends in is one that an entry can have. -/
theorem name_of_finalName? (h : finalName? p = some name) :
    name ≠ [] ∧ slash ∉ name ∧ name ≠ dot ∧ name ≠ dotDot := by
  obtain ⟨q,last,rest,cut⟩ := exists_cut p
  rw [cut.finalName?_eq] at h
  split at h
  case isTrue => cases h
  case isFalse other =>
    simp only [not_or] at other
    obtain rfl : last = name := Option.some.inj h
    rcases cut.bare.ending cut.ends with empty | stays | ⟨present,leads,-⟩
    · exact absurd empty other.1
    · exact absurd stays other.2.1
    · exact ⟨present,cut.ends.1,leads,other.2.2⟩

end WorksheetUpload.Path
