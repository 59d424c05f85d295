import WorksheetUpload.Proofs.FileTree.Below

/-! Where paths lead. Steps lead from one directory to the next, and a link puts the steps of its
target before those that are left; a path leads somewhere if that takes no more links than the system
follows. What lies below a path is found by its own path, through the same links. -/
namespace WorksheetUpload.FileTree

variable {t : FileTree}

/-- Where steps lead from somewhere, and through how many links. Each step is taken from a
directory. -/
inductive Leads (t : FileTree) : Nat → List Bytes → List Bytes → List Bytes → Prop
  | here {place} : Leads t 0 place [] place
  | stay {links here todo place entries} (inside : t.root.find? here = some (.dir entries))
      (rest : Leads t links here todo place) : Leads t links here (Path.dot :: todo) place
  | up {links here todo place entries} (inside : t.root.find? here = some (.dir entries))
      (rest : Leads t links here.dropLast todo place) :
      Leads t links here (Path.dotDot :: todo) place
  | enter {links here name todo place entries n}
      (inside : t.root.find? here = some (.dir entries))
      (moves : name ≠ Path.dot ∧ name ≠ Path.dotDot) (short : name.length ≤ nameLimit)
      (entry : entries.lookup name = some n) (plain : ∀ target, n ≠ .link target)
      (rest : Leads t links (here ++ [name]) todo place) : Leads t links here (name :: todo) place
  | follow {links here name todo place entries target}
      (inside : t.root.find? here = some (.dir entries))
      (moves : name ≠ Path.dot ∧ name ≠ Path.dotDot) (short : name.length ≤ nameLimit)
      (entry : entries.lookup name = some (.link target)) (somewhere : target ≠ [])
      (rest : Leads t links (if Path.isAbsolute target then [] else here)
        (Path.steps target ++ todo) place) : Leads t (links+1) here (name :: todo) place

theorem walk_of_leads {k links : Nat} {here todo place : List Bytes}
    (h : t.Leads k here todo place) (enough : k ≤ links) :
    t.walk links here todo = .ok place := by
  induction h generalizing links with
  | here => rw [walk]
  | stay inside rest ih =>
    rw [walk,inside]
    exact ih enough
  | up inside rest ih =>
    rw [walk,inside]
    exact ih enough
  | enter inside moves short entry plain rest ih =>
    rw [walk,inside]
    simp only [moves,Nat.not_lt.2 short,entry,if_false]
    exact ih enough
  | @follow _ here _ _ _ _ target inside moves short entry somewhere rest ih =>
    cases links with
    | zero => exact absurd enough (Nat.not_succ_le_zero _)
    | succ links =>
      have target' : target.isEmpty = false := by simpa using somewhere
      rw [walk,inside]
      simp only [moves,Nat.not_lt.2 short,entry,target',if_false]
      exact ih (Nat.le_of_succ_le_succ enough)

theorem leads_of_walk {links : Nat} {here todo place : List Bytes}
    (h : t.walk links here todo = .ok place) : ∃ k ≤ links, t.Leads k here todo place := by
  fun_induction walk t links here todo with
  | case1 links here =>
    cases h
    exact ⟨0,Nat.zero_le _,.here⟩
  | case2 links here todo entries inside ih =>
    obtain ⟨k,enough,rest⟩ := ih h
    exact ⟨k,enough,.stay inside rest⟩
  | case3 links here todo entries inside _ ih =>
    obtain ⟨k,enough,rest⟩ := ih h
    exact ⟨k,enough,.up inside rest⟩
  | case8 here name todo entries inside up stay short target entry links somewhere ih =>
    simp only [dite_eq_ite] at ih
    obtain ⟨k,enough,rest⟩ := ih h
    refine ⟨k+1,Nat.succ_le_succ enough,.follow inside ⟨up,stay⟩ (Nat.not_lt.1 short) entry ?_ rest⟩
    simpa using somewhere
  | case9 links here name todo entries inside up stay short n plain entry ih =>
    obtain ⟨k,enough,rest⟩ := ih h
    exact ⟨k,enough,.enter inside ⟨up,stay⟩ (Nat.not_lt.1 short) entry plain rest⟩
  | _ => cases h

theorem walk_eq_ok_iff {links : Nat} {here todo place : List Bytes} :
    t.walk links here todo = .ok place ↔ ∃ k ≤ links, t.Leads k here todo place :=
  ⟨leads_of_walk,fun ⟨_,enough,h⟩ => walk_of_leads h enough⟩

theorem Leads.append {k l : Nat} {here mid place todo more : List Bytes}
    (h : t.Leads k here todo mid) (h' : t.Leads l mid more place) :
    t.Leads (k+l) here (todo ++ more) place := by
  induction h with
  | here => rwa [Nat.zero_add]
  | stay inside _ ih => exact .stay inside (ih h')
  | up inside _ ih => exact .up inside (ih h')
  | enter inside moves short entry plain _ ih => exact .enter inside moves short entry plain (ih h')
  | follow inside moves short entry somewhere _ ih =>
    have rest := ih h'
    rw [List.append_assoc] at rest
    rw [Nat.add_right_comm]
    exact .follow inside moves short entry somewhere rest

/-- A step to the same place at the end leads nowhere else. -/
theorem Leads.without_stay {k : Nat} {here todo front place : List Bytes}
    (h : t.Leads k here todo place) (last : todo = front ++ [Path.dot]) :
    t.Leads k here front place := by
  induction h generalizing front with
  | here => simp at last
  | stay inside rest ih =>
    rcases List.cons_eq_append_iff.1 last with ⟨rfl,end'⟩ | ⟨front,rfl,more⟩
    · cases end'
      exact rest
    · exact .stay inside (ih more)
  | up inside rest ih =>
    rcases List.cons_eq_append_iff.1 last with ⟨rfl,end'⟩ | ⟨front,rfl,more⟩
    · cases end'
    · exact .up inside (ih more)
  | enter inside moves short entry plain rest ih =>
    rcases List.cons_eq_append_iff.1 last with ⟨rfl,end'⟩ | ⟨front,rfl,more⟩
    · exact absurd (List.cons.inj end').1.symm moves.1
    · exact .enter inside moves short entry plain (ih more)
  | follow inside moves short entry somewhere rest ih =>
    rcases List.cons_eq_append_iff.1 last with ⟨rfl,end'⟩ | ⟨front,rfl,more⟩
    · exact absurd (List.cons.inj end').1.symm moves.1
    · refine .follow inside moves short entry somewhere (ih ?_)
      rw [more,List.append_assoc]

/-- Names of entries lead straight down, unless the last one is that of a link. -/
theorem leads_down {here way : List Bytes} {n : Node}
    (found : t.root.find? (here ++ way) = some n) (plain : ∀ target, n ≠ .link target)
    (names : ∀ name ∈ way, Path.IsName name) : t.Leads 0 here way (here ++ way) := by
  induction way generalizing here with
  | nil =>
    rw [List.append_nil]
    exact .here
  | cons name way ih =>
    obtain ⟨own,rest⟩ := List.forall_mem_cons.1 names
    rw [Node.find?_append,Option.bind_eq_some_iff] at found
    obtain ⟨m,inside,found'⟩ := found
    obtain ⟨entries,inner,rfl,entry,found'⟩ := Node.find?_cons_eq_some_iff.1 found'
    have passable : ∀ target, inner ≠ .link target := by
      intro target link
      have last : way = [] := Node.eq_nil_of_find? (link ▸ nofun) found'
      subst last
      exact plain target ((Option.some.inj found').symm.trans link)
    have further : t.Leads 0 (here ++ [name]) way (here ++ [name] ++ way) := by
      refine ih ?_ rest
      rw [Node.find?_append,Node.find?_append,inside]
      simp [Node.find?_cons,Node.entry?,entry,found']
    rw [List.append_assoc] at further
    exact .enter inside ⟨own.notDot,own.notDotDot⟩ own.short entry passable further

/-- Where a path is taken from. -/
def start (t : FileTree) (path : Bytes) : List Bytes := if Path.isAbsolute path then [] else t.home

/-- Whether the system looks a path up at all. -/
structure Usable (path : Bytes) : Prop where
  present : path ≠ []
  clear : 0 ∉ path
  short : path.length < pathLimit

/-- Where a path leads, with no more links than the system follows. -/
structure Names (t : FileTree) (path : Bytes) (place : List Bytes) : Prop where
  usable : Usable path
  leads : ∃ k ≤ linkLimit, t.Leads k (t.start path) (Path.steps path) place

theorem resolve_of_usable {path : Bytes} (h : Usable path) : t.resolve path =
    (t.walk linkLimit (t.start path) (Path.steps path)).bind fun place =>
      match t.root.find? place with
      | some n => .ok n
      | none => .error .noEntry := by
  have present : path.isEmpty = false := by simpa using h.present
  have clear : path.contains 0 = false := by simpa using h.clear
  rw [resolve,present,clear,if_neg Bool.false_ne_true,if_neg Bool.false_ne_true,
    if_neg (Nat.not_le.2 h.short)]
  rfl

theorem usable_of_resolve {path : Bytes} {n : Node} (h : t.resolve path = .ok n) : Usable path := by
  rw [resolve] at h
  have clear : ¬ path.contains 0 := fun zero => by rw [if_pos zero] at h; cases h
  rw [if_neg clear] at h
  have present : ¬ path.isEmpty := fun empty => by rw [if_pos empty] at h; cases h
  rw [if_neg present] at h
  have short : ¬ pathLimit ≤ path.length := fun long => by rw [if_pos long] at h; cases h
  exact ⟨by simpa using present,by simpa using clear,Nat.not_le.1 short⟩

/-- What a path names is what is found where it leads. -/
theorem resolve_eq_ok_iff {path : Bytes} {n : Node} :
    t.resolve path = .ok n ↔ ∃ place, t.Names path place ∧ t.root.find? place = some n := by
  constructor
  · intro h
    have usable : Usable path := usable_of_resolve h
    rw [resolve_of_usable usable] at h
    cases walked : t.walk linkLimit (t.start path) (Path.steps path) with
    | error fault =>
      rw [walked] at h
      cases h
    | ok place =>
      rw [walked] at h
      refine ⟨place,⟨usable,leads_of_walk walked⟩,?_⟩
      simp only [Except.bind] at h
      split at h <;> cases h
      assumption
  · rintro ⟨place,⟨usable,leads⟩,found⟩
    rw [resolve_of_usable usable,walk_eq_ok_iff.2 leads]
    simp only [Except.bind,found]

/-- What lies below a path, and is no link, goes by its own path if that is short enough. -/
theorem resolve_beneath (sound : t.root.Sound) {path : Bytes} {place way : List Bytes} {n : Node}
    (named : t.Names path place) (found : t.root.find? (place ++ way) = some n)
    (plain : ∀ target, n ≠ .link target) (short : (Path.beneath path way).length < pathLimit) :
    t.resolve (Path.beneath path way) = .ok n := by
  have names : ∀ name ∈ way, Path.IsName name := sound.names_below found
  obtain ⟨⟨present,clear,-⟩,k,enough,leads⟩ := named
  refine resolve_eq_ok_iff.2 ⟨place ++ way,⟨⟨?_,?_,short⟩,k,enough,?_⟩,found⟩
  · exact Path.beneath_ne_nil present names
  · exact Path.clear_beneath clear names
  · by_cases down : way = []
    · subst down
      rwa [List.append_nil]
    · have above : t.Leads k (t.start path) (Path.parts path) place := by
        rw [Path.steps_eq] at leads
        split at leads
        case isTrue => exact leads.without_stay rfl
        case isFalse => rwa [List.append_nil] at leads
      rw [start,Path.isAbsolute_beneath present names,Path.steps_beneath path names down]
      exact above.append (leads_down found plain names)

end WorksheetUpload.FileTree
