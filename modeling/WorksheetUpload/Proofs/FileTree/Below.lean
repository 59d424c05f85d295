import Mathlib.Data.List.Flatten
import Mathlib.Data.List.Nodup
import WorksheetUpload.FileTree
import WorksheetUpload.Proofs.Path.Parts

/-! What lies below a node. Ways down a tree and the paths that spell them out say the same of it: the
paths below a node are those of the ways that lead to something, each once, and there are as many of
them as there are nodes, whatever the links among these say. -/
namespace WorksheetUpload

/-- What an entry of a directory can be called. -/
structure Path.IsName (name : Bytes) : Prop where
  present : name ≠ []
  whole : slash ∉ name
  clear : 0 ∉ name
  notDot : name ≠ dot
  notDotDot : name ≠ dotDot
  short : name.length ≤ FileTree.nameLimit

instance (name : Bytes) : Decidable (Path.IsName name) :=
  decidable_of_iff (name ≠ [] ∧ Path.slash ∉ name ∧ 0 ∉ name ∧ name ≠ Path.dot ∧
      name ≠ Path.dotDot ∧ name.length ≤ FileTree.nameLimit)
    ⟨fun ⟨a,b,c,d,e,f⟩ => ⟨a,b,c,d,e,f⟩,fun ⟨a,b,c,d,e,f⟩ => ⟨a,b,c,d,e,f⟩⟩

namespace Path

/-- The path of what lies down a way from a path. -/
def beneath (p : Bytes) (way : List Bytes) : Bytes := way.foldl child p

@[simp] theorem beneath_cons (p name : Bytes) (way : List Bytes) :
    beneath p (name :: way) = beneath (child p name) way := rfl

theorem beneath_ne_nil {p : Bytes} {way : List Bytes} (h : p ≠ [])
    (names : ∀ name ∈ way, IsName name) : beneath p way ≠ [] :=
  List.foldlRecOn (motive := fun q => q ≠ []) way child h fun q _ name there =>
    child_ne_nil (names name there).present q

theorem isAbsolute_beneath {p : Bytes} {way : List Bytes} (h : p ≠ [])
    (names : ∀ name ∈ way, IsName name) : isAbsolute (beneath p way) = isAbsolute p := by
  -- only a path that is not empty keeps its head
  have kept : beneath p way ≠ [] ∧ isAbsolute (beneath p way) = isAbsolute p := by
    refine List.foldlRecOn (motive := fun q => q ≠ [] ∧ isAbsolute q = isAbsolute p) way child
      ⟨h,rfl⟩ fun q kept name there => ⟨?_,?_⟩
    · exact child_ne_nil (names name there).present q
    · exact (isAbsolute_child kept.1 name).trans kept.2
  exact kept.2

theorem clear_beneath {p : Bytes} {way : List Bytes} (h : 0 ∉ p)
    (names : ∀ name ∈ way, IsName name) : 0 ∉ beneath p way := by
  refine List.foldlRecOn (motive := fun q => 0 ∉ q) way child h fun q clear name there zero => ?_
  rcases mem_child zero with above | separator | inside
  · exact clear above
  · exact absurd separator (by decide)
  · exact (names name there).clear inside

theorem length_add_length_le_beneath (p : Bytes) {way : List Bytes}
    (names : ∀ name ∈ way, IsName name) : p.length + way.length ≤ (beneath p way).length := by
  induction way generalizing p with
  | nil => exact Nat.le_refl _
  | cons name way ih =>
    obtain ⟨own,rest⟩ := List.forall_mem_cons.1 names
    have longer := length_lt_child own.present p
    have := ih (child p name) rest
    rw [beneath_cons,List.length_cons]
    omega

theorem parts_beneath (p : Bytes) {way : List Bytes} (names : ∀ name ∈ way, IsName name) :
    parts (beneath p way) = parts p ++ way := by
  induction way generalizing p with
  | nil => exact (List.append_nil _).symm
  | cons name way ih =>
    obtain ⟨own,rest⟩ := List.forall_mem_cons.1 names
    rw [beneath_cons,ih _ rest,parts_child own.present own.whole,List.append_assoc]
    rfl

/-- Below a path nothing is left of a slash at its end. -/
theorem steps_beneath (p : Bytes) {way : List Bytes} (names : ∀ name ∈ way, IsName name)
    (down : way ≠ []) : steps (beneath p way) = parts p ++ way := by
  induction way generalizing p with
  | nil => exact absurd rfl down
  | cons name way ih =>
    obtain ⟨own,rest⟩ := List.forall_mem_cons.1 names
    rw [beneath_cons]
    cases way with
    | nil => exact steps_child own.present own.whole p
    | cons next way =>
      rw [ih _ rest (List.cons_ne_nil _ _),parts_child own.present own.whole,List.append_assoc]
      rfl

end Path

namespace Node

/-- Whether the entries of each directory have names of their own that entries can have. -/
inductive Sound : Node → Prop
  | file {contents : Bytes} : Sound (file contents)
  | link {target : Bytes} : Sound (link target)
  | socket : Sound socket
  | dir {entries : List (Bytes × Node)} (named : ∀ e ∈ entries, Path.IsName e.1)
      (distinct : (entries.map Prod.fst).Nodup) (inner : ∀ e ∈ entries, Sound e.2) :
      Sound (dir entries)

mutual

/-- How many nodes there are at and below a node. -/
def size : Node → Nat
  | dir entries => 1 + sizeOfEntries entries
  | file _ => 1
  | link _ => 1
  | socket => 1

def sizeOfEntries : List (Bytes × Node) → Nat
  | [] => 0
  | (_,n) :: rest => size n + sizeOfEntries rest

end

theorem size_pos (n : Node) : 0 < n.size := by
  cases n with
  | dir entries =>
    rw [size]
    omega
  | file | link | socket => exact Nat.zero_lt_one

mutual

theorem length_pathsFrom (path : Bytes) : (n : Node) → (n.pathsFrom path).length = n.size
  | dir entries => by rw [pathsFrom,size,List.length_cons,length_pathsOfEntries,Nat.add_comm]
  | file _ => rfl
  | link _ => rfl
  | socket => rfl

theorem length_pathsOfEntries (path : Bytes) :
    (entries : List (Bytes × Node)) → (pathsOfEntries path entries).length = sizeOfEntries entries
  | [] => rfl
  | (name,n) :: rest => by
    rw [pathsOfEntries,sizeOfEntries,List.length_append,length_pathsFrom,length_pathsOfEntries]

end

theorem pathsOfEntries_eq (path : Bytes) (entries : List (Bytes × Node)) :
    pathsOfEntries path entries = entries.flatMap fun e => e.2.pathsFrom (Path.child path e.1) := by
  induction entries with
  | nil => rfl
  | cons e rest ih => rw [pathsOfEntries,ih,List.flatMap_cons]

@[simp] theorem find?_nil (n : Node) : n.find? [] = some n := rfl

theorem find?_cons (n : Node) (name : Bytes) (way : List Bytes) :
    n.find? (name :: way) = (n.entry? name).bind (find? way) := rfl

/-- A way goes on from where its beginning leads. -/
theorem find?_append (n : Node) (way more : List Bytes) :
    n.find? (way ++ more) = (n.find? way).bind (find? more) := by
  induction way generalizing n with
  | nil => rfl
  | cons name way ih =>
    rw [List.cons_append,find?_cons,find?_cons,Option.bind_assoc]
    congr 1
    funext inner
    exact ih inner

/-- A way down begins in a directory, at one of its entries. -/
theorem find?_cons_eq_some_iff {n m : Node} {name : Bytes} {way : List Bytes} :
    n.find? (name :: way) = some m ↔ ∃ entries inner, n = dir entries ∧
      entries.lookup name = some inner ∧ inner.find? way = some m := by
  rw [find?_cons,Option.bind_eq_some_iff]
  constructor
  · rintro ⟨inner,entry,found⟩
    cases n with
    | dir entries => exact ⟨entries,inner,rfl,entry,found⟩
    | file _ | link _ | socket => cases entry
  · rintro ⟨entries,inner,rfl,entry,found⟩
    exact ⟨inner,entry,found⟩

/-- From what is no directory there is no way down. -/
theorem eq_nil_of_find? {n m : Node} {way : List Bytes} (leaf : ∀ entries, n ≠ dir entries)
    (h : n.find? way = some m) : way = [] := by
  cases way with
  | nil => rfl
  | cons name way =>
    obtain ⟨entries,-,here,-⟩ := find?_cons_eq_some_iff.1 h
    exact absurd here (leaf entries)

/-- Where names are distinct, every entry is found by its name. -/
theorem lookup_eq_some_iff {entries : List (Bytes × Node)} {name : Bytes} {n : Node}
    (distinct : (entries.map Prod.fst).Nodup) :
    entries.lookup name = some n ↔ (name,n) ∈ entries := by
  induction entries with
  | nil => simp
  | cons e rest ih =>
    obtain ⟨other,m⟩ := e
    rw [List.map_cons,List.nodup_cons] at distinct
    rw [List.lookup_cons,List.mem_cons,Prod.mk.injEq]
    by_cases same : name = other
    case pos =>
      subst same
      have absent : (name,n) ∉ rest := fun h => distinct.1 (List.mem_map.2 ⟨(name,n),h,rfl⟩)
      rw [beq_self_eq_true]
      simp [absent,eq_comm]
    case neg =>
      rw [beq_false_of_ne same]
      simp [same,ih distinct.2]

/-- What is no directory has no path but its own. -/
theorem mem_pathsFrom_of_leaf {n : Node} {path p : Bytes} (leaf : ∀ entries, n ≠ dir entries)
    (only : n.pathsFrom path = [path]) :
    p ∈ n.pathsFrom path ↔ ∃ way m, n.find? way = some m ∧ p = Path.beneath path way := by
  rw [only,List.mem_singleton]
  constructor
  · rintro rfl
    exact ⟨[],n,rfl,rfl⟩
  · rintro ⟨way,m,found,rfl⟩
    rw [eq_nil_of_find? leaf found]
    rfl

namespace Sound

/-- What a way leads to is sound, and the way is one of names. -/
theorem of_find? {n m : Node} {way : List Bytes} (h : n.Sound) (found : n.find? way = some m) :
    m.Sound ∧ ∀ name ∈ way, Path.IsName name := by
  induction way generalizing n with
  | nil =>
    obtain rfl : n = m := Option.some.inj found
    exact ⟨h,nofun⟩
  | cons name way ih =>
    obtain ⟨entries,inner,rfl,entry,found⟩ := find?_cons_eq_some_iff.1 found
    cases h with
    | dir named distinct sound =>
      have there : (name,inner) ∈ entries := (lookup_eq_some_iff distinct).1 entry
      obtain ⟨sound',names⟩ := ih (sound _ there) found
      exact ⟨sound',List.forall_mem_cons.2 ⟨named _ there,names⟩⟩

theorem names_below {n m : Node} {above way : List Bytes} (h : n.Sound)
    (found : n.find? (above ++ way) = some m) : ∀ name ∈ way, Path.IsName name :=
  fun name there => (h.of_find? found).2 name (List.mem_append_right above there)

/-- The paths at and below a node are those that spell a way out. -/
theorem mem_pathsFrom_iff {n : Node} (h : n.Sound) {path p : Bytes} :
    p ∈ n.pathsFrom path ↔ ∃ way m, n.find? way = some m ∧ p = Path.beneath path way := by
  induction h generalizing path with
  | file => exact mem_pathsFrom_of_leaf nofun rfl
  | link => exact mem_pathsFrom_of_leaf nofun rfl
  | socket => exact mem_pathsFrom_of_leaf nofun rfl
  | @dir entries named distinct inner ih =>
    rw [pathsFrom,List.mem_cons,pathsOfEntries_eq,List.mem_flatMap]
    constructor
    · rintro (rfl | ⟨⟨name,n⟩,there,h⟩)
      · exact ⟨[],_,rfl,rfl⟩
      · obtain ⟨way,m,found,rfl⟩ := (ih _ there).1 h
        refine ⟨name :: way,m,find?_cons_eq_some_iff.2 ⟨entries,n,rfl,?_,found⟩,rfl⟩
        exact (lookup_eq_some_iff distinct).2 there
    · rintro ⟨way,m,found,rfl⟩
      cases way with
      | nil => exact .inl rfl
      | cons name way =>
        obtain ⟨entries',n,same,entry,found⟩ := find?_cons_eq_some_iff.1 found
        cases same
        have there : (name,n) ∈ entries := (lookup_eq_some_iff distinct).1 entry
        exact .inr ⟨_,there,(ih _ there).2 ⟨way,m,found,rfl⟩⟩

/-- What has a path below another has its parts first. -/
theorem prefix_of_mem_pathsFrom {n : Node} (h : n.Sound) {path p : Bytes}
    (below : p ∈ n.pathsFrom path) : Path.parts path <+: Path.parts p := by
  obtain ⟨way,m,found,rfl⟩ := h.mem_pathsFrom_iff.1 below
  rw [Path.parts_beneath path (h.of_find? found).2]
  exact List.prefix_append _ _

theorem nodup_pathsFrom {n : Node} (h : n.Sound) (path : Bytes) : (n.pathsFrom path).Nodup := by
  induction h generalizing path with
  | file | link | socket => exact List.nodup_singleton path
  | @dir entries named distinct inner ih =>
    have parts_of_mem {e : Bytes × Node} {p : Bytes} (there : e ∈ entries)
        (h : p ∈ e.2.pathsFrom (Path.child path e.1)) :
        Path.parts path ++ [e.1] <+: Path.parts p := by
      have own : Path.IsName e.1 := named e there
      rw [← Path.parts_child own.present own.whole]
      exact (inner e there).prefix_of_mem_pathsFrom h
    rw [pathsFrom,pathsOfEntries_eq,List.nodup_cons,List.nodup_flatMap]
    refine ⟨?_,fun e there => ih e there _,?_⟩
    · intro again
      obtain ⟨e,there,h⟩ := List.mem_flatMap.1 again
      have longer := (parts_of_mem there h).length_le
      rw [List.length_append,List.length_singleton] at longer
      omega
    · refine (List.pairwise_map.1 distinct).imp_of_mem fun {e e'} there there' differ p h h' => ?_
      have same := List.prefix_of_prefix_length_le (parts_of_mem there h) (parts_of_mem there' h')
        (by simp)
      refine differ ?_
      simpa using same

end Sound

theorem size_le_of_lookup {entries : List (Bytes × Node)} {name : Bytes} {n : Node}
    (h : entries.lookup name = some n) : n.size ≤ sizeOfEntries entries := by
  induction entries with
  | nil => cases h
  | cons e rest ih =>
    obtain ⟨other,m⟩ := e
    rw [List.lookup_cons] at h
    rw [sizeOfEntries]
    split at h
    · obtain rfl : m = n := Option.some.inj h
      omega
    · have := ih h
      omega

/-- No more lies below a part of a tree than in the whole. -/
theorem size_le_of_find? {n m : Node} {way : List Bytes} (h : n.find? way = some m) :
    m.size ≤ n.size := by
  induction way generalizing n with
  | nil =>
    obtain rfl : n = m := Option.some.inj h
    exact Nat.le_refl _
  | cons name way ih =>
    obtain ⟨entries,inner,rfl,entry,found⟩ := find?_cons_eq_some_iff.1 h
    calc m.size ≤ inner.size := ih found
      _ ≤ sizeOfEntries entries := size_le_of_lookup entry
      _ ≤ (dir entries).size := by rw [size]; omega

end Node
end WorksheetUpload
