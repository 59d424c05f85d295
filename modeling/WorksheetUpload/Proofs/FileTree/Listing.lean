import WorksheetUpload.Proofs.FileTree.Resolution
import WorksheetUpload.Proofs.Path.LastName

/-! Listings of what lies below some roots. A root is followed to where it leads, names lead down from
there, and every regular file or link to one is listed once by the path that is spelled so, unless
that has become too long for the system. -/
namespace WorksheetUpload.FileTree

variable {t : FileTree} {root path : Bytes}

/-- Whether a path stands for standard input. -/
def ReadsInput (path : Bytes) : Prop := ∃ rest, Path.Idle rest ∧ path = standardInput ++ rest

theorem isStandardInput_iff : isStandardInput path ↔ ReadsInput path := by
  rw [isStandardInput]
  constructor
  · intro h
    split at h
    case h_1 name gaps split =>
      rw [Bool.and_eq_true,beq_iff_eq] at h
      obtain ⟨rfl,idle⟩ := h
      exact Path.idle_of_pieces split idle
    case h_2 => cases h
  · rintro ⟨rest,idle,rfl⟩
    obtain ⟨gaps,split,idle⟩ := Path.pieces_append_idle idle (by decide : Path.slash ∉ standardInput)
    rw [split]
    simpa using idle

/-- A regular file at or below a root, or a link to one. -/
inductive FileBelow (t : FileTree) (root path : Bytes) : Prop
  | file {place way : List Bytes} {contents : Bytes} (named : t.Names root place)
      (found : t.root.find? (place ++ way) = some (.file contents))
      (spelled : path = Path.beneath root way) : FileBelow t root path
  | link {place way goal : List Bytes} {target contents : Bytes} (named : t.Names root place)
      (found : t.root.find? (place ++ way) = some (.link target))
      (spelled : path = Path.beneath root way) (leads : t.Names path goal)
      (regular : t.root.find? goal = some (.file contents)) : FileBelow t root path

theorem isFile_iff : t.isFile path ↔ ∃ contents, t.resolve path = .ok (.file contents) := by
  rw [isFile]
  split
  case h_1 contents h => exact iff_of_true rfl ⟨contents,h⟩
  case h_2 other => exact iff_of_false Bool.false_ne_true fun ⟨contents,h⟩ => other contents h

theorem filesBelow_singleton (t : FileTree) (root : Bytes) :
    t.filesBelow [root] = (t.pathsBelow root).filter t.isFile :=
  List.append_nil _

theorem filesBelow_eq (t : FileTree) (roots : List Bytes) :
    t.filesBelow roots = roots.flatMap fun root => t.filesBelow [root] := by
  simp only [filesBelow_singleton]
  rfl

/-- A walk goes through a part of the tree, unless it has one path or none. -/
theorem pathsBelow_cases (t : FileTree) (root : Bytes) :
    (∃ only, t.pathsBelow root = [only]) ∨ t.pathsBelow root = [] ∨
      ∃ place n, t.root.find? place = some n ∧ t.pathsBelow root = n.pathsFrom root := by
  rw [pathsBelow]
  split
  case isTrue => exact .inl ⟨_,rfl⟩
  case isFalse =>
    cases resolved : t.resolve root with
    | error fault => exact .inr (.inl rfl)
    | ok n =>
      obtain ⟨place,-,found⟩ := resolve_eq_ok_iff.1 resolved
      exact .inr (.inr ⟨place,n,found,rfl⟩)

/-- The walk from a root ends after no more paths than the tree has nodes, whatever its links say. -/
theorem length_pathsBelow_le (t : FileTree) (root : Bytes) :
    (t.pathsBelow root).length ≤ t.root.size := by
  rcases t.pathsBelow_cases root with ⟨only,eq⟩ | eq | ⟨place,n,found,eq⟩
  · rw [eq]
    exact t.root.size_pos
  · rw [eq]
    exact Nat.zero_le _
  · rw [eq,Node.length_pathsFrom]
    exact Node.size_le_of_find? found

section

variable (sound : t.root.Sound)
include sound

theorem nodup_filesBelow (root : Bytes) : (t.filesBelow [root]).Nodup := by
  rw [filesBelow_singleton]
  refine List.Nodup.filter _ ?_
  rcases t.pathsBelow_cases root with ⟨only,eq⟩ | eq | ⟨place,n,found,eq⟩
  · rw [eq]
    exact List.nodup_singleton only
  · rw [eq]
    exact List.nodup_nil
  · rw [eq]
    exact (sound.of_find? found).1.nodup_pathsFrom root

/-- The walk goes through all that lies down from where the root leads. -/
theorem mem_pathsBelow_iff (plain : ¬ ReadsInput root) :
    path ∈ t.pathsBelow root ↔ ∃ place way n, t.Names root place ∧
      t.root.find? (place ++ way) = some n ∧ path = Path.beneath root way := by
  rw [pathsBelow,if_neg (mt isStandardInput_iff.1 plain)]
  constructor
  · intro h
    cases resolved : t.resolve root with
    | error fault =>
      rw [resolved] at h
      cases h
    | ok n =>
      rw [resolved] at h
      obtain ⟨place,named,found⟩ := resolve_eq_ok_iff.1 resolved
      obtain ⟨way,m,down,spelled⟩ := (sound.of_find? found).1.mem_pathsFrom_iff.1 h
      exact ⟨place,way,m,named,by rw [Node.find?_append,found]; exact down,spelled⟩
  · rintro ⟨place,way,m,named,down,spelled⟩
    rw [Node.find?_append,Option.bind_eq_some_iff] at down
    obtain ⟨n,found,down⟩ := down
    rw [resolve_eq_ok_iff.2 ⟨place,named,found⟩]
    exact (sound.of_find? found).1.mem_pathsFrom_iff.2 ⟨way,m,down,spelled⟩

theorem mem_filesBelow_iff (plain : ¬ ReadsInput root) :
    path ∈ t.filesBelow [root] ↔ t.FileBelow root path ∧ path.length < pathLimit := by
  rw [filesBelow_singleton,List.mem_filter,mem_pathsBelow_iff sound plain,isFile_iff]
  constructor
  · rintro ⟨⟨place,way,n,named,found,rfl⟩,contents,resolved⟩
    have short : (Path.beneath root way).length < pathLimit := (usable_of_resolve resolved).short
    refine ⟨?_,short⟩
    by_cases link : ∃ target, n = .link target
    case pos =>
      obtain ⟨target,rfl⟩ := link
      obtain ⟨goal,leads,regular⟩ := resolve_eq_ok_iff.1 resolved
      exact .link named found rfl leads regular
    case neg =>
      have own : n = .file contents := Except.ok.inj
        ((resolve_beneath sound named found (not_exists.1 link) short).symm.trans resolved)
      exact .file named (own ▸ found) rfl
  · rintro ⟨below,short⟩
    cases below with
    | @file place way contents named found spelled =>
      rw [spelled] at short
      refine ⟨⟨place,way,_,named,found,spelled⟩,contents,?_⟩
      rw [spelled]
      exact resolve_beneath sound named found nofun short
    | @link place way goal target contents named found spelled leads regular =>
      exact ⟨⟨place,way,_,named,found,spelled⟩,contents,resolve_eq_ok_iff.2 ⟨goal,leads,regular⟩⟩

/-- A path is listed as often as there are roots that it is listed for. -/
theorem count_filesBelow (roots : List Bytes) (path : Bytes) :
    (t.filesBelow roots).count path = roots.countP fun root => path ∈ t.filesBelow [root] := by
  rw [filesBelow_eq]
  induction roots with
  | nil => rfl
  | cons root roots ih =>
    rw [List.flatMap_cons,List.count_append,ih,List.countP_cons,(nodup_filesBelow sound root).count,
      Nat.add_comm]
    simp only [decide_eq_true_eq]

end

/-- A listing is that of one root after the other. For each of them it has every regular file at or
below it, and every link to one, whose path the system looks up, just once, and nothing else; so it has
nothing for a root that is missing, and a path as often as there are roots that have it. The root is
followed if it is a link, what lies below it is not, and no walk is longer than the tree has nodes, even
if its links go round in circles. What names a file does not matter, only roots that stand for standard
input are left out. -/
theorem each_file_listed_once (t : FileTree) (sound : t.root.Sound) (roots : List Bytes) :
    t.filesBelow roots = roots.flatMap (fun root => t.filesBelow [root]) ∧
    (∀ root ∈ roots, ¬ ReadsInput root → (t.filesBelow [root]).Nodup ∧
      (∀ path, path ∈ t.filesBelow [root] ↔ t.FileBelow root path ∧ path.length < pathLimit) ∧
      ∀ fault, t.resolve root = .error fault → t.filesBelow [root] = []) ∧
    (∀ path, (t.filesBelow roots).count path =
      roots.countP fun root => path ∈ t.filesBelow [root]) ∧
    ∀ root, (t.pathsBelow root).length ≤ t.root.size := by
  refine ⟨filesBelow_eq t roots,?_,count_filesBelow sound roots,length_pathsBelow_le t⟩
  intro root _ plain
  refine ⟨nodup_filesBelow sound root,fun path => mem_filesBelow_iff sound plain,?_⟩
  intro fault missing
  rw [filesBelow_singleton,pathsBelow,if_neg (mt isStandardInput_iff.1 plain),missing]
  rfl

/-- A directory with a link to itself, a hidden file, and a link to that. The directory is listed twice
by way of its link. -/
theorem linked_file_of_linked_root :
    let entries : List (Bytes × Node) :=
      [([0x6C],.link [0x2E]),([0x2E,0x68],.file []),([0x61],.link [0x2E,0x68])]
    let t : FileTree := ⟨.dir [([0x77],.dir entries)],[[0x77]]⟩
    t.root.Sound ∧ (t.filesBelow [[0x6C],[0x6C]]).count [0x6C,0x2F,0x61] = 2 := by
  intro entries t
  have sound : t.root.Sound := by
    have inner : (Node.dir entries).Sound :=
      .dir (by decide) (by decide) (by simp [entries,Node.Sound.link,Node.Sound.file])
    exact .dir (by decide) (by decide) (by simpa using inner)
  have plain : ¬ ReadsInput [0x6C] := mt isStandardInput_iff.2 (by decide)
  have home : t.root.find? [[0x77]] = some (.dir entries) := rfl
  -- the root leads through one link, and the path of the other link through both
  have root : t.Names [0x6C] [[0x77]] :=
    ⟨⟨by decide,by decide,by decide⟩,1,by decide,
      .follow home (by decide) (by decide) rfl (by decide) (.stay home .here)⟩
  have path : t.Names [0x6C,0x2F,0x61] [[0x77],[0x2E,0x68]] :=
    ⟨⟨by decide,by decide,by decide⟩,2,by decide,
      .follow home (by decide) (by decide) rfl (by decide)
        (.stay home (.follow home (by decide) (by decide) rfl (by decide)
          (.enter home (by decide) (by decide) rfl nofun .here)))⟩
  have found : t.root.find? ([[0x77]] ++ [[0x61]]) = some (.link [0x2E,0x68]) := rfl
  have below : t.FileBelow [0x6C] [0x6C,0x2F,0x61] := .link root found rfl path rfl
  obtain ⟨-,each,often,-⟩ := each_file_listed_once t sound [[0x6C],[0x6C]]
  have listed : [0x6C,0x2F,0x61] ∈ t.filesBelow [[0x6C]] :=
    ((each _ List.mem_cons_self plain).2.1 _).2 ⟨below,by decide⟩
  refine ⟨sound,?_⟩
  rw [often]
  simp [listed]

/-- A file at the end of a way of directories that all go by one name. -/
def nested (name : Bytes) : Nat → Node
  | 0 => .file []
  | depth+1 => .dir [(name,nested name depth)]

theorem sound_nested {name : Bytes} (h : Path.IsName name) (depth : Nat) :
    (nested name depth).Sound := by
  induction depth with
  | zero => exact .file
  | succ depth ih => exact .dir (by simpa using h) (List.nodup_singleton _) (by simpa using ih)

theorem find?_nested (name : Bytes) (depth : Nat) :
    (nested name depth).find? (List.replicate depth name) = some (.file []) := by
  induction depth with
  | zero => rfl
  | succ depth ih =>
    rw [List.replicate_succ,Node.find?_cons]
    simpa [nested,Node.entry?] using ih

/-- A file that lies too deep is not listed. -/
theorem nested_unlisted {name : Bytes} (own : Path.IsName name) {depth : Nat}
    (deep : pathLimit ≤ depth) :
    let t : FileTree := ⟨nested name (depth+1),[]⟩
    let path := Path.beneath [Path.slash] (List.replicate (depth+1) name)
    t.root.Sound ∧ ¬ ReadsInput [Path.slash] ∧
      t.FileBelow [Path.slash] path ∧ path ∉ t.filesBelow [[Path.slash]] := by
  intro t path
  have sound : t.root.Sound := sound_nested own (depth+1)
  have plain : ¬ ReadsInput [Path.slash] := mt isStandardInput_iff.2 (by decide)
  have root : t.Names [Path.slash] [] :=
    ⟨⟨by decide,by decide,by decide⟩,0,by decide,.stay rfl .here⟩
  refine ⟨sound,plain,.file root (find?_nested name (depth+1)) rfl,?_⟩
  intro listed
  have short : (Path.beneath [Path.slash] (List.replicate (depth+1) name)).length < pathLimit :=
    ((mem_filesBelow_iff sound plain).1 listed).2
  have names : ∀ part ∈ List.replicate (depth+1) name, Path.IsName part :=
    fun part h => List.eq_of_mem_replicate h ▸ own
  have long := Path.length_add_length_le_beneath [Path.slash] names
  rw [List.length_replicate] at long
  omega

/-- A directory that goes by the name for standard input, when a slash follows it, and a file so deep
that its path is too long: both files lie below the root, and neither is listed. -/
theorem dash_and_depth_unlisted :
    (let t : FileTree := ⟨.dir [([0x77],.dir [([0x2D],.dir [([0x61],.file [])])])],[[0x77]]⟩
     t.root.Sound ∧ [0x2D,0x2F] ≠ standardInput ∧
      t.FileBelow [0x2D,0x2F] [0x2D,0x2F,0x61] ∧ [0x2D,0x2F,0x61] ∉ t.filesBelow [[0x2D,0x2F]]) ∧
    (let t : FileTree := ⟨nested [0x61] 4097,[]⟩
     let path := Path.beneath [0x2F] (List.replicate 4097 [0x61])
     t.root.Sound ∧ ¬ ReadsInput [0x2F] ∧
      t.FileBelow [0x2F] path ∧ path ∉ t.filesBelow [[0x2F]]) := by
  refine ⟨?_,nested_unlisted (by decide) (Nat.le_refl _)⟩
  intro t
  have sound : t.root.Sound := by
    have dash : (Node.dir [([0x61],.file [])]).Sound :=
      .dir (by decide) (by decide) (by simp [Node.Sound.file])
    have home : (Node.dir [([0x2D],.dir [([0x61],.file [])])]).Sound :=
      .dir (by decide) (by decide) (by simpa using dash)
    exact .dir (by decide) (by decide) (by simpa using home)
  have root : t.Names [0x2D,0x2F] [[0x77],[0x2D]] :=
    ⟨⟨by decide,by decide,by decide⟩,0,by decide,
      .enter rfl (by decide) (by decide) rfl nofun (.stay rfl .here)⟩
  have found : t.root.find? ([[0x77],[0x2D]] ++ [[0x61]]) = some (.file []) := rfl
  refine ⟨sound,by decide,.file root found rfl,?_⟩
  intro listed
  rw [filesBelow_singleton,List.mem_filter,pathsBelow,if_pos (by decide),List.mem_singleton] at listed
  exact absurd listed.1 (by decide +kernel)

end WorksheetUpload.FileTree
