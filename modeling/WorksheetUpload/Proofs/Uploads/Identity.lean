import Mathlib.Data.List.Induction
import WorksheetUpload.Proofs.History
import WorksheetUpload.Proofs.Text.Decimal
import WorksheetUpload.Uploads

/-! Attempts keep their identity. In whatever order uploads are begun, told of and forgotten, their
numbers rise along the list and no number is given twice, so that a phase goes to the one attempt of
its number or to none; and the numbers that are shown add up to the attempts that are there. -/
namespace WorksheetUpload

/-- An upload is under way, or has completed, or has failed. -/
theorem Phase.one_of_three (p : Phase) : (if !p.isFinished then 1 else 0) +
    (if p.isCompleted then 1 else 0) + (if p.isFailed then 1 else 0) = 1 := by
  cases p <;> rfl

namespace Uploads

section

variable {i : Nat} {l : List Attempt}

@[simp] theorem setIn_map_id (i : Nat) (p : Phase) (l : List Attempt) :
    (setIn i p l).map (·.id) = l.map (·.id) := by
  induction l with
  | nil => rfl
  | cons a l ih => by_cases h : a.id = i <;> simp [setIn,h,ih]

@[simp] theorem setIn_map_fileName (i : Nat) (p : Phase) (l : List Attempt) :
    (setIn i p l).map (·.fileName) = l.map (·.fileName) := by
  induction l with
  | nil => rfl
  | cons a l ih => by_cases h : a.id = i <;> simp [setIn,h,ih]

/-- Where numbers are not given twice, a phase changes for its attempt and for no other. -/
theorem mem_setIn {p : Phase} {a : Attempt} (hl : (l.map (·.id)).Nodup) (ha : a ∈ setIn i p l) :
    (a.id = i ∧ a.phase = p) ∨ (a.id ≠ i ∧ a ∈ l) := by
  induction l with
  | nil => simp [setIn] at ha
  | cons b l ih =>
    rw [List.map_cons,List.nodup_cons] at hl
    unfold setIn at ha
    split at ha
    case isTrue h =>
      rcases List.mem_cons.1 ha with rfl | ha
      · exact .inl ⟨h,rfl⟩
      · refine .inr ⟨?_,List.mem_cons_of_mem _ ha⟩
        rintro rfl
        exact hl.1 (h ▸ List.mem_map_of_mem ha)
    case isFalse h =>
      rcases List.mem_cons.1 ha with rfl | ha
      · exact .inr ⟨h,List.mem_cons_self⟩
      · exact (ih hl.2 ha).imp_right fun g => ⟨g.1,List.mem_cons_of_mem _ g.2⟩

/-- The attempt of a number stays at its place, in another phase. -/
theorem setIn_of_getElem? {k : Nat} {a : Attempt} (hl : (l.map (·.id)).Nodup)
    (there : l[k]? = some a) (p : Phase) : setIn a.id p l = l.set k {a with phase := p} := by
  induction l generalizing k with
  | nil => cases there
  | cons b l ih =>
    obtain ⟨apart,hl⟩ := List.nodup_cons.1 hl
    cases k with
    | zero =>
      obtain rfl : b = a := Option.some.inj there
      exact if_pos rfl
    | succ k =>
      have behind : l[k]? = some a := there
      have other : b.id ≠ a.id := by
        intro same
        apply apart
        change b.id ∈ l.map (·.id)
        rw [same]
        exact List.mem_map_of_mem (List.mem_of_getElem? behind)
      rw [setIn,if_neg other,ih hl behind,List.set_cons_succ]

/-- A phase of a number that no attempt has is lost. -/
theorem setIn_of_forall_ne (h : ∀ a ∈ l, a.id ≠ i) (p : Phase) : setIn i p l = l := by
  induction l with
  | nil => rfl
  | cons a l ih =>
    obtain ⟨other,others⟩ := List.forall_mem_cons.1 h
    rw [setIn,if_neg other,ih others]

end

/-- What may happen to the uploads. -/
inductive Change
  | begin (fileName : String)
  | phase (id : Nat) (phase : Phase)
  | forget (index : Nat)
  | alert (text : String)
  | dismiss
  | reload
  | capture (paths : List Bytes)
  | toggleDetails

def Change.isBegin : Change → Bool
  | begin _ => true
  | _ => false

def change (u : Uploads) : Change → Uploads
  | .begin fileName => (u.begin fileName).1
  | .phase id phase => u.setPhase id phase
  | .forget index => u.forget index
  | .alert text => u.alert text
  | .dismiss => u.dismiss
  | .reload => u.reload
  | .capture paths => u.capture paths
  | .toggleDetails => u.toggleDetails

/-- The uploads after a history from the beginning. -/
def after (history : List Change) : Uploads := history.foldl change initial

/-- The number that a change gives. -/
def given? (u : Uploads) : Change → Option Nat
  | .begin fileName => some (u.begin fileName).2
  | _ => none

/-- The numbers given in a history, in order. -/
def numbers (history : List Change) : List Nat := yields change given? initial history

theorem after_append_singleton (history : List Change) (c : Change) :
    after (history ++ [c]) = (after history).change c := by simp [after]

/-- The numbers of the attempts rise along the list, and the next one is above them. -/
structure Numbered (u : Uploads) : Prop where
  rising : (u.attempts.map (·.id)).Pairwise (· < ·)
  below : ∀ i ∈ u.attempts.map (·.id), i < u.nextId

namespace Numbered

variable {u : Uploads}

theorem nodup (h : u.Numbered) : (u.attempts.map (·.id)).Nodup := h.rising.imp Nat.ne_of_lt

theorem begin (h : u.Numbered) (fileName : String) : (u.begin fileName).1.Numbered := by
  have ids : (u.begin fileName).1.attempts.map (·.id) = u.attempts.map (·.id) ++ [u.nextId] := by
    simp [Uploads.begin]
  constructor
  case rising =>
    rw [ids,List.pairwise_append]
    refine ⟨h.rising,List.pairwise_singleton _ _,?_⟩
    intro i hi j hj
    rw [List.mem_singleton.1 hj]
    exact h.below i hi
  case below =>
    intro i hi
    rw [ids] at hi
    change i < u.nextId + 1
    rcases List.mem_append.1 hi with old | new
    · have := h.below i old
      omega
    · have := List.mem_singleton.1 new
      omega

theorem setPhase (h : u.Numbered) (id : Nat) (phase : Phase) : (u.setPhase id phase).Numbered := by
  have ids : (u.setPhase id phase).attempts.map (·.id) = u.attempts.map (·.id) :=
    setIn_map_id id phase u.attempts
  exact ⟨ids ▸ h.rising,ids ▸ h.below⟩

/-- An attempt that is forgotten leaves the others in order, and its number behind. -/
theorem forget (h : u.Numbered) (index : Nat) : (u.forget index).Numbered := by
  have ids : ((u.forget index).attempts.map (·.id)).Sublist (u.attempts.map (·.id)) :=
    (List.eraseIdx_sublist u.attempts index).map _
  exact ⟨h.rising.sublist ids,fun i hi => h.below i (ids.subset hi)⟩

theorem change (h : u.Numbered) (c : Change) : (u.change c).Numbered := by
  cases c with
  | begin fileName => exact h.begin fileName
  | phase id phase => exact h.setPhase id phase
  | forget index => exact h.forget index
  | alert text => exact ⟨h.rising,h.below⟩
  | dismiss => exact ⟨h.rising,h.below⟩
  | reload => exact ⟨h.rising,h.below⟩
  | capture paths => exact ⟨h.rising,h.below⟩
  | toggleDetails => exact ⟨h.rising,h.below⟩

theorem after (history : List Change) : (after history).Numbered := by
  induction history using List.reverseRecOn with
  | nil => exact ⟨.nil,List.forall_mem_nil _⟩
  | append_singleton history c ih =>
    rw [after_append_singleton]
    exact ih.change c

/-- A phase goes to the one attempt of its number. -/
theorem setPhase_of_getElem? (h : u.Numbered) {k : Nat} {a : Attempt}
    (there : u.attempts[k]? = some a) (phase : Phase) :
    u.setPhase a.id phase = {u with attempts := u.attempts.set k {a with phase}} := by
  rw [Uploads.setPhase,setIn_of_getElem? h.nodup there]

end Numbered

/-- What begins gets the next number, and nothing else uses it up. -/
theorem change_nextId (u : Uploads) (c : Change) :
    (u.change c).nextId = u.nextId + c.isBegin.toNat ∧
      (u.given? c).toList = if c.isBegin then [u.nextId] else [] := by
  cases c <;> exact ⟨rfl,rfl⟩

/-- The uploads are numbered from nothing, in the order in which they are begun. -/
theorem numbers_eq (history : List Change) :
    (after history).nextId = history.countP Change.isBegin ∧
      numbers history = List.range (history.countP Change.isBegin) := by
  induction history using List.reverseRecOn with
  | nil => exact ⟨rfl,rfl⟩
  | append_singleton history c ih =>
    obtain ⟨next,given⟩ := ih
    obtain ⟨next',given'⟩ := (after history).change_nextId c
    have behind : numbers (history ++ [c]) = numbers history ++ ((after history).given? c).toList :=
      yields_append_singleton change given? initial history c
    rw [after_append_singleton,next',behind,given',next,given,List.countP_append,
      List.countP_singleton]
    cases c.isBegin with
    | false => exact ⟨rfl,List.append_nil _⟩
    | true => exact ⟨rfl,List.range_succ.symm⟩

theorem setPhase_of_forall_ne {u : Uploads} {id : Nat} (h : ∀ a ∈ u.attempts, a.id ≠ id)
    (phase : Phase) : u.setPhase id phase = u := by
  rw [setPhase,setIn_of_forall_ne h]

/-- Each attempt is counted once. -/
theorem counts_add_up (u : Uploads) :
    u.inFlight + u.completed + u.failed = u.attempts.length := by
  unfold inFlight completed failed
  induction u.attempts with
  | nil => rfl
  | cons a l ih =>
    have one := a.phase.one_of_three
    simp only [List.countP_cons,List.length_cons]
    omega

/-- The line that shows three numbers. -/
def statusLine (inFlight completed failed : Nat) : String :=
  "In progress: " ++ toString inFlight ++ " | ✅ Uploaded: " ++ toString completed ++
    " | ❌ Failed: " ++ toString failed

/-- The numbers can be read off the line. -/
theorem statusLine_inj {a b c x y z : Nat} :
    statusLine a b c = statusLine x y z ↔ a = x ∧ b = y ∧ c = z := by
  constructor
  · intro h
    have first (rest : List Char) : ∀ d ∈ (" | ✅ Uploaded: ".toList ++ rest).head?,
        d.isDigit = false := by simp
    have second (rest : List Char) : ∀ d ∈ (" | ❌ Failed: ".toList ++ rest).head?,
        d.isDigit = false := by simp
    unfold statusLine at h
    -- Of the words it matters only that none goes on with a digit.
    generalize "In progress: " = before,
      " | ✅ Uploaded: " = between, " | ❌ Failed: " = behind at *
    have h := congrArg String.toList h
    simp only [String.toList_append,Text.toList_toString_nat,List.append_assoc,
      List.append_cancel_left_eq] at h
    obtain ⟨inFlight,h⟩ := Text.decimal_append_inj (first _) (first _) h
    obtain ⟨completed,h⟩ := Text.decimal_append_inj (second _) (second _)
      (List.append_cancel_left h)
    have h := List.append_cancel_left h
    rw [← List.append_nil (Nat.toDigits 10 c),← List.append_nil (Nat.toDigits 10 z)] at h
    obtain ⟨failed,-⟩ := Text.decimal_append_inj (by simp) (by simp) h
    exact ⟨inFlight,completed,failed⟩
  · rintro ⟨rfl,rfl,rfl⟩
    rfl

/-- Whatever happened: the numbers of the attempts rise along the list and the next number is above
them; uploads are numbered as they begin, so that no number is given again, also when its attempt is
forgotten; a phase goes to the one attempt of its number and changes nothing else, and nothing at
all where there is no such attempt; and the three numbers shown add up to the attempts. -/
theorem attempts_keep_identity (history : List Change) :
    let u := after history
    ((u.attempts.map (·.id)).Pairwise (· < ·) ∧ ∀ a ∈ u.attempts, a.id < u.nextId) ∧
    (u.nextId = history.countP Change.isBegin ∧
      numbers history = List.range (history.countP Change.isBegin) ∧
      ∀ fileName, (u.begin fileName).2 = u.nextId ∧ (u.begin fileName).2 ∉ numbers history) ∧
    (∀ k a phase, u.attempts[k]? = some a →
      u.setPhase a.id phase = {u with attempts := u.attempts.set k {a with phase}}) ∧
    (∀ id phase, (∀ a ∈ u.attempts, a.id ≠ id) → u.setPhase id phase = u) ∧
    ∀ inFlight completed failed, u.statusText = statusLine inFlight completed failed ↔
      inFlight = u.inFlight ∧ completed = u.completed ∧ failed = u.failed ∧
        inFlight + completed + failed = u.attempts.length := by
  intro u
  have h : u.Numbered := .after history
  obtain ⟨next,given⟩ : u.nextId = history.countP Change.isBegin ∧
      numbers history = List.range (history.countP Change.isBegin) := numbers_eq history
  refine ⟨⟨h.rising,?_⟩,⟨next,given,?_⟩,?_,?_,?_⟩
  · intro a ha
    exact h.below a.id (List.mem_map_of_mem ha)
  · intro fileName
    refine ⟨rfl,?_⟩
    rw [given,← next]
    exact fun again => Nat.lt_irrefl _ (List.mem_range.1 again)
  · intro k a phase there
    exact h.setPhase_of_getElem? there phase
  · intro id phase unknown
    exact setPhase_of_forall_ne unknown phase
  · intro inFlight completed failed
    have shown : u.statusText = statusLine u.inFlight u.completed u.failed := rfl
    rw [shown,statusLine_inj]
    constructor
    · rintro ⟨rfl,rfl,rfl⟩
      exact ⟨rfl,rfl,rfl,u.counts_add_up⟩
    · rintro ⟨rfl,rfl,rfl,-⟩
      exact ⟨rfl,rfl,rfl⟩

end Uploads
end WorksheetUpload
