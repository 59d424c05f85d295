import WorksheetUpload.Proofs.Fleet.Sent

/-! What one upload asks of the service while anything may happen between its steps. The form is read
when its file is selected and never again: the upload creates one bundle at most, described as the form
stood then. -/
namespace WorksheetUpload

/-- What a call creates, and where. -/
def Call.creation? : Call → Option (Target × Metadata)
  | create target metadata _ => some (target,metadata)
  | upload _ _ _ _ => none

/-- The bundles that calls create, in order. -/
def creations (calls : List Call) : List (Target × Metadata) := calls.filterMap Call.creation?

namespace Course

/-- The call that a course makes in its next step. -/
def call? (a : Answers) : Course → Option Call
  | create target metadata _ => some (.create target metadata a.creation)
  | upload handle params contents _ => some (.upload handle params contents a.upload)
  | _ => none

/-- With some answers, a course makes these calls on its way to another. -/
inductive Goes : Course → List Call → Course → Prop
  | here (c : Course) : Goes c [] c
  | on {c d : Course} {calls : List Call} (a : Answers) (rest : Goes (c.step a).2 calls d) :
      Goes c ((c.call? a).toList ++ calls) d

/-- Whatever it is answered, the course creates nothing. -/
inductive Barren : Course → Prop
  | ended (final : Phase) : Barren (.ended final)
  | tell {e : Event} {rest : Course} (h : Barren rest) : Barren (.tell e rest)
  | read {file : SelectedFile} {next : Except IoFault Bytes → Course}
      (h : ∀ answer, Barren (next answer)) : Barren (.read file next)
  | upload {handle : Handle} {params : ContentParams} {contents : Bytes}
      {next : Except UploadError Unit → Course} (h : ∀ answer, Barren (next answer)) :
      Barren (.upload handle params contents next)

namespace Barren

theorem failing (stage : Stage) (e : UploadError) : (failing stage e).Barren :=
  .tell (.tell (.ended _))

theorem succeeding (h : Handle) : (succeeding h).Barren := .tell (.tell (.ended _))

theorem puttingContents (url : Handle → String) (file : SelectedFile) (h : Handle) :
    (puttingContents url file h).Barren := by
  refine .read fun answer => ?_
  cases answer with
  | error e => exact failing _ _
  | ok contents =>
    refine .upload fun answer => ?_
    cases answer with
    | error e => exact failing _ _
    | ok _ => exact succeeding h

theorem step {c : Course} (h : c.Barren) (a : Answers) :
    (c.step a).2.Barren ∧ creations (c.call? a).toList = [] := by
  cases h with
  | ended final => exact ⟨.ended final,rfl⟩
  | tell h => exact ⟨h,rfl⟩
  | read h => exact ⟨h _,rfl⟩
  | upload h => exact ⟨h _,rfl⟩

theorem creations_eq_nil {c d : Course} {calls : List Call} (way : c.Goes calls d) (h : c.Barren) :
    creations calls = [] := by
  induction way with
  | here c => rfl
  | on a rest ih =>
    obtain ⟨still,nothing⟩ := h.step a
    rw [creations,List.filterMap_append,← creations,← creations,nothing,ih still,List.append_nil]

end Barren

/-- An upload asks for its bundle first, and whatever follows creates nothing. -/
theorem exists_ofUpload_eq (url : Handle → String) (target : Target) (p : PendingUpload) :
    ∃ next, ofUpload url target p = .tell (.phase .requested) (.create target p.metadata next) ∧
      ∀ answer, (next answer).Barren := by
  refine ⟨_,rfl,?_⟩
  rintro (e | h)
  · exact .failing .creation e
  · exact .tell (.tell (.puttingContents url p.file h))

/-- An upload creates its own bundle and no other, and has created it when it is over. -/
theorem creations_of_goes {url : Handle → String} {target : Target} {p : PendingUpload}
    {calls : List Call} {d : Course} (h : (ofUpload url target p).Goes calls d) :
    creations calls <+: [(target,p.metadata)] ∧
      ∀ final, d = .ended final → creations calls = [(target,p.metadata)] := by
  obtain ⟨next,same,barren⟩ := exists_ofUpload_eq url target p
  rw [same] at h
  cases h with
  | here => exact ⟨List.nil_prefix,fun final ended => by cases ended⟩
  | on _ rest => cases rest with
    | here => exact ⟨List.nil_prefix,fun final ended => by cases ended⟩
    | on a rest =>
      have own := congrArg ((target,p.metadata) :: ·) ((barren a.creation).creations_eq_nil rest)
      exact ⟨own ▸ List.prefix_refl _,fun _ _ => own⟩

end Course

namespace Fleet

variable (url : Handle → String) (target : Target)

/-- The call that an upload makes in a move. -/
def callBy? (f : Fleet) (i : Nat) : Move → Option Call
  | .advance index answers =>
    if index = i then f.underway[i]?.bind fun u => u.rest.call? answers else none
  | _ => none

/-- The calls that an upload makes in a run of moves. -/
def callsBy (f : Fleet) (i : Nat) : List Move → List Call
  | [] => []
  | m :: ms => (f.callBy? i m).toList ++ callsBy (f.step url target m) i ms

section

variable {f : Fleet} {i : Nat} {u : Underway} (h : f.underway[i]? = some u)
include h

/-- An upload makes its own steps. -/
theorem step_own (a : Answers) :
    (f.step url target (.advance i a)).underway[i]? = some ⟨u.started,(u.rest.step a).2⟩ ∧
      f.callBy? i (.advance i a) = u.rest.call? a := by
  have within : i < f.underway.length := (List.getElem?_eq_some_iff.1 h).1
  constructor
  · simp only [step,h]
    exact List.getElem?_set_self within
  · simp [callBy?,h]

/-- Every other move leaves it as it is. -/
theorem step_other {m : Move} (other : ∀ a, m ≠ .advance i a) :
    (f.step url target m).underway[i]? = some u ∧ f.callBy? i m = none := by
  cases m with
  | select file => cases file with
    | none => exact ⟨h,rfl⟩
    | some file =>
      have within : i < f.underway.length := (List.getElem?_eq_some_iff.1 h).1
      exact ⟨(List.getElem?_append_left within).trans h,rfl⟩
  | advance index a =>
    have apart : index ≠ i := fun same => other a (same ▸ rfl)
    refine ⟨?_,if_neg apart⟩
    simp only [step]
    split
    · exact h
    · exact (List.getElem?_set_ne apart).trans h
  | listed paths => exact ⟨h,rfl⟩
  | update => exact ⟨h,rfl⟩
  | act action => exact ⟨h,rfl⟩
  | type field text enter => exact ⟨h,rfl⟩
  | zones directory file => exact ⟨h,rfl⟩

end

/-- In a run of moves an upload goes its own way, and the calls on it are those that it makes. -/
theorem exists_goes {f : Fleet} {i : Nat} {u : Underway} (h : f.underway[i]? = some u)
    (moves : List Move) : ∃ v, (moves.foldl (step url target) f).underway[i]? = some v ∧
      v.started = u.started ∧ u.rest.Goes (f.callsBy url target i moves) v.rest := by
  induction moves generalizing f u with
  | nil => exact ⟨u,h,rfl,.here _⟩
  | cons m ms ih =>
    rw [callsBy]
    by_cases own : ∃ a, m = .advance i a
    case pos =>
      obtain ⟨a,rfl⟩ := own
      obtain ⟨moved,call⟩ := step_own url target h a
      obtain ⟨v,hv,same,goes⟩ := ih moved
      exact ⟨v,hv,same,call ▸ .on a goes⟩
    case neg =>
      obtain ⟨kept,idle⟩ := step_other url target h (not_exists.1 own)
      obtain ⟨v,hv,same,goes⟩ := ih kept
      exact ⟨v,hv,same,idle ▸ goes⟩

/-- An upload that has just begun creates its own bundle and no other, whatever moves are made, and has
created it when it is over. -/
theorem creations_of_begun {f : Fleet} {i : Nat} {u : Started}
    (h : f.underway[i]? = some ⟨u,.ofUpload url target u.pending⟩) (moves : List Move) :
    creations (f.callsBy url target i moves) <+: [(target,u.pending.metadata)] ∧
      ∀ v final, (moves.foldl (step url target) f).underway[i]? = some v → v.rest = .ended final →
        creations (f.callsBy url target i moves) = [(target,u.pending.metadata)] := by
  obtain ⟨v,there,-,goes⟩ := exists_goes url target h moves
  obtain ⟨atMost,whole⟩ := Course.creations_of_goes goes
  refine ⟨atMost,fun w final here ended => whole final ?_⟩
  obtain rfl : v = w := Option.some.inj (there.symm.trans here)
  exact ended

end Fleet
end WorksheetUpload
