import WorksheetUpload.Proofs.Fleet.Basic

/-! What an upload has to tell can reach the widget in pieces of any length, each told without anything
else in between. What an upload run by itself tells is one of the ways it has. -/
namespace WorksheetUpload

/-- What a course tells, run by itself, is one of its ways. -/
theorem Course.leads_run (service : Service σ) (tree : FileTree) (c : Course) (s : σ) :
    c.Leads (c.run service tree s).events (c.run service tree s).final := by
  induction c generalizing s with
  | ended final => exact .ended final
  | tell e rest ih => exact .tell (ih s)
  | create target metadata next ih => exact .create _ (ih _ _)
  | read file next ih => exact .read tree (ih _ s)
  | upload handle params contents next ih => exact .upload _ (ih _ _)

theorem Course.ofUpload_leads (service : Service σ) (tree : FileTree) (target : Target)
    (p : PendingUpload) (s : σ) :
    (ofUpload service.contentsUrl target p).Leads
      (Flow.run service tree target (some p) s).events
      (Flow.run service tree target (some p) s).final := by
  rw [← run_ofUpload]
  exact leads_run service tree _ s

namespace Fleet

variable (url : Handle → String) (target : Target)

/-- Moves lead from one fleet to another. -/
def Reaches (f g : Fleet) : Prop := ∃ moves : List Move, moves.foldl (step url target) f = g

namespace Reaches

variable {url target} {f g k : Fleet}

theorem refl (f : Fleet) : f.Reaches url target f := ⟨[],rfl⟩

theorem move (f : Fleet) (m : Move) : f.Reaches url target (f.step url target m) := ⟨[m],rfl⟩

theorem trans (first : f.Reaches url target g) (second : g.Reaches url target k) :
    f.Reaches url target k := by
  obtain ⟨early,rfl⟩ := first
  obtain ⟨late,rfl⟩ := second
  exact ⟨early ++ late,List.foldl_append⟩

end Reaches

/-- The fleet when an upload in it has told some events, and what remains of it. -/
def telling (f : Fleet) (i : Nat) (u : Started) (es : List Event) (rest : Course) : Fleet :=
  {f with
    widget := f.widget.receiveAll (es.map (.ofEvent u.attempt))
    underway := f.underway.set i ⟨u,rest⟩}

theorem telling_telling (f : Fleet) (i : Nat) (u : Started) (es later : List Event)
    (rest last : Course) :
    (f.telling i u es rest).telling i u later last = f.telling i u (es ++ later) last := by
  simp [telling,Widget.receiveAll]

section

variable {f : Fleet} {i : Nat} {u : Started} {c : Course} (there : f.underway[i]? = some ⟨u,c⟩)
include there

theorem telling_nil : f.telling i u [] c = f := by
  obtain ⟨within,same⟩ := List.getElem?_eq_some_iff.1 there
  simp [telling,Widget.receiveAll,← same]

theorem telling_there (es : List Event) (rest : Course) :
    (f.telling i u es rest).underway[i]? = some ⟨u,rest⟩ :=
  List.getElem?_set_self (List.getElem?_eq_some_iff.1 there).1

theorem step_advance (a : Answers) :
    f.step url target (.advance i a) = f.telling i u (c.step a).1.toList (c.step a).2 := by
  simp [step,telling,there]

theorem step_advance_there (a : Answers) :
    (f.step url target (.advance i a)).underway[i]? = some ⟨u,(c.step a).2⟩ := by
  rw [step_advance url target there]
  exact telling_there there _ _

/-- What an upload can tell from its next step on, it can tell behind that step. -/
theorem told_of_step (a : Answers) {ahead es : List Event} {final : Phase}
    (next : ∃ rest, rest.Leads ahead final ∧ (f.step url target (.advance i a)).Reaches url target
      ((f.step url target (.advance i a)).telling i u es rest)) :
    ∃ rest, rest.Leads ahead final ∧
      f.Reaches url target (f.telling i u ((c.step a).1.toList ++ es) rest) := by
  obtain ⟨rest,way,led⟩ := next
  refine ⟨rest,way,?_⟩
  rw [← telling_telling,← step_advance url target there]
  exact (Reaches.move f _).trans led

/-- An upload can tell any number of the events on one of its ways, with nothing else in between. -/
theorem exists_told {es : List Event} {final : Phase} (way : c.Leads es final) (n : Nat) :
    ∃ rest, rest.Leads (es.drop n) final ∧
      f.Reaches url target (f.telling i u (es.take n) rest) := by
  let idle : Answers := ⟨.ok ⟨""⟩,.empty,.ok ()⟩
  induction way generalizing n f with
  | ended final =>
    refine ⟨Course.ended final,?_,?_⟩
    · rw [List.drop_nil]
      exact .ended final
    · rw [List.take_nil,telling_nil there]
      exact .refl f
  | tell way ih => cases n with
    | zero =>
      refine ⟨_,.tell way,?_⟩
      rw [List.take_zero,telling_nil there]
      exact .refl f
    | succ n =>
      exact told_of_step url target there idle (ih (step_advance_there url target there idle) n)
  | create answer way ih =>
    let a := {idle with creation := answer}
    exact told_of_step url target there a (ih (step_advance_there url target there a) n)
  | read tree way ih =>
    let a := {idle with tree}
    exact told_of_step url target there a (ih (step_advance_there url target there a) n)
  | upload answer way ih =>
    let a := {idle with upload := answer}
    exact told_of_step url target there a (ih (step_advance_there url target there a) n)

end

end Fleet

end WorksheetUpload
