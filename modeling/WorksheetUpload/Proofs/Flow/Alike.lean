import WorksheetUpload.Flow

/-! Uploads against services that answer alike. Of the state behind a service nothing shows in an
upload but the answers, so that states may differ in all that no answer depends on. -/
namespace WorksheetUpload

/-- Services that give the same answers in related states, and go on to related states. -/
structure Service.Alike (a : Service σ) (b : Service τ) (R : σ → τ → Prop) : Prop where
  contentsUrl : a.contentsUrl = b.contentsUrl
  create : ∀ target metadata {s t}, R s t →
    (a.create target metadata s).1 = (b.create target metadata t).1 ∧
      R (a.create target metadata s).2 (b.create target metadata t).2
  upload : ∀ h params contents {s t}, R s t →
    (a.upload h params contents s).1 = (b.upload h params contents t).1 ∧
      R (a.upload h params contents s).2 (b.upload h params contents t).2

namespace Flow

/-- What shows of an upload: its end and its steps. -/
def outcome (f : Flow σ) : Phase × List Step := (f.final,f.steps)

/-- Uploads that look the same and leave related states. -/
def Alike (R : σ → τ → Prop) (f : Flow σ) (g : Flow τ) : Prop :=
  f.outcome = g.outcome ∧ R f.state g.state

variable {R : σ → τ → Prop} {a : Service σ} {b : Service τ} {s : σ} {t : τ}

theorem Alike.after {f : Flow σ} {g : Flow τ} (h : f.Alike R g) (steps : List Step) :
    (f.after steps).Alike R (g.after steps) := by
  obtain ⟨ho,hs⟩ := h
  obtain ⟨hf,ht⟩ := Prod.mk.inj ho
  exact ⟨Prod.ext hf (congrArg (steps ++ ·) ht),hs⟩

theorem putContents_alike (h : a.Alike b R) (tree : FileTree) (file : SelectedFile)
    (handle : Handle) (hs : R s t) :
    (putContents a tree file handle s).Alike R (putContents b tree file handle t) := by
  unfold putContents
  cases hr : file.read tree with
  | error fault =>
    simp only [h.contentsUrl]
    exact ⟨rfl,hs⟩
  | ok contents =>
    obtain ⟨ha,hn⟩ := h.upload handle (.ofFileName file.name) contents hs
    simp only [ha]
    refine Alike.after ?_ _
    cases (b.upload handle (.ofFileName file.name) contents t).1 with
    | error e => exact ⟨rfl,hn⟩
    | ok _ => exact ⟨rfl,hn⟩

theorem run_alike (h : a.Alike b R) (tree : FileTree) (target : Target)
    (pending : Option PendingUpload) (hs : R s t) :
    (run a tree target pending s).Alike R (run b tree target pending t) := by
  cases pending with
  | none => exact ⟨rfl,hs⟩
  | some p =>
    obtain ⟨ha,hn⟩ := h.create target p.metadata hs
    simp only [run,ha]
    refine Alike.after ?_ _
    cases (b.create target p.metadata t).1 with
    | error e => exact ⟨rfl,hn⟩
    | ok handle => exact (putContents_alike h tree p.file handle hn).after _

/-- Alike uploads one after another are alike. -/
theorem runAll_alike (h : a.Alike b R) (tree : FileTree) (target : Target)
    (ps : List (Option PendingUpload)) (hs : R s t) :
    (runAll a tree target ps s).1.map outcome = (runAll b tree target ps t).1.map outcome ∧
      R (runAll a tree target ps s).2 (runAll b tree target ps t).2 := by
  induction ps generalizing s t with
  | nil => exact ⟨rfl,hs⟩
  | cons p ps ih =>
    obtain ⟨ho,hn⟩ := run_alike h tree target p hs
    obtain ⟨hr,hl⟩ := ih hn
    exact ⟨by simp only [runAll,List.map_cons,ho,hr],hl⟩

/-- What every call keeps, uploads keep. -/
theorem runAll_keeps {P : σ → Prop}
    (create : ∀ target metadata {s}, P s → P (a.create target metadata s).2)
    (upload : ∀ h params contents {s}, P s → P (a.upload h params contents s).2)
    (tree : FileTree) (target : Target) (ps : List (Option PendingUpload)) (hs : P s) :
    P (runAll a tree target ps s).2 := by
  have alike : a.Alike a fun s t => s = t ∧ P s := by
    refine ⟨rfl,?_,?_⟩
    · rintro target metadata s _ ⟨rfl,h⟩
      exact ⟨rfl,rfl,create target metadata h⟩
    · rintro handle params contents s _ ⟨rfl,h⟩
      exact ⟨rfl,rfl,upload handle params contents h⟩
  exact (runAll_alike alike tree target ps ⟨rfl,hs⟩).2.2

variable {p : PendingUpload} {tree : FileTree} {target : Target}

end Flow
end WorksheetUpload
