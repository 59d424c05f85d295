import WorksheetUpload.Proofs.Fleet.Sent

/-! The attempts of a widget, whatever order things happen in. Each is there under its number from the
moment its file was selected, shows its own phase told last, goes forward only, and in the end shows
what its upload returned. -/
namespace WorksheetUpload

namespace Fleet

variable {url : Handle → String} {target : Target}

namespace Comes

variable {f : Fleet} {sent : List Sent} {i : Nat} {u : Underway}

/-- What an upload told until some moment is what an upload may have told. -/
theorem told (h : f.Comes url target sent) (hu : f.underway[i]? = some u) {early : List Sent}
    (he : early <+: sent) : ∃ p due, Told (eventsOf i early) p due := by
  obtain ⟨es,final,hl⟩ := u.rest.exists_leads
  obtain ⟨late,rfl⟩ := he
  have ht := (Course.told_of_leads (h.ways i u hu es final hl)).1
  rw [eventsOf_append,List.append_assoc] at ht
  obtain ⟨p,due,hp,-⟩ := ht.before
  exact ⟨p,due,hp⟩

/-- When an upload has ended, it told all that it had to tell. -/
theorem told_all (h : f.Comes url target sent) (hu : f.underway[i]? = some u) {final : Phase}
    (hr : u.rest = .ended final) :
    Told (eventsOf i sent) final false ∧ final.isFinished = true ∧
      ∃ (service : Service Unit) (tree : FileTree), service.contentsUrl = url ∧
        (Flow.run service tree target (some u.started.pending) ()).final = final := by
  have hl := h.ways i u hu [] final (hr ▸ .ended final)
  rw [List.append_nil] at hl
  obtain ⟨ht,hf⟩ := Course.told_of_leads hl
  obtain ⟨service,tree,hs,-,hp⟩ := Course.run_of_leads hl
  exact ⟨ht,hf,service,tree,hs,hp⟩

/-- Phases that were taken in early come before those taken in since. -/
theorem reaches (h : f.Comes url target sent) (hu : f.underway[i]? = some u)
    {early : List Notice} (he : early <+: f.taken) :
    (lastOf (phasesOf i early)).Reaches (lastOf (phasesOf i f.taken)) := by
  obtain ⟨late,hl⟩ := he
  obtain ⟨past,coming,rfl,hp,-⟩ := List.map_eq_append_iff.1 h.notices
  obtain ⟨first,second,rfl,rfl,-⟩ := List.map_eq_append_iff.1 (hp.trans hl.symm)
  obtain ⟨q,due,hq⟩ := h.told hu ⟨coming,rfl⟩
  rw [← hp,phasesOf_notices,phasesOf_notices,hq.lastOf_phases]
  rw [eventsOf_append] at hq
  obtain ⟨p,due',hp,hr⟩ := hq.before
  rwa [hp.lastOf_phases]

end Comes

namespace Sound

variable {f : Fleet} {sent : List Sent}

/-- The attempts are the uploads under way, numbered from nothing. -/
theorem ids (h : f.Sound url target sent) :
    f.widget.uploads.attempts.map (·.id) = List.range f.underway.length :=
  h.comes.nextId ▸ h.shows.ids

theorem underway_of_attempt (h : f.Sound url target sent) {a : Attempt}
    (ha : a ∈ f.widget.uploads.attempts) :
    ∃ u, f.underway[a.id]? = some u ∧ u.started.pending.file.name = a.fileName := by
  obtain ⟨k,hk⟩ := List.mem_iff_getElem?.1 ha
  have hi : (List.range f.underway.length)[k]? = some a.id := by
    rw [← h.ids,List.getElem?_map,hk]; rfl
  have hf : (f.underway.map (·.started.pending.file.name))[k]? = some a.fileName := by
    rw [← h.comes.names,List.getElem?_map,hk]; rfl
  obtain ⟨u,hu,hn⟩ := Option.map_eq_some_iff.1 (List.getElem?_map ▸ hf)
  obtain ⟨hlt,hid⟩ := List.getElem?_eq_some_iff.1 hi
  rw [List.getElem_range] at hid
  exact ⟨u,hid ▸ hu,hn⟩

theorem attempt_of_underway (h : f.Sound url target sent) {i : Nat} {u : Underway}
    (hu : f.underway[i]? = some u) :
    ∃ a ∈ f.widget.uploads.attempts, a.id = i ∧ a.fileName = u.started.pending.file.name := by
  have hlt : i < f.underway.length := (List.getElem?_eq_some_iff.1 hu).1
  have hi : (f.widget.uploads.attempts.map (·.id))[i]? = some i := by
    rw [h.ids,List.getElem?_range hlt]
  obtain ⟨a,ha,hai⟩ := Option.map_eq_some_iff.1 (List.getElem?_map ▸ hi)
  have hf : (f.widget.uploads.attempts.map (·.fileName))[i]? = some u.started.pending.file.name := by
    rw [h.comes.names,List.getElem?_map,hu]; rfl
  rw [List.getElem?_map,ha] at hf
  exact ⟨a,List.mem_of_getElem? ha,hai,Option.some.inj hf⟩

/-- When all uploads have ended and all notices are taken in, each attempt shows what its upload
returned, and nothing is due. -/
theorem settled (h : f.Sound url target sent)
    (hall : ∀ u ∈ f.underway, ∃ final, u.rest = .ended final) (hq : f.widget.queue = [])
    {a : Attempt} (ha : a ∈ f.widget.uploads.attempts) :
    ∃ u, f.underway[a.id]? = some u ∧ u.rest = .ended a.phase ∧
      Told (eventsOf a.id sent) a.phase false ∧ a.phase.isFinished = true ∧
      ∃ (service : Service Unit) (tree : FileTree), service.contentsUrl = url ∧
        (Flow.run service tree target (some u.started.pending) ()).final = a.phase := by
  obtain ⟨u,hu,-⟩ := h.underway_of_attempt ha
  obtain ⟨final,hr⟩ := hall u (List.mem_of_getElem? hu)
  obtain ⟨ht,hf,hrun⟩ := h.comes.told_all hu hr
  have hp : a.phase = final := by
    rw [h.shows.phases a ha,← ht.lastOf_phases,← phasesOf_notices,h.comes.notices,hq,
      List.append_nil]
  exact ⟨u,hu,hp ▸ hr,hp ▸ ht,hp ▸ hf,hp ▸ hrun⟩

end Sound

variable (url target)

theorem run_sound (moves : List Move) : ∃ sent, (run url target moves).Sound url target sent := by
  induction moves using List.reverseRecOn with
  | nil => exact ⟨[],.initial,.initial⟩
  | append_singleton moves m ih =>
    obtain ⟨sent,h⟩ := ih
    obtain ⟨later,hl⟩ := h.step m
    exact ⟨sent ++ later,run_append_singleton url target moves m ▸ hl⟩

/-- What was taken in stays taken in. -/
theorem taken_grows (moves later : List Move) :
    (run url target moves).taken <+: (run url target (moves ++ later)).taken := by
  induction later using List.reverseRecOn with
  | nil => simp only [List.append_nil,List.prefix_refl]
  | append_singleton later m ih =>
    rw [← List.append_assoc,run_append_singleton]
    refine ih.trans ?_
    cases m with
    | select file => cases file <;> exact List.prefix_refl _
    | advance index a =>
      simp only [step]
      split <;> exact List.prefix_refl _
    | update => exact List.prefix_append _ _
    | listed paths => exact List.prefix_refl _
    | act action => exact List.prefix_refl _
    | type field text enter => exact List.prefix_refl _
    | zones directory file => exact List.prefix_refl _

/-- The uploads under way are those of the selected files, in order. -/
theorem underway_files (moves : List Move) :
    (run url target moves).underway.map (·.started.pending.file) = selections moves := by
  induction moves using List.reverseRecOn with
  | nil => rfl
  | append_singleton moves m ih =>
    rw [run_append_singleton,selections,List.filterMap_append,← selections,← ih]
    cases m with
    | select file => cases file <;> simp [step,Widget.selectFile,Form.pending]
    | advance index a =>
      simp only [step]
      split
      case h_1 => simp
      case h_2 u hu => simpa using map_set_eq _ hu rfl
    | update => simp [step]
    | listed paths => simp [step]
    | act action => simp [step]
    | type field text enter => simp [step]
    | zones directory file => simp [step]

theorem selections_append (moves later : List Move) :
    selections (moves ++ later) = selections moves ++ selections later := List.filterMap_append

/-- An attempt stays under its number and name, and its phase goes forward. -/
theorem attempt_later (moves later : List Move) {a : Attempt}
    (ha : a ∈ (run url target moves).widget.uploads.attempts) :
    ∃ b ∈ (run url target (moves ++ later)).widget.uploads.attempts,
      b.id = a.id ∧ b.fileName = a.fileName ∧ a.phase.Reaches b.phase := by
  obtain ⟨sent,h⟩ := run_sound url target moves
  obtain ⟨sent',h'⟩ := run_sound url target (moves ++ later)
  obtain ⟨u,hu,hn⟩ := h.underway_of_attempt ha
  have hv : ((run url target (moves ++ later)).underway.map (·.started.pending.file))[a.id]? =
      some u.started.pending.file := by
    rw [underway_files,selections_append,← underway_files url target moves,List.getElem?_append_left,
      List.getElem?_map,hu]
    · rfl
    · simpa using (List.getElem?_eq_some_iff.1 hu).1
  obtain ⟨v,hv,hf⟩ := Option.map_eq_some_iff.1 (List.getElem?_map ▸ hv)
  obtain ⟨b,hb,hi,hm⟩ := h'.attempt_of_underway hv
  refine ⟨b,hb,hi,by rw [hm,hf,hn],?_⟩
  rw [h.shows.phases a ha,h'.shows.phases b hb,hi]
  exact h'.comes.reaches hv (taken_grows url target moves later)

/-- Whatever the order of selections, steps of uploads and updates: the attempts are the selected
files in order, numbered from nothing; each shows the phase that was taken in last under its own
number; each goes forward only, with one handle, and never leaves an end; and when all uploads have
ended and all notices are taken in, none is in flight, and each shows what its upload returned. -/
theorem attempts_follow_uploads (moves later : List Move) :
    let f := run url target moves
    let g := run url target (moves ++ later)
    (f.widget.uploads.attempts.map (·.fileName) = (selections moves).map (·.name) ∧
      f.widget.uploads.attempts.map (·.id) = List.range (selections moves).length) ∧
    (∀ a ∈ f.widget.uploads.attempts, a.phase = lastOf (phasesOf a.id f.taken)) ∧
    (∀ a ∈ f.widget.uploads.attempts, ∃ b ∈ g.widget.uploads.attempts,
      b.id = a.id ∧ b.fileName = a.fileName ∧ a.phase.Reaches b.phase ∧
        (a.phase.isFinished = true → b.phase = a.phase)) ∧
    ((∀ u ∈ f.underway, ∃ final, u.rest = .ended final) → f.widget.queue = [] →
      f.widget.uploads.inFlight = 0 ∧
      ∀ a ∈ f.widget.uploads.attempts, ∃ u ∈ f.underway, u.started.attempt = a.id ∧
        u.rest = .ended a.phase ∧
        ∃ (service : Service Unit) (tree : FileTree), service.contentsUrl = url ∧
          (Flow.run service tree target (some u.started.pending) ()).final = a.phase) := by
  intro f g
  obtain ⟨sent,h⟩ : ∃ sent, f.Sound url target sent := run_sound url target moves
  have hfiles : f.underway.map (·.started.pending.file) = selections moves :=
    underway_files url target moves
  refine ⟨⟨?_,?_⟩,h.shows.phases,?_,?_⟩
  · rw [h.comes.names,← hfiles,List.map_map]; rfl
  · rw [h.ids,← hfiles,List.length_map]
  · intro a ha
    obtain ⟨b,hb,hi,hn,hr⟩ := attempt_later url target moves later ha
    exact ⟨b,hb,hi,hn,hr,hr.eq_of_finished⟩
  · intro hall hq
    constructor
    · rw [Uploads.inFlight,List.countP_eq_zero]
      intro a ha
      obtain ⟨u,-,-,-,hf,-⟩ := h.settled hall hq ha
      simp [hf]
    · intro a ha
      obtain ⟨u,hu,hr,-,-,hrun⟩ := h.settled hall hq ha
      exact ⟨u,List.mem_of_getElem? hu,h.comes.numbers _ u hu,hr,hrun⟩

/-- The second upload may overtake the first, and its phases stay its own. -/
example :
    let answers : Answers := ⟨.ok ⟨"0x1"⟩,.empty,.ok ()⟩
    let both : List Move :=
      [.select (some (.ofContents "a" [])),.select (some (.ofContents "b" []))]
    (run (·.text) ⟨"w",none⟩ (both ++ .advance 0 answers ::
      List.replicate 3 (.advance 1 answers) ++ [.update])).widget.uploads.attempts.map (·.phase) =
        [.requested,.created ⟨"0x1"⟩] := by decide

end Fleet
end WorksheetUpload
