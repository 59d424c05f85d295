import Mathlib.Algebra.BigOperators.Group.Finset.Piecewise
import Mathlib.Algebra.Order.BigOperators.Group.List
import Mathlib.Algebra.Order.Ring.Nat
import WorksheetUpload.Proofs.Fleet.Phases

/-! Alerts and reloads are neither lost nor doubled. An upload tells its end and then one of them, as
two notices that anything may come between, so that they never outnumber the ends that are shown, and
match them once everything has come to rest. -/
namespace WorksheetUpload

/-- Whether a notice came from an upload and tells an event of some kind. -/
def Sent.tells (p : Event → Bool) : Sent → Bool
  | told _ e => p e
  | listed _ => false

/-- Counting what was sent is counting it for each upload. -/
theorem sum_countP_eventsOf (p : Event → Bool) {sent : List Sent} {n : Nat}
    (known : ∀ i e, .told i e ∈ sent → i < n) :
    ∑ i ∈ Finset.range n, (eventsOf i sent).countP p = sent.countP (Sent.tells p) := by
  induction sent with
  | nil => simp [eventsOf]
  | cons s sent ih =>
    have ih := ih fun i e h => known i e (List.mem_cons_of_mem _ h)
    cases s with
    | listed paths => simpa [eventsOf,Sent.eventOf?,Sent.tells,List.filterMap_cons] using ih
    | told j e =>
      have hj : j ∈ Finset.range n := Finset.mem_range.2 (known j e List.mem_cons_self)
      have one (i : Nat) : (eventsOf i (.told j e :: sent)).countP p =
          (eventsOf i sent).countP p + if j = i then (p e).toNat else 0 := by
        by_cases h : j = i
        · cases hp : p e <;> simp [eventsOf,Sent.eventOf?,h,hp]
        · simp [eventsOf,Sent.eventOf?,h]
      rw [Finset.sum_congr rfl fun i _ => one i,Finset.sum_add_distrib,ih,Finset.sum_ite_eq,
        if_pos hj,List.countP_cons]
      cases hp : p e <;> simp [Sent.tells,hp]

theorem countP_eq_sum_toNat (p : α → Bool) (l : List α) :
    l.countP p = (l.map fun a => (p a).toNat).sum := by
  induction l with
  | nil => rfl
  | cons a l ih =>
    rw [List.countP_cons,List.map_cons,List.sum_cons,ih,Nat.add_comm]
    cases p a <;> rfl

theorem count_reload_notices (sent : List Sent) :
    (sent.map Sent.notice).count .reload = sent.countP (Sent.tells (· == .reload)) := by
  rw [List.count,List.countP_map]
  congr 1
  funext s
  cases s with
  | told i e => cases e <;> rfl
  | listed paths => rfl

theorem length_alerts_notices (sent : List Sent) :
    ((sent.map Sent.notice).filterMap Notice.alert?).length =
      sent.countP (Sent.tells Event.isAlert) := by
  rw [List.length_filterMap_eq_countP,List.countP_map]
  congr 1
  funext s
  cases s with
  | told i e => cases e <;> rfl
  | listed paths => rfl

namespace Fleet

variable {url : Handle → String} {target : Target}

namespace Sound

variable {f : Fleet} {sent : List Sent}

/-- Counting what was told until some moment is counting it for each attempt. -/
theorem countP_tells (h : f.Sound url target sent) (p : Event → Bool) {past : List Sent}
    (hp : past <+: sent) :
    past.countP (Sent.tells p) =
      (f.widget.uploads.attempts.map fun a => (eventsOf a.id past).countP p).sum := by
  rw [← sum_countP_eventsOf p fun i e hi => h.comes.known i e (hp.subset hi)]
  have hm : f.widget.uploads.attempts.map (fun a => (eventsOf a.id past).countP p) =
      (List.range f.underway.length).map fun i => (eventsOf i past).countP p := by
    rw [← h.ids,List.map_map]; rfl
  rw [hm]
  rfl

/-- What was told under the number of an attempt, as far as it was taken in, is what an upload in its
phase may have told. -/
theorem told_of_attempt (h : f.Sound url target sent) {past coming : List Sent}
    (hs : sent = past ++ coming) (ht : past.map Sent.notice = f.taken) {a : Attempt}
    (ha : a ∈ f.widget.uploads.attempts) : ∃ due, Told (eventsOf a.id past) a.phase due := by
  obtain ⟨u,hu,-⟩ := h.underway_of_attempt ha
  obtain ⟨p,due,hp⟩ := h.comes.told hu ⟨coming,hs.symm⟩
  rw [h.shows.phases a ha,← ht,phasesOf_notices,hp.lastOf_phases]
  exact ⟨due,hp⟩

variable {e : Event → Bool} {q : Phase → Bool}
  (one : ∀ {es p due}, Told es p due → es.countP e = (q p && !due).toNat)
include one

/-- Where an event follows a phase and is told once for it, the attempts that show such a phase are
no fewer than the events taken in. -/
theorem countP_tells_le (h : f.Sound url target sent) {past coming : List Sent}
    (hs : sent = past ++ coming) (ht : past.map Sent.notice = f.taken) :
    past.countP (Sent.tells e) ≤ f.widget.uploads.attempts.countP fun a => q a.phase := by
  rw [h.countP_tells _ ⟨coming,hs.symm⟩,countP_eq_sum_toNat]
  refine List.sum_le_sum fun a ha => ?_
  obtain ⟨due,hd⟩ := h.told_of_attempt hs ht ha
  rw [one hd]
  cases q a.phase <;> cases due <;> decide

/-- When all is told and taken in, they are as many. -/
theorem countP_tells_eq (h : f.Sound url target sent)
    (hall : ∀ u ∈ f.underway, ∃ final, u.rest = .ended final) (hq : f.widget.queue = []) :
    sent.countP (Sent.tells e) = f.widget.uploads.attempts.countP fun a => q a.phase := by
  rw [h.countP_tells _ (List.prefix_refl sent),countP_eq_sum_toNat]
  refine congrArg List.sum (List.map_congr_left fun a ha => ?_)
  obtain ⟨-,-,-,ht,-⟩ := h.settled hall hq ha
  rw [one ht,Bool.not_false,Bool.and_true]

end Sound

variable (url target)

/-- Whatever the order of things: what was sent is what was taken in and then what waits, and under the
number of each upload it is what that upload tells on its way so far; the owner was told to reload as
often as is counted, and once for each reload taken in; the alerts put away and those still there are
the alerts taken in, in order, and the user puts away the first; they never outnumber the failures
shown, nor the reloads the successes; and when all uploads have ended and all notices are taken in, they
are as many. -/
theorem alerts_and_reloads_accounted (moves : List Move) :
    let f := run url target moves
    let dismissing := run url target (moves ++ [.act .dismiss])
    (∃ sent : List Sent, sent.map Sent.notice = f.taken ++ f.widget.queue ∧
      (∀ i e, .told i e ∈ sent → i < f.underway.length) ∧
      ∀ i u, f.underway[i]? = some u → ∀ es final, u.rest.Leads es final →
        (Course.ofUpload url target u.started.pending).Leads (eventsOf i sent ++ es) final) ∧
    f.widget.reloadCalls = f.widget.uploads.reloads ∧
    f.widget.uploads.reloads = f.taken.count .reload ∧
    f.dismissed ++ f.widget.uploads.alerts = f.taken.filterMap Notice.alert? ∧
    (∀ text rest, f.widget.uploads.alerts = text :: rest →
      dismissing.dismissed = f.dismissed ++ [text] ∧ dismissing.widget.uploads.alerts = rest) ∧
    f.widget.uploads.reloads ≤ f.widget.uploads.completed ∧
    f.dismissed.length + f.widget.uploads.alerts.length ≤ f.widget.uploads.failed ∧
    ((∀ u ∈ f.underway, ∃ final, u.rest = .ended final) → f.widget.queue = [] →
      f.widget.uploads.reloads = f.widget.uploads.completed ∧
      f.dismissed.length + f.widget.uploads.alerts.length = f.widget.uploads.failed) := by
  intro f dismissing
  obtain ⟨sent,h⟩ : ∃ sent, f.Sound url target sent := run_sound url target moves
  obtain ⟨past,coming,hs,ht,hc⟩ := List.map_eq_append_iff.1 h.comes.notices
  have reloads : f.widget.uploads.reloads = past.countP (Sent.tells (· == .reload)) := by
    rw [h.shows.reloads,← ht,count_reload_notices]
  have alerts : f.dismissed.length + f.widget.uploads.alerts.length =
      past.countP (Sent.tells Event.isAlert) := by
    rw [← List.length_append,h.shows.alerts,← ht,length_alerts_notices]
  refine ⟨⟨sent,h.comes.notices,h.comes.known,h.comes.ways⟩,
    h.shows.calls.trans h.shows.reloads.symm,h.shows.reloads,h.shows.alerts,?_,?_,?_,?_⟩
  · intro text rest hl
    have hd : dismissing = step url target f (.act .dismiss) :=
      run_append_singleton url target moves _
    rw [hd]
    simp [step,Screen.act,Uploads.dismiss,putAway,hl]
  · rw [reloads]
    exact h.countP_tells_le Told.reloads hs ht
  · rw [alerts]
    exact h.countP_tells_le Told.alerts hs ht
  · intro hall hq
    obtain rfl : coming = [] := List.map_eq_nil_iff.1 (hc.trans hq)
    rw [List.append_nil] at hs
    rw [reloads,alerts,← hs]
    exact ⟨h.countP_tells_eq Told.reloads hall hq,h.countP_tells_eq Told.alerts hall hq⟩

end Fleet
end WorksheetUpload
