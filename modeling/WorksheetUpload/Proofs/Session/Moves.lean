import Mathlib.Data.List.Forall2
import Mathlib.Logic.Relation
import WorksheetUpload.Proofs.Fleet.Drops
import WorksheetUpload.Proofs.Fleet.Telling

/-! Sessions as runs of moves. A session runs an upload at once and holds back what it tells; a fleet
lets it make its steps when they are delivered. Both show the same at any time, so that what holds of
all runs of moves holds of all sessions. -/
namespace WorksheetUpload

/-- What is held back of an upload is what it has still to tell, on one of its ways. -/
def Underway.Tells (u : Underway) (held : Nat × List Notice) : Prop :=
  ∃ es final, u.rest.Leads es final ∧
    held = (u.started.attempt,es.map (.ofEvent u.started.attempt))

/-- Where keys count the entries, looking one up is going to its place. -/
theorem lookup_of_numbered {l : List (Nat × α)} {n : Nat}
    (numbered : ∀ (i : Nat) (p : Nat × α), l[i]? = some p → p.1 = n+i) (k : Nat) :
    l.lookup (n+k) = l[k]?.map (·.2) := by
  induction l generalizing n k with
  | nil => rfl
  | cons p l ih =>
    obtain ⟨key,entry⟩ := p
    obtain rfl : key = n := numbered 0 _ rfl
    cases k with
    | zero => exact List.lookup_cons_self
    | succ k =>
      have apart : (key+(k+1) == key) = false := by simp
      have next (i : Nat) (p : Nat × α) (h : l[i]? = some p) : p.1 = key+1+i := by
        rw [numbered (i+1) p h]
        omega
      rw [List.lookup_cons,apart,List.getElem?_cons_succ,← ih next k,Nat.add_right_comm,
        Nat.add_assoc]

namespace Session

variable {e : Setting σ} {s : Session σ} {f : Fleet}

/-- A session shows what a fleet shows that some moves led to, and holds back what the uploads of the
fleet have still to tell. -/
structure Follows (e : Setting σ) (s : Session σ) (f : Fleet) : Prop where
  reached : Fleet.initial.Reaches e.service.contentsUrl e.target f
  widget : s.widget = f.widget
  held : List.Forall₂ Underway.Tells f.underway s.held

/-- Moves lead on to a fleet that the session follows. -/
def Continues (e : Setting σ) (s : Session σ) (f : Fleet) : Prop :=
  ∃ g, f.Reaches e.service.contentsUrl e.target g ∧ s.Follows e g

theorem Continues.trans {s' : Session σ} (first : s.Continues e f)
    (second : ∀ {g}, s.Follows e g → s'.Continues e g) : s'.Continues e f := by
  obtain ⟨g,led,follows⟩ := first
  obtain ⟨k,on,follows⟩ := second follows
  exact ⟨k,led.trans on,follows⟩

theorem follows_start (e : Setting σ) (state : σ) : (start state).Follows e Fleet.initial :=
  ⟨.refl _,rfl,.nil⟩

namespace Follows

theorem continues (h : s.Follows e f) : s.Continues e f := ⟨f,.refl f,h⟩

theorem onward (h : s.Follows e f) {g : Fleet} {s' : Session σ}
    (led : f.Reaches e.service.contentsUrl e.target g) (widget : s'.widget = g.widget)
    (held : List.Forall₂ Underway.Tells g.underway s'.held) : s'.Continues e f :=
  ⟨g,led,h.reached.trans led,widget,held⟩

theorem numbers (h : s.Follows e f) {i : Nat} {u : Underway} (there : f.underway[i]? = some u) :
    u.started.attempt = i := by
  obtain ⟨moves,rfl⟩ := h.reached
  obtain ⟨sent,sound⟩ := Fleet.run_sound e.service.contentsUrl e.target moves
  exact sound.comes.numbers i u there

/-- What is held back at a place is what the upload at that place has still to tell. -/
theorem tells (h : s.Follows e f) {i : Nat} {u : Underway} {p : Nat × List Notice}
    (under : f.underway[i]? = some u) (waiting : s.held[i]? = some p) : u.Tells p := by
  obtain ⟨within,rfl⟩ := List.getElem?_eq_some_iff.1 under
  obtain ⟨within',rfl⟩ := List.getElem?_eq_some_iff.1 waiting
  exact (List.forall₂_iff_get.1 h.held).2 i within within'

/-- What is held back stands in the order of the numbers. -/
theorem key_eq (h : s.Follows e f) {i : Nat} {p : Nat × List Notice} (there : s.held[i]? = some p) :
    p.1 = i := by
  have within : i < f.underway.length :=
    h.held.length_eq.symm ▸ (List.getElem?_eq_some_iff.1 there).1
  have under : f.underway[i]? = some f.underway[i] := List.getElem?_eq_getElem within
  obtain ⟨es,final,-,same⟩ := h.tells under there
  exact (congrArg Prod.fst same).trans (h.numbers under)

theorem lookup_held (h : s.Follows e f) (attempt : Nat) :
    s.held.lookup attempt = s.held[attempt]?.map (·.2) := by
  have numbered (i : Nat) (p : Nat × List Notice) (there : s.held[i]? = some p) : p.1 = 0+i := by
    rw [h.key_eq there,Nat.zero_add]
  simpa using lookup_of_numbered numbered attempt

theorem held_of_underway (h : s.Follows e f) {i : Nat} {u : Underway}
    (there : f.underway[i]? = some u) :
    ∃ es final, u.rest.Leads es final ∧
      s.held.lookup i = some (es.map (.ofEvent u.started.attempt)) := by
  have within : i < s.held.length := h.held.length_eq ▸ (List.getElem?_eq_some_iff.1 there).1
  have waiting : s.held[i]? = some s.held[i] := List.getElem?_eq_getElem within
  obtain ⟨es,final,way,same⟩ := h.tells there waiting
  refine ⟨es,final,way,?_⟩
  rw [h.lookup_held,waiting]
  exact congrArg (some ·.2) same

theorem update (h : s.Follows e f) : s.update.Continues e f :=
  h.onward (.move f .update) (congrArg Widget.update h.widget) h.held

/-- When something of one upload is delivered, the others hold back what they held back. -/
theorem held_after (h : s.Follows e f) {attempt n : Nat} {us : List Underway}
    (length : us.length = f.underway.length)
    (others : ∀ i, i ≠ attempt → us[i]? = f.underway[i]?)
    (own : ∀ u ns, us[attempt]? = some u → s.held.lookup attempt = some ns →
      u.Tells (attempt,ns.drop n)) :
    List.Forall₂ Underway.Tells us
      (s.held.map fun p => if p.1 = attempt then (p.1,p.2.drop n) else p) := by
  refine List.forall₂_iff_get.2 ⟨by rw [length,List.length_map,h.held.length_eq],?_⟩
  intro i within within'
  have there : us[i]? = some us[i] := List.getElem?_eq_getElem within
  have waiting : i < s.held.length := List.length_map _ ▸ within'
  have held : s.held[i]? = some s.held[i] := List.getElem?_eq_getElem waiting
  simp only [List.get_eq_getElem,List.getElem_map,h.key_eq held]
  by_cases same : attempt = i
  case pos =>
    subst same
    rw [if_pos rfl]
    refine own _ _ there ?_
    rw [h.lookup_held,held,Option.map_some]
  case neg =>
    rw [if_neg (Ne.symm same)]
    exact h.tells ((others i (Ne.symm same)).symm.trans there) held

/-- Delivering is letting the upload make its steps, and then updating. -/
theorem deliver (h : s.Follows e f) (attempt : Nat) (count : Option Nat) :
    (s.deliver attempt count).1.Continues e f := by
  cases there : f.underway[attempt]? with
  | none =>
    have nothing : s.held.lookup attempt = none := by
      rw [h.lookup_held,List.getElem?_eq_none_iff.2
        (h.held.length_eq ▸ List.getElem?_eq_none_iff.1 there)]
      rfl
    refine h.onward (.move f .update) ?_ (h.held_after rfl (fun _ _ => rfl) ?_)
    · simp [Session.deliver,nothing,Fleet.step,Widget.receiveAll,h.widget]
    · intro u ns away
      cases there.symm.trans away
  | some u =>
    obtain ⟨es,final,way,waiting⟩ := h.held_of_underway there
    let n := (count.map (min es.length)).getD es.length
    obtain ⟨rest,later,led⟩ := Fleet.exists_told e.service.contentsUrl e.target there way n
    refine h.onward (led.trans (.move _ .update)) ?_ (h.held_after ?_ ?_ ?_)
    · simp [Session.deliver,waiting,Fleet.step,Fleet.telling,h.widget,n]
    · exact List.length_set
    · intro i apart
      exact List.getElem?_set_ne apart.symm
    · intro v ns here held
      obtain rfl : v = ⟨u.started,rest⟩ :=
        Option.some.inj (here.symm.trans (Fleet.telling_there there (es.take n) rest))
      obtain rfl : ns = es.map _ := Option.some.inj (held.symm.trans waiting)
      refine ⟨es.drop n,final,later,?_⟩
      simp [List.map_drop,h.numbers there,waiting,n]

/-- Uploads that were begun are run, and all that they have to tell is held back. -/
theorem runStarted_all (e : Setting σ) (started : List Started) (s : Session σ) :
    (started.foldl (runStarted e) s).widget = s.widget ∧ ∃ told,
      (started.foldl (runStarted e) s).held = s.held ++ told ∧
      List.Forall₂ Underway.Tells
        (started.map (Fleet.underwayOf e.service.contentsUrl e.target)) told := by
  induction started generalizing s with
  | nil => exact ⟨rfl,[],(List.append_nil _).symm,.nil⟩
  | cons u us ih =>
    obtain ⟨widget,told,held,tells⟩ := ih (runStarted e s u)
    refine ⟨widget,_ :: told,held.trans (List.append_assoc _ _ _),.cons ?_ tells⟩
    exact ⟨_,_,Course.ofUpload_leads e.service e.tree e.target u.pending s.state,rfl⟩

/-- Where moves begin uploads, the session runs them. -/
theorem begun (h : s.Follows e f) {g : Fleet} (started : List Started)
    (led : f.Reaches e.service.contentsUrl e.target g)
    (underway : g.underway =
      f.underway ++ started.map (Fleet.underwayOf e.service.contentsUrl e.target)) :
    (started.foldl (runStarted e) {s with widget := g.widget}).Continues e f := by
  obtain ⟨widget,told,held,tells⟩ := runStarted_all e started {s with widget := g.widget}
  refine h.onward led widget ?_
  rw [underway,held]
  exact List.rel_append h.held tells

theorem frame (h : s.Follows e f) (frame : Widget.Frame) :
    ((s.frame e frame).2.started.foldl (runStarted e) (s.frame e frame).1).Continues e f := by
  have led := Fleet.exists_moves_of_frame e.service.contentsUrl e.target f e.tree
    Place.directoryRect Place.fileRect frame
  rw [Session.frame,h.widget]
  exact h.begun _ led rfl

theorem settle (h : s.Follows e f) : (s.settle e).Continues e f := h.frame .idle

theorem hover (h : s.Follows e f) (place : Place) (items : List DroppedItem) :
    (s.hover e place items).Continues e f :=
  Continues.trans h.settle fun h => h.frame ⟨place.pointer,!items.isEmpty,[]⟩

theorem capture (h : s.Follows e f) (roots : List Bytes) : (s.capture e roots).Continues e f := by
  refine h.onward (((Fleet.Reaches.move f .update).trans
    (.move _ (.listed (e.tree.filesBelow roots)))).trans (.move _ .update)) ?_ h.held
  simp [Session.capture,Fleet.step,h.widget]

theorem deliverAll (h : s.Follows e f) (started : List Started) :
    (started.foldl (fun s u => (s.deliver u.attempt none).1) s).Continues e f := by
  induction started generalizing s f with
  | nil => exact h.continues
  | cons u us ih => exact (h.deliver u.attempt none).trans fun h => ih h

/-- Files that fall are uploads that are begun in a frame and run to their ends; directories are
listed. -/
theorem drop (h : s.Follows e f) (place : Place) (items : List DroppedItem) :
    (s.drop e place items).Continues e f := by
  refine h.settle.trans fun h => ?_
  have framed := h.frame ⟨place.pointer,false,items⟩
  cases out : (s.settle e).frame e ⟨place.pointer,false,items⟩ with
  | mk t work =>
    simp only [Session.drop,out]
    rw [out] at framed
    cases work with
    | none => exact framed
    | listing roots => exact framed.trans fun h => h.capture roots
    | uploads started => exact framed.trans fun h => h.deliverAll started

/-- Over the directory area a drop is one listing of all the paths, which arrives and is taken in. -/
theorem drop_inside (h : s.Follows e f) {place : Place} {items : List DroppedItem}
    (fell : items ≠ []) (inside : (s.settle e).widget.directoryZone.Holds place.pointer) :
    ∃ directory file, (s.drop e place items).Follows e
      ([Move.update,.zones directory file,
        .listed (e.tree.filesBelow (items.filterMap (·.path))),.update].foldl
          (Fleet.step e.service.contentsUrl e.target) f) := by
  have taken := f.widget.update_queue
  rw [Session.drop_inside e s fell inside,h.widget]
  refine ⟨⟨false,some Place.directoryRect⟩,⟨false,some Place.fileRect⟩,h.reached.trans ⟨_,rfl⟩,?_,
    h.held⟩
  simp only [List.foldl_cons,List.foldl_nil,Fleet.step,Widget.receive,taken]
  rfl

theorem select (h : s.Follows e f) (file : Option SelectedFile) (count : Option Nat) :
    (s.select e file count).1.Continues e f := by
  refine h.update.trans fun {f} h => ?_
  cases file with
  | none => exact h.continues
  | some file =>
    have begun := h.begun [(f.widget.selectFile file).2] (.move f (.select (some file))) rfl
    refine Continues.trans ?_ fun h => h.deliver (s.update.widget.selectFile file).2.attempt count
    rw [h.widget]
    exact begun

/-- A flow that nobody listens to leaves no trace at the widget. -/
theorem runUnheard (h : s.Follows e f) (file : Option SelectedFile) :
    (s.runUnheard e file).1.Continues e f := by
  cases file with
  | none => exact h.continues
  | some file => exact h.onward (.refl f) h.widget h.held

theorem render (h : s.Follows e f) : (s.render e).1.Continues e f := h.settle

theorem click (h : s.Follows e f) (label : String) (nth : Nat) :
    (s.click e label nth).1.Continues e f := by
  refine h.settle.trans fun {f} h => ?_
  cases clicked : Screen.click? e.target.worksheet (s.settle e).widget label nth with
  | none =>
    simp only [Session.click,clicked]
    exact h.continues
  | some widget =>
    simp only [Session.click,clicked]
    obtain ⟨item,-,rfl⟩ := Option.map_eq_some_iff.1 clicked
    have acted : ({s.settle e with widget := Screen.act (s.settle e).widget item.action} :
        Session σ).Continues e f :=
      h.onward (.move f (.act item.action)) (by rw [h.widget]; rfl) h.held
    exact acted.trans fun h => h.settle

theorem type (h : s.Follows e f) (field : Field) (text : String) (enter : Bool) :
    (s.type e field text enter).Continues e f := by
  refine h.settle.trans fun {f} h => ?_
  have typed : ({s.settle e with widget := Screen.type (s.settle e).widget field text enter} :
      Session σ).Continues e f :=
    h.onward (.move f (.type field text enter)) (by rw [h.widget]; rfl) h.held
  exact typed.trans fun h => h.settle

end Follows

/-- What can happen in a session. -/
inductive Step (e : Setting σ) : Session σ → Session σ → Prop
  | update (s : Session σ) : Step e s s.update
  | deliver (s : Session σ) (attempt : Nat) (count : Option Nat) :
      Step e s (s.deliver attempt count).1
  | select (s : Session σ) (file : Option SelectedFile) (count : Option Nat) :
      Step e s (s.select e file count).1
  | unheard (s : Session σ) (file : Option SelectedFile) : Step e s (s.runUnheard e file).1
  | capture (s : Session σ) (roots : List Bytes) : Step e s (s.capture e roots)
  | hover (s : Session σ) (place : Place) (items : List DroppedItem) :
      Step e s (s.hover e place items)
  | drop (s : Session σ) (place : Place) (items : List DroppedItem) :
      Step e s (s.drop e place items)
  | render (s : Session σ) : Step e s (s.render e).1
  | click (s : Session σ) (label : String) (nth : Nat) : Step e s (s.click e label nth).1
  | type (s : Session σ) (field : Field) (text : String) (enter : Bool) :
      Step e s (s.type e field text enter)

theorem Step.continues {s s' : Session σ} (step : Step e s s') (h : s.Follows e f) :
    s'.Continues e f := by
  cases step with
  | update => exact h.update
  | deliver attempt count => exact h.deliver attempt count
  | select file count => exact h.select file count
  | unheard file => exact h.runUnheard file
  | capture roots => exact h.capture roots
  | hover place items => exact h.hover place items
  | drop place items => exact h.drop place items
  | render => exact h.render
  | click label nth => exact h.click label nth
  | type field text enter => exact h.type field text enter

/-- Whatever happens in a session, moves from where it stood lead to where it stands. -/
theorem Follows.run (h : s.Follows e f) {s' : Session σ}
    (steps : Relation.ReflTransGen (Step e) s s') : s'.Continues e f := by
  induction steps with
  | refl => exact h.continues
  | tail _ step ih => exact ih.trans step.continues

/-- Every session shows what some run of moves shows, in which the uploads under way have still to
tell what the session holds back. -/
theorem exists_moves {state : σ} (steps : Relation.ReflTransGen (Step e) (start state) s) :
    ∃ moves, s.widget = (Fleet.run e.service.contentsUrl e.target moves).widget ∧
      List.Forall₂ Underway.Tells
        (Fleet.run e.service.contentsUrl e.target moves).underway s.held := by
  obtain ⟨f,-,⟨moves,rfl⟩,widget,held⟩ := (follows_start e state).run steps
  exact ⟨moves,widget,held⟩

end Session
end WorksheetUpload
