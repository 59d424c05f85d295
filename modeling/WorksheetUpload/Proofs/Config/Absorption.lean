import WorksheetUpload.Proofs.Config.Precedence

/-! Overrides one after another. An environment puts its own values over whatever was there, so that
of the calls before it nothing is left but what they set and it does not; a call that failed
half-way is no exception. -/
namespace WorksheetUpload.Config

/-- Whether an environment sets every variable that another one sets, of those that count. -/
def Covers (later earlier : Environment) : Prop :=
  ∀ name ∈ overrides, (earlier name).isSome = true → (later name).isSome = true

/-- Configurations that differ in nothing but what an environment sets. -/
structure AgreeBeyond (env : Environment) (c c' : Config) : Prop where
  server : env serverVariable = none → c'.serverUrl = c.serverUrl
  worksheet : env worksheetVariable = none → c'.worksheet = c.worksheet
  after : env sortKeyVariable = none → c'.after = c.after
  token : env tokenVariable = none → c'.token = c.token

/-- What is left of a configuration when environments were applied to it in turn, whether or not
each of them failed. -/
def overrideAll (c : Config) (history : List Environment) : Config :=
  history.foldl (fun c env => (c.override env).1) c

/-- All that a call can do: the sort key decides. -/
theorem override_cases (c : Config) (env : Environment) :
    (∃ e, sortKey? env = .error e ∧ c.override env = (overrideAddress env c,some e)) ∨
    ∃ key, sortKey? env = .ok key ∧ c.override env = (overridden env key c,none) := by
  rw [override]
  cases sortKey? env with
  | error e => exact .inl ⟨e,rfl,rfl⟩
  | ok key => exact .inr ⟨key,rfl,rfl⟩

theorem Covers.unset {later earlier : Environment} (h : Covers later earlier) {name : String}
    (there : name ∈ overrides) (unset : later name = none) : earlier name = none := by
  by_contra set
  have covered := h name there (Option.isSome_iff_ne_none.2 set)
  rw [unset] at covered
  cases covered

namespace AgreeBeyond

variable {env later : Environment} {c c' c'' : Config}

theorem refl (env : Environment) (c : Config) : AgreeBeyond env c c :=
  ⟨fun _ => rfl,fun _ => rfl,fun _ => rfl,fun _ => rfl⟩

theorem trans (h : AgreeBeyond env c c') (h' : AgreeBeyond env c' c'') : AgreeBeyond env c c'' :=
  ⟨fun unset => (h'.server unset).trans (h.server unset),
    fun unset => (h'.worksheet unset).trans (h.worksheet unset),
    fun unset => (h'.after unset).trans (h.after unset),
    fun unset => (h'.token unset).trans (h.token unset)⟩

theorem mono (h : AgreeBeyond env c c') (covers : Covers later env) : AgreeBeyond later c c' :=
  ⟨fun unset => h.server (covers.unset (by decide) unset),
    fun unset => h.worksheet (covers.unset (by decide) unset),
    fun unset => h.after (covers.unset (by decide) unset),
    fun unset => h.token (covers.unset (by decide) unset)⟩

theorem address (env : Environment) (c : Config) : AgreeBeyond env c (overrideAddress env c) :=
  ⟨fun unset => congrArg (·.getD c.serverUrl) unset,
    fun unset => congrArg (·.getD c.worksheet) unset,fun _ => rfl,fun _ => rfl⟩

/-- A call changes only what its environment sets, also when it fails. -/
theorem override (env : Environment) (c : Config) : AgreeBeyond env c (c.override env).1 := by
  rcases override_cases c env with ⟨e,-,failed⟩ | ⟨key,good,done⟩
  case inl =>
    rw [failed]
    exact address env c
  case inr =>
    have inForce := inForce_overridden good c
    rw [done]
    exact ⟨inForce.no_server,inForce.no_worksheet,inForce.no_after,inForce.no_token⟩

/-- So do several calls, as long as their environments set no more than one that is given. -/
theorem overrideAll (history : List Environment) (covers : ∀ env ∈ history, Covers later env)
    (c : Config) : AgreeBeyond later c (c.overrideAll history) := by
  induction history generalizing c with
  | nil => exact refl later c
  | cons env history ih =>
    obtain ⟨first,others⟩ := List.forall_mem_cons.1 covers
    exact ((override env c).mono first).trans (ih others _)

theorem overrideAddress_eq (h : AgreeBeyond env c c') :
    (overrideAddress env c').serverUrl = (overrideAddress env c).serverUrl ∧
      (overrideAddress env c').worksheet = (overrideAddress env c).worksheet := by
  simp only [overrideAddress]
  constructor
  · cases set : env serverVariable with
    | some url => rfl
    | none => exact h.server set
  · cases set : env worksheetVariable with
    | some id => rfl
    | none => exact h.worksheet set

theorem overrideToken_eq (h : AgreeBeyond env c c') :
    overrideToken env c'.token = overrideToken env c.token := by
  simp only [overrideToken]
  cases set : env tokenVariable with
  | some token => rfl
  | none => exact h.token set

theorem after_eq (h : AgreeBeyond env c c') {key : Option SortKey} (good : sortKey? env = .ok key) :
    key.or c'.after = key.or c.after := by
  rcases sortKey?_eq_ok_iff.1 good with ⟨unset,-⟩ | ⟨text,k,-,rfl,-⟩
  · rw [h.after unset]
  · rfl

/-- A call that succeeds sees no difference in what it sets anyway. -/
theorem override_eq (h : AgreeBeyond env c c') (succeeds : (c.override env).2 = none) :
    c'.override env = c.override env := by
  obtain ⟨server,worksheet⟩ := h.overrideAddress_eq
  rcases override_cases c env with ⟨e,-,failed⟩ | ⟨key,good,done⟩
  case inl =>
    rw [failed] at succeeds
    cases succeeds
  case inr =>
    have same : overridden env key c' = overridden env key c := by
      rw [overridden,overridden,server,worksheet,h.overrideToken_eq,h.after_eq good]
    rcases override_cases c' env with ⟨e,bad,-⟩ | ⟨key',good',done'⟩
    · cases good.symm.trans bad
    · cases good.symm.trans good'
      rw [done,done',same]

end AgreeBeyond

theorem overrideAddress_overrideAddress (env : Environment) (c : Config) :
    overrideAddress env (overrideAddress env c) = overrideAddress env c := by
  simp only [overrideAddress]
  cases env serverVariable <;> cases env worksheetVariable <;> rfl

/-- A call that fails has changed the addresses at most. -/
theorem override_of_error {c : Config} {env : Environment} {e : Error}
    (failed : (c.override env).2 = some e) : c.override env = (overrideAddress env c,some e) := by
  rcases override_cases c env with ⟨e',-,outcome⟩ | ⟨key,-,outcome⟩
  · rw [outcome] at failed
    cases failed
    exact outcome
  · rw [outcome] at failed
    cases failed

theorem override_override (c : Config) (env : Environment) :
    (c.override env).1.override env = c.override env := by
  rcases override_cases c env with ⟨e,bad,failed⟩ | ⟨key,-,done⟩
  case inr => exact (AgreeBeyond.override env c).override_eq (by rw [done])
  case inl =>
    rw [failed]
    rcases override_cases (overrideAddress env c) env with ⟨e',bad',again⟩ | ⟨key,good,-⟩
    · cases bad.symm.trans bad'
      rw [again,overrideAddress_overrideAddress]
    · cases bad.symm.trans good

/-- With another sort key a call does what it would have done at once. -/
theorem override_of_retry {c : Config} {bad later : Environment} {e : Error}
    (failed : (c.override bad).2 = some e)
    (others : ∀ name ≠ "BUNDLE_UPLOADER_SORT_KEY", later name = bad name)
    (succeeds : (c.override later).2 = none) :
    (c.override bad).1.override later = c.override later := by
  have addresses := AgreeBeyond.address bad c
  have agree : AgreeBeyond later c (overrideAddress bad c) :=
    ⟨fun unset => addresses.server ((others _ (by decide)).symm.trans unset),
      fun unset => addresses.worksheet ((others _ (by decide)).symm.trans unset),
      fun _ => rfl,fun _ => rfl⟩
  rw [override_of_error failed]
  exact agree.override_eq succeeds

/-- A call that succeeds makes of a configuration what it would have made of it without the calls
before it, if it sets all that they set, whether or not those failed. So a call that is made twice
is made once, and one that failed at its sort key leaves no trace when it is made again with
another; it changes neither the sort key nor the token by itself. -/
theorem later_overrides_absorb (c : Config) :
    (∀ earlier later, Covers later earlier → (c.override later).2 = none →
      (c.override earlier).1.override later = c.override later) ∧
    (∀ history later, (∀ earlier ∈ history, Covers later earlier) → (c.override later).2 = none →
      (c.overrideAll history).override later = c.override later) ∧
    (∀ env, (c.override env).1.override env = c.override env) ∧
    (∀ bad later e, (c.override bad).2 = some e →
      (∀ name ≠ "BUNDLE_UPLOADER_SORT_KEY", later name = bad name) →
        (c.override later).2 = none → (c.override bad).1.override later = c.override later) ∧
    ∀ env e, (c.override env).2 = some e →
      (c.override env).1.after = c.after ∧ (c.override env).1.token = c.token := by
  refine ⟨?_,?_,override_override c,?_,?_⟩
  · intro earlier later covers succeeds
    exact ((AgreeBeyond.override earlier c).mono covers).override_eq succeeds
  · intro history later covers succeeds
    exact (AgreeBeyond.overrideAll history covers c).override_eq succeeds
  · exact fun bad later e failed others succeeds => override_of_retry failed others succeeds
  · intro env e failed
    rw [override_of_error failed]
    exact ⟨rfl,rfl⟩

/-- A bad sort key under another address, and then a good one with a token taken away. -/
theorem failed_overrides_absorbed :
    let c : Config := ⟨"http://[::1]/rest","0x1",none,some "old"⟩
    let earlier : Environment := fun name =>
      [("BUNDLE_UPLOADER_SERVER_URL","http://h"),("BUNDLE_UPLOADER_SORT_KEY","first")].lookup name
    let later : Environment := fun name =>
      [("BUNDLE_UPLOADER_SERVER_URL",""),("BUNDLE_UPLOADER_SORT_KEY"," -1 "),
        ("BUNDLE_UPLOADER_TOKEN","")].lookup name
    Covers later earlier ∧ (c.override earlier).2.isSome = true ∧ (c.override later).2 = none ∧
      (c.override earlier).1.override later =
        (⟨"","0x1",some ⟨-1,by decide,by decide⟩,none⟩,none) := by
  intro c earlier later
  have covers : Covers later earlier := by unfold Covers; decide
  have succeeds : c.override later =
      (⟨"","0x1",some ⟨-1,by decide,by decide⟩,none⟩,none) := by rfl
  refine ⟨covers,by rfl,by rw [succeeds],?_⟩
  exact ((later_overrides_absorb c).1 earlier later covers (by rw [succeeds])).trans succeeds

end WorksheetUpload.Config
