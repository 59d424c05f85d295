/-! What a history of events leaves behind: the values that its steps yield, and the order in which
they came last. -/
namespace WorksheetUpload

variable {σ ε α : Type}

/-- What the steps of a run yield, in order. -/
def yields (step : σ → ε → σ) (out : σ → ε → Option α) : σ → List ε → List α
  | _, [] => []
  | s, e :: es => (out s e).toList ++ yields step out (step s e) es

theorem yields_append_singleton (step : σ → ε → σ) (out : σ → ε → Option α) (s : σ) (es : List ε)
    (e : ε) : yields step out s (es ++ [e]) =
      yields step out s es ++ (out (es.foldl step s) e).toList := by
  induction es generalizing s with
  | nil => simp [yields]
  | cons x es ih => simp [yields,ih]

/-- Whether a value came for the last time before another did. -/
def LastBefore (values : List α) (a b : α) : Prop :=
  ∃ earlier later, values = earlier ++ b :: later ∧ a ∈ earlier ∧ a ∉ b :: later ∧ b ∉ later

theorem LastBefore.ne {values : List α} {a b : α} (h : LastBefore values a b) : a ≠ b := by
  obtain ⟨earlier,later,-,-,never,-⟩ := h
  exact List.ne_of_not_mem_cons never

/-- Other values that come later do not matter. -/
theorem LastBefore.append_singleton {values : List α} {a b c : α} (h : LastBefore values a b)
    (ha : a ≠ c) (hb : b ≠ c) : LastBefore (values ++ [c]) a b := by
  obtain ⟨earlier,later,rfl,there,never,last⟩ := h
  refine ⟨earlier,later ++ [c],by simp,there,?_,?_⟩
  · simpa [ha] using never
  · simpa [hb] using last

/-- What comes now comes behind all that came before. -/
theorem lastBefore_append_singleton {values : List α} {a c : α} (there : a ∈ values) (ha : a ≠ c) :
    LastBefore (values ++ [c]) a c :=
  ⟨values,[],rfl,there,by simpa using ha,List.not_mem_nil⟩

end WorksheetUpload
