import WorksheetUpload.Json.Reader
import WorksheetUpload.Proofs.Json.Lexing

/-! A written value of any shape and depth is passed over as a whole: whoever skips it goes on with the
tokens that follow it. -/
namespace WorksheetUpload.Json

/-- What a value is skipped as, when it stands in open brackets. -/
def resumed (opened : List Bracket) (ts : List Token) : Except Fault (List Token) :=
  if opened.isEmpty then .ok ts else skipFrom opened .comma ts

theorem resumed_cons (b : Bracket) (opened : List Bracket) (ts : List Token) :
    resumed (b :: opened) ts = skipFrom (b :: opened) .comma ts := rfl

theorem skipFrom_more {opened opened' : List Bracket} {need need' : Need} {t : Token}
    {ts : List Token} (h : step opened need t = .ok (.more opened' need')) :
    skipFrom opened need (t :: ts) = skipFrom opened' need' ts := by
  rw [skipFrom,h]

theorem skipFrom_afterValue {opened opened' : List Bracket} {need : Need} {t : Token}
    {ts : List Token} (h : step opened need t = .ok (.afterValue opened')) :
    skipFrom opened need (t :: ts) = resumed opened' ts := by
  rw [skipFrom,h,Next.afterValue,resumed]
  cases opened' <;> rfl

theorem Written.lexeme_ne_closeList (w : Written) (after : Bytes) :
    w.lexeme after ≠ .closeList := by
  cases w <;> exact nofun

/-- No list closes where a value is written. -/
theorem exists_tokens_open (w : Written) {after : Bytes} (h : Ends after) :
    ∃ t ts, tokens (w.octets ++ after) = t :: ts ∧ t.lexeme ≠ .closeList := by
  obtain ⟨t,left,ht,-,he⟩ := w.exists_tokens_eq h
  exact ⟨t,_,he,ht ▸ w.lexeme_ne_closeList after⟩

/-- A value may be the first element of a list as well. -/
theorem step_written {w : Written} {after : Bytes} {t : Token} (ht : t.lexeme = w.lexeme after)
    (opened : List Bracket) {need : Need} (hn : need = .value ∨ need = .element) :
    step opened need t = stepValue opened t := by
  rcases hn with rfl | rfl
  · rfl
  · rw [step,if_neg (ht ▸ w.lexeme_ne_closeList after)]

mutual

/-- A value leads back to the brackets in which it stands. The induction is on the value, since each
bracket that it opens is closed within it. -/
theorem skipFrom_written (w : Written) (opened : List Bracket) {need : Need}
    (hn : need = .value ∨ need = .element) {after : Bytes} (h : Ends after) :
    skipFrom opened need (tokens (w.octets ++ after)) = resumed opened (tokens after) := by
  obtain ⟨t,left,ht,hs,he⟩ := w.exists_tokens_eq h
  have first := step_written ht opened hn
  rw [he]
  cases w with
  | list gap es =>
    rw [skipFrom_more (first.trans (by rw [stepValue,ht,Written.lexeme]))]
    exact skipFrom_places es true opened after
  | object gap ms =>
    rw [skipFrom_more (first.trans (by rw [stepValue,ht,Written.lexeme]))]
    exact skipFrom_entries ms true opened after
  | _ => exact skipFrom_afterValue (by simp [first,stepValue,ht,Written.lexeme,hs,Except.map])

theorem skipFrom_places (es : List (Placed Written)) (first : Bool) (opened : List Bracket)
    (after : Bytes) :
    skipFrom (.list :: opened) (if first then .element else .comma)
      (tokens (placesOctets first es ++ after)) = resumed opened (tokens after) := by
  match es with
  | [] =>
    obtain ⟨t,ht,he⟩ := exists_tokens_close_list after first
    rw [he]
    cases first <;> exact skipFrom_afterValue (by simp [step,ht])
  | ⟨before,w,right⟩ :: es =>
    have follows := ends_behindPlace after ⟨before,w,right⟩ es
    have rest : resumed (.list :: opened) (tokens (behindPlace after ⟨before,w,right⟩ es)) =
        resumed opened (tokens after) := by
      rw [behindPlace,tokens_gap,resumed_cons]
      exact skipFrom_places es false opened after
    cases first with
    | true => rw [tokens_first_place,if_pos rfl,skipFrom_written w _ (.inr rfl) follows,rest]
    | false =>
      obtain ⟨t,ht,he⟩ := exists_tokens_next_place after ⟨before,w,right⟩ es
      have comma : step (.list :: opened) .comma t = .ok (.more (.list :: opened) .value) := by
        simp [step,ht]
      rw [he,if_neg (by decide),skipFrom_more comma,skipFrom_written w _ (.inl rfl) follows,rest]

theorem skipFrom_entries (ms : List (Entry Written)) (first : Bool) (opened : List Bracket)
    (after : Bytes) :
    skipFrom (.object :: opened) (if first then .name else .comma)
      (tokens (entriesOctets first ms ++ after)) = resumed opened (tokens after) := by
  match ms with
  | [] =>
    obtain ⟨t,ht,he⟩ := exists_tokens_close_object after first
    rw [he]
    cases first <;> exact skipFrom_afterValue (by simp [step,ht])
  | ⟨name,⟨before,w,right⟩⟩ :: ms =>
    have follows := ends_behindEntry after ⟨name,⟨before,w,right⟩⟩ ms
    have rest : resumed (.object :: opened) (tokens (behindEntry after ⟨name,⟨before,w,right⟩⟩ ms)) =
        resumed opened (tokens after) := by
      rw [behindEntry,tokens_gap,resumed_cons]
      exact skipFrom_entries ms false opened after
    obtain ⟨t,u,left,more,ht,hs,hu,he⟩ :=
      exists_tokens_first_entry after ⟨name,⟨before,w,right⟩⟩ ms
    have member (need : Need) (hn : need = .name ∨ need = .nextName) :
        skipFrom (.object :: opened) need
          (tokens (entriesOctets true (⟨name,⟨before,w,right⟩⟩ :: ms) ++ after)) =
            resumed opened (tokens after) := by
      have named : step (.object :: opened) need t = .ok (.more (.object :: opened) .colon) := by
        rcases hn with rfl | rfl <;> simp [step,ht,hs,Except.map]
      have colon : step (.object :: opened) .colon u = .ok (.more (.object :: opened) .value) := by
        simp [step,hu]
      rw [he,skipFrom_more named,skipFrom_more colon,skipFrom_written w _ (.inl rfl) follows,rest]
    cases first with
    | true => exact member .name (.inl rfl)
    | false =>
      obtain ⟨v,hv,he⟩ := exists_tokens_next_entry after ⟨name,⟨before,w,right⟩⟩ ms
      have comma : step (.object :: opened) .comma v = .ok (.more (.object :: opened) .nextName) := by
        simp [step,hv]
      rw [he,if_neg (by decide),skipFrom_more comma,member .nextName (.inr rfl)]

end

/-- What follows a value is what is left when it has been passed over. -/
theorem skip_written (w : Written) {after : Bytes} (h : Ends after) :
    skip (tokens (w.octets ++ after)) = .ok (tokens after) :=
  skipFrom_written w [] (.inl rfl) h

end WorksheetUpload.Json
