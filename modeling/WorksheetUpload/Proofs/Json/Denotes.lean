import WorksheetUpload.Proofs.Json.Skip

/-! A text of JSON denotes one datum: however its tree is drawn, the tokens tell where each part ends
and what it is. -/
namespace WorksheetUpload.Json

theorem Quoted.eq_of_octets_append {q q' : Quoted} {after after' : Bytes}
    (h : q.octets ++ after = q'.octets ++ after') : q.string = q'.string ∧ after = after' := by
  have read := q.unescape_octets after
  rw [h,q'.unescape_octets after'] at read
  obtain ⟨chars,rest⟩ := Prod.mk.inj (Except.ok.inj read)
  exact ⟨congrArg String.ofList (Utf8.encode_injective chars.symm),rest.symm⟩

theorem WrittenNumber.eq_of_octets_append {n n' : WrittenNumber} {after after' : Bytes}
    (ha : Ends after) (ha' : Ends after') (h : n.octets ++ after = n'.octets ++ after') :
    n.numeral = n'.numeral ∧ after = after' := by
  have scanned := Numeral.scan_octets n ha
  rw [h,Numeral.scan_octets n' ha'] at scanned
  obtain ⟨numeral,rest⟩ := Prod.mk.inj (Except.ok.inj scanned)
  exact ⟨numeral.symm,rest.symm⟩

/-- A list does not close where an element is written. -/
theorem exists_tokens_open_place (first : Bool) (e : Placed Written) (es : List (Placed Written))
    (after : Bytes) : ∃ t ts, tokens (placesOctets first (e :: es) ++ after) = t :: ts ∧
      t.lexeme ≠ .closeList := by
  cases first with
  | true =>
    rw [tokens_first_place]
    exact exists_tokens_open e.value (ends_behindPlace after e es)
  | false =>
    obtain ⟨t,ht,he⟩ := exists_tokens_next_place after e es
    exact ⟨t,_,he,ht ▸ nofun⟩

theorem exists_tokens_open_entry (first : Bool) (m : Entry Written) (ms : List (Entry Written))
    (after : Bytes) : ∃ t ts, tokens (entriesOctets first (m :: ms) ++ after) = t :: ts ∧
      t.lexeme ≠ .closeObject := by
  cases first with
  | true =>
    obtain ⟨t,u,-,more,ht,-,-,he⟩ := exists_tokens_first_entry after m ms
    exact ⟨t,_,he,ht ▸ nofun⟩
  | false =>
    obtain ⟨t,ht,he⟩ := exists_tokens_next_entry after m ms
    exact ⟨t,_,he,ht ▸ nofun⟩

theorem tokens_close_ne_open {first : Bool} {e : Placed Written} {es : List (Placed Written)}
    {after after' : Bytes} : tokens (placesOctets first [] ++ after) ≠
      tokens (placesOctets first (e :: es) ++ after') := by
  intro h
  obtain ⟨t,ht,he⟩ := exists_tokens_close_list after first
  obtain ⟨u,us,he',hu⟩ := exists_tokens_open_place first e es after'
  rw [he,he'] at h
  exact hu ((List.cons.inj h).1 ▸ ht)

theorem tokens_close_ne_entry {first : Bool} {m : Entry Written} {ms : List (Entry Written)}
    {after after' : Bytes} : tokens (entriesOctets first [] ++ after) ≠
      tokens (entriesOctets first (m :: ms) ++ after') := by
  intro h
  obtain ⟨t,ht,he⟩ := exists_tokens_close_object after first
  obtain ⟨u,us,he',hu⟩ := exists_tokens_open_entry first m ms after'
  rw [he,he'] at h
  exact hu ((List.cons.inj h).1 ▸ ht)

/-- The commas tell nothing. -/
theorem tokens_value_eq {first : Bool} {e e' : Placed Written} {es es' : List (Placed Written)}
    {after after' : Bytes} (h : tokens (placesOctets first (e :: es) ++ after) =
      tokens (placesOctets first (e' :: es') ++ after')) :
    tokens (e.value.octets ++ behindPlace after e es) =
      tokens (e'.value.octets ++ behindPlace after' e' es') := by
  cases first with
  | true => rwa [tokens_first_place,tokens_first_place] at h
  | false =>
    obtain ⟨t,-,he⟩ := exists_tokens_next_place after e es
    obtain ⟨t',-,he'⟩ := exists_tokens_next_place after' e' es'
    rw [he,he'] at h
    exact (List.cons.inj h).2

theorem tokens_entry_eq {first : Bool} {m m' : Entry Written} {ms ms' : List (Entry Written)}
    {after after' : Bytes} (h : tokens (entriesOctets first (m :: ms) ++ after) =
      tokens (entriesOctets first (m' :: ms') ++ after')) :
    m.name.value.string = m'.name.value.string ∧
      tokens (m.value.value.octets ++ behindEntry after m ms) =
        tokens (m'.value.value.octets ++ behindEntry after' m' ms') := by
  have firsts : tokens (entriesOctets true (m :: ms) ++ after) =
      tokens (entriesOctets true (m' :: ms') ++ after') := by
    cases first with
    | true => exact h
    | false =>
      obtain ⟨t,-,he⟩ := exists_tokens_next_entry after m ms
      obtain ⟨t',-,he'⟩ := exists_tokens_next_entry after' m' ms'
      rw [he,he'] at h
      exact (List.cons.inj h).2
  obtain ⟨t,u,-,more,ht,-,-,he⟩ := exists_tokens_first_entry after m ms
  obtain ⟨t',u',-,more',ht',-,-,he'⟩ := exists_tokens_first_entry after' m' ms'
  rw [he,he'] at firsts
  obtain ⟨rfl,rest⟩ := List.cons.inj firsts
  exact ⟨(Quoted.eq_of_octets_append (Lexeme.text.inj (ht.symm.trans ht'))).1,
    (List.cons.inj rest).2⟩

mutual

/-- Values with the same tokens denote the same, and leave the same tokens. -/
theorem datum_eq_of_tokens (w w' : Written) {after after' : Bytes} (ha : Ends after)
    (ha' : Ends after') (h : tokens (w.octets ++ after) = tokens (w'.octets ++ after')) :
    w.datum = w'.datum ∧ tokens after = tokens after' := by
  obtain ⟨t,-,ht,-,he⟩ := w.exists_tokens_eq ha
  obtain ⟨t',-,ht',-,he'⟩ := w'.exists_tokens_eq ha'
  rw [he,he'] at h
  obtain ⟨rfl,rest⟩ := List.cons.inj h
  have same : w.lexeme after = w'.lexeme after' := ht.symm.trans ht'
  cases w with
  | null =>
    cases w' with
    | null => exact ⟨rfl,rest⟩
    | _ => cases same
  | truth b =>
    cases w' with
    | truth b' => cases same; exact ⟨rfl,rest⟩
    | _ => cases same
  | number n =>
    cases w' with
    | number n' =>
      obtain ⟨numeral,rfl⟩ := WrittenNumber.eq_of_octets_append ha ha' (Lexeme.number.inj same)
      exact ⟨congrArg Datum.number numeral,rfl⟩
    | _ => cases same
  | text q =>
    cases w' with
    | text q' =>
      obtain ⟨string,rfl⟩ := Quoted.eq_of_octets_append (Lexeme.text.inj same)
      exact ⟨congrArg Datum.text string,rfl⟩
    | _ => cases same
  | list gap es =>
    cases w' with
    | list gap' es' =>
      obtain ⟨data,rest⟩ := placesData_eq_of_tokens es es' true rest
      exact ⟨congrArg Datum.list data,rest⟩
    | _ => cases same
  | object gap ms =>
    cases w' with
    | object gap' ms' =>
      obtain ⟨data,rest⟩ := entriesData_eq_of_tokens ms ms' true rest
      exact ⟨congrArg Datum.object data,rest⟩
    | _ => cases same

theorem placesData_eq_of_tokens (es es' : List (Placed Written)) (first : Bool)
    {after after' : Bytes} (h : tokens (placesOctets first es ++ after) =
      tokens (placesOctets first es' ++ after')) :
    placesData es = placesData es' ∧ tokens after = tokens after' := by
  match es,es' with
  | [],[] =>
    obtain ⟨t,-,he⟩ := exists_tokens_close_list after first
    obtain ⟨t',-,he'⟩ := exists_tokens_close_list after' first
    rw [he,he'] at h
    exact ⟨rfl,(List.cons.inj h).2⟩
  | [],e' :: es' => exact absurd h tokens_close_ne_open
  | e :: es,[] => exact absurd h.symm tokens_close_ne_open
  | ⟨before,w,right⟩ :: es,e' :: es' =>
    obtain ⟨datum,rest⟩ := datum_eq_of_tokens w e'.value (ends_behindPlace after _ es)
      (ends_behindPlace after' e' es') (tokens_value_eq h)
    simp only [behindPlace,tokens_gap] at rest
    obtain ⟨data,rest⟩ := placesData_eq_of_tokens es es' false rest
    exact ⟨by rw [placesData,placesData,datum,data],rest⟩

theorem entriesData_eq_of_tokens (ms ms' : List (Entry Written)) (first : Bool)
    {after after' : Bytes} (h : tokens (entriesOctets first ms ++ after) =
      tokens (entriesOctets first ms' ++ after')) :
    entriesData ms = entriesData ms' ∧ tokens after = tokens after' := by
  match ms,ms' with
  | [],[] =>
    obtain ⟨t,-,he⟩ := exists_tokens_close_object after first
    obtain ⟨t',-,he'⟩ := exists_tokens_close_object after' first
    rw [he,he'] at h
    exact ⟨rfl,(List.cons.inj h).2⟩
  | [],m' :: ms' => exact absurd h tokens_close_ne_entry
  | m :: ms,[] => exact absurd h.symm tokens_close_ne_entry
  | ⟨name,⟨before,w,right⟩⟩ :: ms,m' :: ms' =>
    obtain ⟨string,value⟩ := tokens_entry_eq h
    obtain ⟨datum,rest⟩ := datum_eq_of_tokens w m'.value.value (ends_behindEntry after _ ms)
      (ends_behindEntry after' m' ms') value
    simp only [behindEntry,tokens_gap] at rest
    obtain ⟨data,rest⟩ := entriesData_eq_of_tokens ms ms' false rest
    simp only at string
    exact ⟨by rw [entriesData,entriesData,string,datum,data],rest⟩

end

/-- No text can be read as two data. -/
theorem Denotes.unique {text : List Char} {d d' : Datum} (h : Denotes text d)
    (h' : Denotes text d') : d = d' := by
  obtain ⟨p,rfl,rfl⟩ := h
  obtain ⟨p',same,rfl⟩ := h'
  have same : tokens (Utf8.encode p.render) = tokens (Utf8.encode p'.render) := by rw [same]
  rw [tokens_render,tokens_render] at same
  exact (datum_eq_of_tokens p.value p'.value (ends_octets _) (ends_octets _) same).1

end WorksheetUpload.Json
