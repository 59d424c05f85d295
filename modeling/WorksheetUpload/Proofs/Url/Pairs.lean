import WorksheetUpload.Proofs.Url.Percent
import WorksheetUpload.Proofs.Url.Split
import WorksheetUpload.Url.Basic

/-! How name and value pairs are read from a query, and that pairs which were appended to a query are
read behind those that were there, whatever characters they hold. -/
namespace WorksheetUpload.Url
namespace Form

/-- A text in a query: a plus stands for a space. -/
def readText (text : List Char) : List Char :=
  Utf8.lossy (decode (text.map fun c => if c = '+' then ' ' else c))

/-- The first equals sign ends the name. -/
def readPair (piece : List Char) : List Char × List Char :=
  let (name,behind) := cut (· == '=') piece
  (readText name,readText (behind.drop 1))

/-- The pairs in a query. Nothing between two ampersands is no pair. -/
def read (query : List Char) : List (List Char × List Char) :=
  ((splitAt (· == '&') query).filter (!·.isEmpty)).map readPair

@[simp] theorem read_nil : read [] = [] := rfl

/-- An octet is one of 256. -/
@[elab_as_elim] theorem forall_octets {P : UInt8 → Prop} (b : UInt8)
    (h : ∀ n < 256, P (UInt8.ofNat n)) : P b := by
  simpa using h b.toNat b.toNat_lt

/-- An octet that stands for itself is a character of its own, and begins neither a code nor a
space. -/
theorem char_of_isUnreserved (b : UInt8) : isUnreserved b = true →
    String.utf8EncodeChar (Char.ofNat b.toNat) = [b] ∧ Char.ofNat b.toNat ∉ ['%','+'] :=
  forall_octets b (by decide +kernel)

/-- A text of octets that stand for themselves is written as it is. -/
theorem encodeText_of_isUnreserved {text : List Char}
    (h : ∀ c ∈ text, ∃ b, isUnreserved b = true ∧ c = Char.ofNat b.toNat) :
    encodeText text = text := by
  induction text with
  | nil => rfl
  | cons c text ih =>
    obtain ⟨⟨b,hb,rfl⟩,rest⟩ := List.forall_mem_cons.1 h
    have octet : encodeOctet b = [Char.ofNat b.toNat] := if_pos hb
    simp only [encodeText] at ih ⊢
    rw [Utf8.encode_cons,(char_of_isUnreserved b hb).1,List.flatMap_append,List.flatMap_singleton,
      octet,ih rest,List.singleton_append]

/-- An ampersand stands before each pair but the first, and before that where a query was there. -/
theorem append_cons (query : List Char) (p : List Char × List Char)
    (pairs : List (List Char × List Char)) : append query (p :: pairs) =
      (if query.isEmpty then [] else query ++ ['&']) ++ encodePair p ++
        pairs.flatMap fun p => '&' :: encodePair p := by
  have further (q : List Char) (hq : q ≠ []) :
      append q pairs = q ++ pairs.flatMap fun p => '&' :: encodePair p := by
    induction pairs generalizing q with
    | nil => simp [append]
    | cons p pairs ih =>
      have step : append q (p :: pairs) = append (q ++ '&' :: encodePair p) pairs := by
        simp [append,hq]
      rw [step,ih _ (by simp),List.append_assoc,List.flatMap_cons]
  have step : append query (p :: pairs) =
      append ((if query.isEmpty then query else query ++ ['&']) ++ encodePair p) pairs := rfl
  rw [step,further _ (by simp [encodePair])]
  cases query <;> rfl

theorem plus_not_mem_percentOctet (b : UInt8) : '+' ∉ percentOctet b :=
  forall_octets b (by decide +kernel)

/-- The marks that divide a query stand for no octet. -/
theorem not_mem_encodeOctet (b : UInt8) : '&' ∉ encodeOctet b ∧ '=' ∉ encodeOctet b :=
  forall_octets b (by decide +kernel)

theorem decode_encodeOctet (b : UInt8) (rest : List Char) :
    decode ((encodeOctet b).map (fun c => if c = '+' then ' ' else c) ++ rest) =
      b :: decode rest := by
  rw [encodeOctet]
  split
  case isTrue hb =>
    obtain ⟨hc,hm⟩ := char_of_isUnreserved b hb
    simp only [List.mem_cons,List.not_mem_nil,or_false,not_or] at hm
    rw [List.map_singleton,if_neg hm.2,List.singleton_append,decode_cons,hc,List.singleton_append]
    simp [startsWithCode,hm.1]
  case isFalse =>
    split
    case isTrue hs =>
      subst hs
      exact decode_cons (by simp [startsWithCode])
    case isFalse =>
      have same : (percentOctet b).map (fun c => if c = '+' then ' ' else c) = percentOctet b := by
        conv => rhs; rw [← List.map_id (percentOctet b)]
        refine List.map_congr_left fun c hc => if_neg ?_
        rintro rfl
        exact plus_not_mem_percentOctet b hc
      rw [same,decode_percentOctet]

theorem readText_encodeText (text : List Char) : readText (encodeText text) = text := by
  have octets (bytes : Bytes) : decode ((bytes.flatMap encodeOctet).map
      fun c => if c = '+' then ' ' else c) = bytes := by
    induction bytes with
    | nil => simp
    | cons b bytes ih => rw [List.flatMap_cons,List.map_append,decode_encodeOctet,ih]
  rw [readText,encodeText,octets,Utf8.lossy_encode]

theorem not_mem_encodeText (text : List Char) :
    '&' ∉ encodeText text ∧ '=' ∉ encodeText text := by
  simp only [encodeText,List.mem_flatMap,not_exists,not_and]
  exact ⟨fun b _ => (not_mem_encodeOctet b).1,fun b _ => (not_mem_encodeOctet b).2⟩

theorem readPair_encodePair (p : List Char × List Char) : readPair (encodePair p) = p := by
  have name_ends : cut (· == '=') (encodePair p) = (encodeText p.1,'=' :: encodeText p.2) := by
    rw [encodePair,cut_append_cons (by simp),cut_of_forall_not]
    · rfl
    · intro c hc
      exact beq_false_of_ne fun h => (not_mem_encodeText p.1).2 (h ▸ hc)
  simp [readPair,name_ends,readText_encodeText]

/-- A pair reads as one piece, since the ampersands of its texts are encoded. -/
theorem read_encodePair (p : List Char × List Char) : read (encodePair p) = [p] := by
  have alone : splitAt (· == '&') (encodePair p) = [encodePair p] := by
    refine splitAt_of_forall_not fun c hc => beq_false_of_ne ?_
    rintro rfl
    simp [encodePair,not_mem_encodeText] at hc
  have not_empty : (encodePair p).isEmpty = false := by simp [encodePair]
  simp [read,alone,not_empty,readPair_encodePair]

theorem read_append_cons (s t : List Char) : read (s ++ '&' :: t) = read s ++ read t := by
  simp [read,splitAt_append_cons]

/-- What was appended to a query is read behind what was there, and as it was given. -/
theorem read_append (query : List Char) (pairs : List (List Char × List Char)) :
    read (append query pairs) = read query ++ pairs := by
  induction pairs generalizing query with
  | nil => simp [append]
  | cons p pairs ih =>
    have first : read ((if query.isEmpty then query else query ++ ['&']) ++ encodePair p) =
        read query ++ [p] := by
      cases query with
      | nil => simp [read_encodePair]
      | cons c query =>
        rw [List.isEmpty_cons,if_neg (by simp),List.append_assoc,List.singleton_append,
          read_append_cons,read_encodePair]
    calc read (append query (p :: pairs))
        = read ((if query.isEmpty then query else query ++ ['&']) ++ encodePair p) ++ pairs := ih _
      _ = read query ++ p :: pairs := by rw [first,List.append_assoc]; rfl

end Form
end WorksheetUpload.Url
