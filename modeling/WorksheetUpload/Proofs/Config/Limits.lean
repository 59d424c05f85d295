import WorksheetUpload.Proofs.Client.Query
import WorksheetUpload.Proofs.Client.Target
import WorksheetUpload.Proofs.Config.Absorption
import WorksheetUpload.Proofs.Config.Spelling
import WorksheetUpload.Proofs.Json.Integer
import WorksheetUpload.Proofs.Json.Rendering

/-! Sort keys from the file and from the environment. Both take the integers that 64 bits hold, each
as that very key, and no others; the address that creates a bundle shows the key in decimal. -/
namespace WorksheetUpload

namespace SortKey

/-- The integers that are sort keys. -/
def InRange (n : Int) : Prop := -0x8000000000000000 ≤ n ∧ n < 0x8000000000000000

theorem inRange_iff {n : Int} : InRange n ↔ ∃ k : SortKey, k.value = n := by
  constructor
  · exact fun h => ⟨⟨n,h.1,h.2⟩,rfl⟩
  · rintro ⟨k,rfl⟩
    exact ⟨k.lower,k.upper⟩

/-- A query holds the decimal of a key as it is. -/
theorem encodeText_text (k : SortKey) : Url.Form.encodeText k.text.toList = k.text.toList := by
  refine Url.Form.encodeText_of_isUnreserved fun c hc => FileName.isUnreserved_of_isBundleChar ?_
  have digit {n : Nat} (h : c ∈ Nat.toDigits 10 n) : FileName.isBundleChar c = true := by
    have alphanumeric : c.isAlphanum = true :=
      Bool.or_eq_true_iff.2 (.inr (Text.isDigit_of_mem_decimal h))
    simp [FileName.isBundleChar,alphanumeric]
  rw [toList_text] at hc
  split at hc
  case isTrue => exact digit hc
  case isFalse =>
    rcases List.mem_cons.1 hc with rfl | behind
    · decide
    · exact digit behind

end SortKey

/-- The address that creates a bundle ends in the key behind which it goes, in decimal. -/
theorem Client.bundlesUrl_of_after {c : Client} {u : Url}
    (hu : Url.parse (String.ofList c.bundlesText) = .ok u) (id : String) (k : SortKey) :
    ∃ front query, c.bundlesUrl ⟨id,some k⟩ = .ok {u with query := some query} ∧
      query = front ++ "&after_sort_key=".toList ++ k.text.toList ∧
      Url.Form.read query = Url.Form.read (u.query.getD []) ++
        [("worksheet".toList,id.toList),("after_sort_key".toList,k.text.toList)] := by
  have key : Url.Form.encodePair ("after_sort_key".toList,k.text.toList) =
      "after_sort_key=".toList ++ k.text.toList := by
    have field : Url.Form.encodeText "after_sort_key".toList = "after_sort_key".toList := by decide
    rw [Url.Form.encodePair,field,k.encodeText_text]
    rfl
  have query : Url.Form.append (u.query.getD []) (targetPairs ⟨id,some k⟩) =
      (if (u.query.getD []).isEmpty then [] else u.query.getD [] ++ ['&']) ++
        Url.Form.encodePair ("worksheet".toList,id.toList) ++ "&after_sort_key=".toList ++
          k.text.toList := by
    rw [targetPairs,Url.Form.append_cons,List.flatMap_singleton,key]
    simp only [List.append_assoc]
    rfl
  exact ⟨_,_,bundlesUrl_of_parse hu _,query,Url.Form.read_append ..⟩

namespace Config

open Json (Datum Written Placed Entry)

/-- The file that holds an integer for a sort key, and nothing else. -/
def keyFile (n : Int) : File :=
  .content (Utf8.ofString ("\x7b\"after_sort_key\": " ++ toString n ++ "\x7d"))

/-- A lone sort key is the only thing that is not left at its default. -/
theorem collect_after (d : Datum) : shape.collect change [] shape.blank [("after_sort_key",d)] =
    (d.orNull keyOf).map fun after => {initial with after} := by
  have known : "after_sort_key" ∈ shape.names := by decide
  have complete (v : Config) : shape.collect change ["after_sort_key"] v [] = some v := rfl
  rw [Json.Shape.collect,if_pos known,if_neg (by simp),change_after]
  simp only [complete]
  cases d.orNull keyOf <;> rfl

/-- The file of an integer is a configuration just if the integer is a sort key, which is all it
says. -/
theorem ofFile_keyFile_eq_ok_iff {place : String} {n : Int} {c : Config} :
    ofFile place (keyFile n) = .ok c ↔
      ∃ k : SortKey, k.value = n ∧ c = {initial with after := some k} := by
  obtain ⟨q,quoted,key⟩ := Json.exists_quoted "after_sort_key"
  obtain ⟨w,text,integer,value⟩ := Json.exists_number n
  let members : List (Entry Written) := [⟨⟨[],q,[]⟩,⟨[.space],.number w,[]⟩⟩]
  have layout : ("\x7b\"after_sort_key\": " ++ toString n ++ "\x7d").toList =
      Placed.render ⟨[],.object [] members,[]⟩ := by
    have name : '"' :: q.text = "\"after_sort_key\"".toList := quoted
    have start : "\x7b\"after_sort_key\": ".toList =
        '\x7b' :: ("\"after_sort_key\"".toList ++ [':',' ']) := rfl
    simp [members,Placed.render,Written.render,Json.renderEntries,Json.Gap.text,Json.Blank.char,
      start,← name,text]
  have data : Json.entriesData members = [("after_sort_key",.number w.numeral)] := by
    simp only [members,Json.entriesData,key,Written.datum]
  have meant {k : SortKey} : keyOf (.number w.numeral) = some k ↔ k.value = n := by
    rw [keyOf_eq_some_iff]
    constructor
    · rintro ⟨m,same,-,hm⟩
      cases same
      exact hm.symm.trans value
    · intro same
      exact ⟨_,rfl,integer,value.trans same.symm⟩
  have number : Datum.orNull keyOf (.number w.numeral) = (keyOf (.number w.numeral)).map some := rfl
  rw [keyFile,Utf8.ofString,layout,ofFile_encode_eq_ok_iff,decode_object_eq_ok_iff,data,
    collect_after,number]
  simp only [Option.map_map,Option.map_eq_some_iff,Function.comp_apply,meant,eq_comm (b := c)]

/-- A text for the sort key in the environment is taken if it spells a key, and is what the call
fails for if it spells none. -/
theorem override_sortKey {env : Environment} {text : String} (set : env sortKeyVariable = some text)
    (base : Config) :
    (∃ k : SortKey, SortKey.Spells k.value text.toList ∧ (base.override env).2 = none ∧
      (base.override env).1.after = some k) ∨
    (∀ k : SortKey, ¬ SortKey.Spells k.value text.toList) ∧
      ∃ cause, (base.override env).2 = some (.badSortKey text cause) := by
  simp only [SortKey.spells_iff]
  rcases override_cases base env with ⟨e,bad,failed⟩ | ⟨key,good,done⟩
  case inl =>
    obtain ⟨other,cause,same,read,rfl⟩ := sortKey?_eq_error_iff.1 bad
    cases set.symm.trans same
    refine .inr ⟨fun k decimal => ?_,cause,by rw [failed]⟩
    cases read.symm.trans (SortKey.read_eq_ok_iff.2 decimal)
  case inr =>
    rcases sortKey?_eq_ok_iff.1 good with ⟨unset,-⟩ | ⟨other,k,same,rfl,decimal⟩
    · cases set.symm.trans unset
    · cases set.symm.trans same
      exact .inl ⟨k,decimal,by rw [done],by rw [done]; rfl⟩

/-- A text that spells an integer gives the key that the integer is. -/
theorem override_of_spells {env : Environment} {text : String}
    (set : env sortKeyVariable = some text) {n : Int} (spells : SortKey.Spells n text.toList)
    (base : Config) :
    (∃ k : SortKey, k.value = n ∧ (base.override env).2 = none ∧
      (base.override env).1.after = some k) ∨
    ¬ SortKey.InRange n ∧ ∃ cause, (base.override env).2 = some (.badSortKey text cause) := by
  rcases override_sortKey set base with ⟨k,spelt,taken⟩ | ⟨unspelt,failed⟩
  · exact .inl ⟨k,spelt.unique spells,taken⟩
  · refine .inr ⟨fun inRange => ?_,failed⟩
    obtain ⟨k,rfl⟩ := SortKey.inRange_iff.1 inRange
    exact unspelt k spells

/-- A file and an environment take the same integers for sort keys, those that 64 bits hold, and
either makes of each the key that it is. The address that creates a bundle shows it as it is
printed. In the environment blanks may stand around an integer, zeros before its digits, and a plus
before what is not negative; a text that spells none has no digits, or something else among them,
and is reported as it stands there. -/
theorem sort_keys_agree (n : Int) :
    (∀ place, ((∃ c, ofFile place (keyFile n) = .ok c) ↔ SortKey.InRange n) ∧
      ∀ c, ofFile place (keyFile n) = .ok c → c.after.map SortKey.value = some n) ∧
    (∀ (base : Config) (env : Environment) (text : String),
      env "BUNDLE_UPLOADER_SORT_KEY" = some text → SortKey.Spells n text.toList →
        ((base.override env).2 = none ↔ SortKey.InRange n) ∧
        ((base.override env).2 = none →
          (base.override env).1.after.map SortKey.value = some n) ∧
        (¬ SortKey.InRange n → ∃ cause, (base.override env).2 = some (.badSortKey text cause))) ∧
    (∀ (client : Client) (t : Target) (u : Url), t.after.map SortKey.value = some n →
      Url.parse (String.ofList client.bundlesText) = .ok u →
        ∃ front query, client.bundlesUrl t = .ok {u with query := some query} ∧
          query = front ++ "&after_sort_key=".toList ++ (toString n).toList ∧
          Url.Form.read query = Url.Form.read (u.query.getD []) ++
            [("worksheet".toList,t.worksheet.toList),
              ("after_sort_key".toList,(toString n).toList)]) ∧
    ∀ (base : Config) (env : Environment) (text : String),
      env "BUNDLE_UPLOADER_SORT_KEY" = some text →
        ((∀ m, ¬ SortKey.Spells m text.toList) ↔ SortKey.Garbled (Text.trim text.toList)) ∧
        (SortKey.Garbled (Text.trim text.toList) → ∃ e, (base.override env).2 = some e ∧
          e.message = "BUNDLE_UPLOADER_SORT_KEY is not an integer: " ++ text) := by
  refine ⟨fun place => ⟨?_,?_⟩,?_,?_,?_⟩
  · simp only [ofFile_keyFile_eq_ok_iff,SortKey.inRange_iff]
    constructor
    · rintro ⟨-,k,same,-⟩
      exact ⟨k,same⟩
    · rintro ⟨k,same⟩
      exact ⟨_,k,same,rfl⟩
  · intro c h
    obtain ⟨k,same,rfl⟩ := ofFile_keyFile_eq_ok_iff.1 h
    exact congrArg some same
  · intro base env text set spells
    rcases override_of_spells set spells base with ⟨k,rfl,succeeds,after⟩ | ⟨out,cause,failed⟩
    · refine ⟨iff_of_true succeeds (SortKey.inRange_iff.2 ⟨k,rfl⟩),fun _ => by rw [after]; rfl,?_⟩
      exact fun out => absurd (SortKey.inRange_iff.2 ⟨k,rfl⟩) out
    · rw [failed]
      exact ⟨iff_of_false nofun out,nofun,fun _ => ⟨cause,rfl⟩⟩
  · rintro client ⟨id,after⟩ u key hu
    obtain ⟨k,rfl,rfl⟩ := Option.map_eq_some_iff.1 key
    exact Client.bundlesUrl_of_after hu id k
  · intro base env text set
    refine ⟨SortKey.garbled_iff.symm,fun garbled => ?_⟩
    rcases override_sortKey set base with ⟨k,spells,-⟩ | ⟨-,cause,failed⟩
    · exact absurd spells (SortKey.garbled_iff.1 garbled _)
    · exact ⟨_,failed,rfl⟩

/-- The least key, in the environment with zeros behind its sign and a wide blank before it. -/
theorem least_sort_key_agrees :
    let n : Int := -9223372036854775808
    let env : Environment := fun name =>
      [("BUNDLE_UPLOADER_SORT_KEY","\u3000-009223372036854775808 ")].lookup name
    (∃ c, ofFile path (keyFile n) = .ok c ∧ c.after.map SortKey.value = some n) ∧
      (initial.override env).2 = none ∧
      (initial.override env).1.after.map SortKey.value = some n := by
  intro n env
  have spells : SortKey.Spells n "\u3000-009223372036854775808 ".toList := by
    have layout : "\u3000-009223372036854775808 ".toList =
        ['\u3000'] ++ (['-'] ++ (List.replicate 2 '0' ++ Nat.toDigits 10 n.natAbs)) ++ [' '] := by
      decide +kernel
    have wide : Text.Blanks ['\u3000'] := List.forall_mem_singleton.2 (by decide)
    have space : Text.Blanks [' '] := List.forall_mem_singleton.2 (by decide)
    rw [layout]
    exact .of 2 wide space (.inr ⟨rfl,by decide⟩)
  have inRange : SortKey.InRange n := ⟨by decide,by decide⟩
  obtain ⟨file,environment,-⟩ := sort_keys_agree n
  obtain ⟨taken,value,-⟩ := environment initial env _ rfl spells
  obtain ⟨c,read⟩ := (file path).1.2 inRange
  exact ⟨⟨c,read,(file path).2 c read⟩,taken.2 inRange,value (taken.2 inRange)⟩

end Config
end WorksheetUpload
