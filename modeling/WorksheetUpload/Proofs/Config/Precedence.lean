import WorksheetUpload.Config.Overrides
import WorksheetUpload.Proofs.Config.File
import WorksheetUpload.Proofs.Config.SortKey
import WorksheetUpload.Proofs.Text.Utf8

/-! Which source each field of a configuration comes from. The environment is asked first, then the
file, then the default. An empty address in the environment is an address, an empty token is none. -/
namespace WorksheetUpload.Config

open Json (Gap Entry Written Placed entriesData)

/-- A file that is there and makes no configuration. -/
inductive File.Unusable : File → Prop
  | refused (fault : IoFault) : Unusable (.refused fault)
  | notText {bytes : Bytes} (h : ∀ text, Utf8.encode text ≠ bytes) : Unusable (.content bytes)
  | malformed {text : List Char} {fault : Json.Fault}
      (h : decode (Utf8.encode text) = .error fault) : Unusable (.content (Utf8.encode text))

/-- What a usable file says, and the defaults where there is no file. -/
structure File.Gives (file : File) (c : Config) : Prop where
  absent : file = .absent → c = ⟨"http://localhost:2900/rest","",none,none⟩
  decoded : ∀ bytes, file = .content bytes → decode bytes = .ok c
  object : ∀ (before gap after : Gap) (members : List (Entry Written)),
    file = .content (Utf8.encode (Placed.render ⟨before,.object gap members,after⟩)) →
      Says (entriesData members) c

/-- A sort key in the environment that is no integer within the bounds, white space around it aside. -/
def BadSortKey (env : Environment) : Prop :=
  ∃ text, env "BUNDLE_UPLOADER_SORT_KEY" = some text ∧
    ∀ n : Int, -0x8000000000000000 ≤ n → n < 0x8000000000000000 →
      ¬ SortKey.IsDecimal (Text.trim text.toList) n

/-- The configuration that the environment makes of another one. -/
structure InForce (env : Environment) (base c : Config) : Prop where
  server : ∀ url, env "BUNDLE_UPLOADER_SERVER_URL" = some url → c.serverUrl = url
  no_server : env "BUNDLE_UPLOADER_SERVER_URL" = none → c.serverUrl = base.serverUrl
  worksheet : ∀ id, env "BUNDLE_UPLOADER_WORKSHEET" = some id → c.worksheet = id
  no_worksheet : env "BUNDLE_UPLOADER_WORKSHEET" = none → c.worksheet = base.worksheet
  after : ∀ text, env "BUNDLE_UPLOADER_SORT_KEY" = some text →
    ∃ key, c.after = some key ∧ SortKey.IsDecimal (Text.trim text.toList) key.value
  no_after : env "BUNDLE_UPLOADER_SORT_KEY" = none → c.after = base.after
  token : ∀ token, env "BUNDLE_UPLOADER_TOKEN" = some token → token ≠ "" → c.token = some token
  empty_token : env "BUNDLE_UPLOADER_TOKEN" = some "" → c.token = none
  no_token : env "BUNDLE_UPLOADER_TOKEN" = none → c.token = base.token

theorem exists_ofFile_eq_error_iff (path : String) {file : File} :
    (∃ e, ofFile path file = .error e) ↔ file.Unusable := by
  constructor
  · rintro ⟨e,h⟩
    cases file with
    | absent => cases h
    | refused fault => exact .refused fault
    | content bytes =>
      cases decoded : Utf8.decode? bytes with
      | none =>
        refine .notText fun text ht => ?_
        rw [Utf8.decode?_eq_some_iff.2 ht] at decoded
        cases decoded
      | some text =>
        obtain rfl := Utf8.decode?_eq_some_iff.1 decoded
        rw [ofFile_encode] at h
        cases hd : decode (Utf8.encode text) with
        | error fault => exact .malformed hd
        | ok c =>
          rw [hd] at h
          cases h
  · intro h
    cases h with
    | refused fault => exact ⟨_,rfl⟩
    | notText h =>
      rename_i bytes
      cases decoded : Utf8.decode? bytes with
      | none => exact ⟨.unreadable path notText,by rw [ofFile,decoded]⟩
      | some text => exact absurd (Utf8.decode?_eq_some_iff.1 decoded) (h text)
    | malformed h => exact ⟨_,by rw [ofFile_encode,h]; rfl⟩

theorem exists_ofFile_eq_ok {file : File} (usable : ¬ file.Unusable) :
    ∃ base, ofFile path file = .ok base := by
  cases read : ofFile path file with
  | error e => exact absurd ((exists_ofFile_eq_error_iff path).1 ⟨e,read⟩) usable
  | ok base => exact ⟨base,rfl⟩

theorem gives_of_ofFile {path : String} {file : File} {base : Config}
    (h : ofFile path file = .ok base) : file.Gives base := by
  constructor
  case absent =>
    rintro rfl
    cases h
    rfl
  case decoded =>
    rintro bytes rfl
    cases decoded : Utf8.decode? bytes with
    | none =>
      rw [ofFile,decoded] at h
      cases h
    | some text =>
      obtain rfl := Utf8.decode?_eq_some_iff.1 decoded
      exact ofFile_encode_eq_ok_iff.1 h
  case object =>
    rintro before gap after members rfl
    exact says_of_collect (decode_object_eq_ok_iff.1 (ofFile_encode_eq_ok_iff.1 h))

/-- The sort key in the environment is the one that it spells. -/
theorem sortKey?_eq_ok_iff {env : Environment} {key : Option SortKey} :
    sortKey? env = .ok key ↔
      (env sortKeyVariable = none ∧ key = none) ∨
      ∃ text k, env sortKeyVariable = some text ∧ key = some k ∧
        SortKey.IsDecimal (Text.trim text.toList) k.value := by
  simp only [← SortKey.read_eq_ok_iff]
  cases set : env sortKeyVariable with
  | none => simp [sortKey?,set,eq_comm]
  | some text =>
    cases read : SortKey.read (Text.trim text.toList) with
    | error e => simp [sortKey?,set,read]
    | ok k => simp [sortKey?,set,read,eq_comm]

theorem exists_sortKey?_eq_error_iff {env : Environment} :
    (∃ e, sortKey? env = .error e) ↔ BadSortKey env := by
  constructor
  · rintro ⟨e,h⟩
    cases set : env sortKeyVariable with
    | none => simp [sortKey?,set] at h
    | some text =>
      refine ⟨text,set,fun n lower upper decimal => ?_⟩
      have ok : sortKey? env = .ok (some ⟨n,lower,upper⟩) :=
        sortKey?_eq_ok_iff.2 (.inr ⟨text,_,set,rfl,decimal⟩)
      rw [ok] at h
      cases h
  · rintro ⟨text,set,bad⟩
    cases h : sortKey? env with
    | error e => exact ⟨e,rfl⟩
    | ok key =>
      rcases sortKey?_eq_ok_iff.1 h with ⟨unset,-⟩ | ⟨other,k,same,-,decimal⟩
      · exact absurd (set.symm.trans unset) (by simp)
      · cases set.symm.trans same
        exact absurd decimal (bad k.value k.lower k.upper)

theorem exists_sortKey?_eq_ok {env : Environment} (good : ¬ BadSortKey env) :
    ∃ key, sortKey? env = .ok key := by
  cases read : sortKey? env with
  | error e => exact absurd (exists_sortKey?_eq_error_iff.1 ⟨e,read⟩) good
  | ok key => exact ⟨key,rfl⟩

/-- A failure that is not the file's is a bad sort key. -/
theorem sortKey?_eq_error_iff {env : Environment} {e : Error} :
    sortKey? env = .error e ↔ ∃ text cause, env sortKeyVariable = some text ∧
      SortKey.read (Text.trim text.toList) = .error cause ∧ e = .badSortKey text cause := by
  cases set : env sortKeyVariable with
  | none => simp [sortKey?,set]
  | some text =>
    cases read : SortKey.read (Text.trim text.toList) with
    | ok k => simp [sortKey?,set,read]
    | error cause => simp [sortKey?,set,read,eq_comm]

/-- The configuration with what the environment says in place. -/
def overridden (env : Environment) (key : Option SortKey) (base : Config) : Config :=
  {overrideAddress env base with
    after := key.or base.after
    token := overrideToken env base.token}

theorem load_of_error {file : File} {e : Error} (h : ofFile path file = .error e)
    (env : Environment) : load file env = .error e := by
  rw [load,h]
  rfl

theorem load_of_ok {file : File} {base : Config} (h : ofFile path file = .ok base)
    (env : Environment) : load file env = (sortKey? env).map fun key => overridden env key base := by
  simp only [load,h,bind,Except.bind,override]
  cases sortKey? env <;> rfl

/-- What loading can come to: the file's fault, a bad sort key, or the file's configuration with what
the environment says in place. -/
theorem load_cases (file : File) (env : Environment) :
    (∃ e, ofFile path file = .error e ∧ load file env = .error e) ∨
    ∃ base, ofFile path file = .ok base ∧
      ((∃ e, sortKey? env = .error e ∧ load file env = .error e) ∨
        ∃ key, sortKey? env = .ok key ∧ load file env = .ok (overridden env key base)) := by
  cases read : ofFile path file with
  | error e => exact .inl ⟨e,rfl,load_of_error read env⟩
  | ok base =>
    refine .inr ⟨base,rfl,?_⟩
    rw [load_of_ok read]
    cases sortKey? env with
    | error e => exact .inl ⟨e,rfl,rfl⟩
    | ok key => exact .inr ⟨key,rfl,rfl⟩

theorem inForce_overridden {env : Environment} {key : Option SortKey} (h : sortKey? env = .ok key)
    (base : Config) : InForce env base (overridden env key base) := by
  constructor
  case server => exact fun url set => congrArg (·.getD base.serverUrl) set
  case no_server => exact fun unset => congrArg (·.getD base.serverUrl) unset
  case worksheet => exact fun id set => congrArg (·.getD base.worksheet) set
  case no_worksheet => exact fun unset => congrArg (·.getD base.worksheet) unset
  case after =>
    intro text set
    rcases sortKey?_eq_ok_iff.1 h with ⟨unset,-⟩ | ⟨other,k,same,rfl,decimal⟩
    · exact absurd (set.symm.trans unset) (by simp)
    · cases set.symm.trans same
      exact ⟨k,rfl,decimal⟩
  case no_after =>
    intro unset
    rcases sortKey?_eq_ok_iff.1 h with ⟨-,rfl⟩ | ⟨other,k,set,-,-⟩
    · rfl
    · exact absurd (set.symm.trans unset) (by simp)
  case token =>
    intro token set given
    have h : env tokenVariable = _ := set
    simp [overridden,overrideToken,h,given]
  case empty_token =>
    intro set
    have h : env tokenVariable = _ := set
    simp [overridden,overrideToken,h]
  case no_token =>
    intro unset
    have h : env tokenVariable = _ := unset
    simp [overridden,overrideToken,h]

/-- The variables that can change a configuration. -/
def overrides : List String :=
  ["BUNDLE_UPLOADER_SERVER_URL","BUNDLE_UPLOADER_WORKSHEET","BUNDLE_UPLOADER_SORT_KEY",
    "BUNDLE_UPLOADER_TOKEN"]

theorem sortKey?_congr {env other : Environment}
    (h : other sortKeyVariable = env sortKeyVariable) : sortKey? other = sortKey? env := by
  rw [sortKey?,sortKey?,h]

theorem overrideToken_congr {env other : Environment} (h : other tokenVariable = env tokenVariable)
    (token : Option String) : overrideToken other token = overrideToken env token := by
  rw [overrideToken,overrideToken,h]

/-- No other variable counts. -/
theorem load_congr (file : File) {env other : Environment}
    (h : ∀ name ∈ overrides, other name = env name) : load file other = load file env := by
  simp only [overrides,List.forall_mem_cons] at h
  obtain ⟨server,worksheet,sortKey,token,-⟩ := h
  have same (key : Option SortKey) (base : Config) :
      overridden other key base = overridden env key base := by
    rw [overridden,overridden,overrideToken_congr token,overrideAddress,overrideAddress,
      show other serverVariable = env serverVariable from server,
      show other worksheetVariable = env worksheetVariable from worksheet]
  cases read : ofFile path file with
  | error e => rw [load_of_error read,load_of_error read]
  | ok base => simp only [load_of_ok read,sortKey?_congr sortKey,same]

/-- Loading fails for an unusable file and for a bad sort key. -/
theorem exists_load_eq_error_iff (file : File) (env : Environment) :
    (∃ e, load file env = .error e) ↔ file.Unusable ∨ BadSortKey env := by
  rw [← exists_ofFile_eq_error_iff path,← exists_sortKey?_eq_error_iff]
  rcases load_cases file env with ⟨e,read,failed⟩ | ⟨base,read,⟨e,bad,failed⟩ | ⟨key,good,loaded⟩⟩
  · simp [read,failed]
  · simp [bad,failed]
  · simp [read,good,loaded]

/-- The fault of an unusable file is reported, whatever the environment says. -/
theorem load_unusable {file : File} (h : file.Unusable) (env : Environment) :
    ∃ e, ofFile path file = .error e ∧ load file env = .error e := by
  obtain ⟨e,he⟩ := (exists_ofFile_eq_error_iff path).2 h
  exact ⟨e,he,load_of_error he env⟩

/-- Where the file can be used, only a sort key is reported. -/
theorem eq_badSortKey_of_load {file : File} (h : ¬ file.Unusable) {env : Environment} {e : Error}
    (failed : load file env = .error e) :
    ∃ text cause, env sortKeyVariable = some text ∧ e = .badSortKey text cause := by
  rcases load_cases file env with ⟨f,read,-⟩ | ⟨base,-,⟨f,bad,same⟩ | ⟨key,-,loaded⟩⟩
  · exact absurd ((exists_ofFile_eq_error_iff path).1 ⟨f,read⟩) h
  · cases failed.symm.trans same
    obtain ⟨text,cause,set,-,rfl⟩ := sortKey?_eq_error_iff.1 bad
    exact ⟨text,cause,set,rfl⟩
  · cases failed.symm.trans loaded

/-- What is loaded is in force over what the file gives. -/
theorem exists_inForce_of_load {file : File} {env : Environment} {c : Config}
    (h : load file env = .ok c) : ∃ base, file.Gives base ∧ InForce env base c := by
  rcases load_cases file env with ⟨e,-,failed⟩ | ⟨base,read,⟨e,-,failed⟩ | ⟨key,good,loaded⟩⟩
  · cases h.symm.trans failed
  · cases h.symm.trans failed
  · cases h.symm.trans loaded
    exact ⟨base,gives_of_ofFile read,inForce_overridden good base⟩

/-- A configuration is loaded unless the file is there and unusable, which is then what is reported,
or the environment sets a bad sort key. Each field is what the environment says, or else what the file
says, or else the default, and no variable but these four counts. -/
theorem load_precedence (file : File) (env : Environment) :
    ((∃ e, load file env = .error e) ↔ file.Unusable ∨ BadSortKey env) ∧
    (file.Unusable → ∃ e, ofFile path file = .error e ∧ load file env = .error e) ∧
    (¬ file.Unusable → ∀ e, load file env = .error e →
      ∃ text cause, env "BUNDLE_UPLOADER_SORT_KEY" = some text ∧ e = .badSortKey text cause) ∧
    (∀ c, load file env = .ok c → ∃ base, file.Gives base ∧ InForce env base c) ∧
    ∀ other, (∀ name ∈ overrides, other name = env name) → load file other = load file env := by
  refine ⟨exists_load_eq_error_iff file env,?_,?_,?_,?_⟩
  · exact fun unusable => load_unusable unusable env
  · exact fun usable e failed => eq_badSortKey_of_load usable failed
  · exact fun c loaded => exists_inForce_of_load loaded
  · exact fun other same => load_congr file same

end WorksheetUpload.Config
