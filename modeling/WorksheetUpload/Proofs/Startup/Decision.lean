import WorksheetUpload.Proofs.Client.Token
import WorksheetUpload.Proofs.Config.Precedence
import WorksheetUpload.Startup

/-! Whether the program gets as far as its window. Three things are checked, one after the other: the
configuration file, the sort key in the environment and the token in force. The first that is bad is
what is reported, and nothing else decides. -/
namespace WorksheetUpload.Startup

open Config Http

/-- A token in force: one that the environment sets, or else the file's. An empty one in the
environment takes the file's away. -/
inductive TokenInForce (env : Environment) : File → String → Prop
  | set {file : File} {token : String} (set : env "BUNDLE_UPLOADER_TOKEN" = some token)
      (nonempty : token ≠ "") : TokenInForce env file token
  | kept {bytes : Bytes} {base : Config} {token : String}
      (unset : env "BUNDLE_UPLOADER_TOKEN" = none) (decoded : decode bytes = .ok base)
      (there : base.token = some token) : TokenInForce env (.content bytes) token

/-- The warning of a start without a worksheet. -/
def missingWorksheet : Log.Line :=
  ⟨.warn,"bundle_uploader","No worksheet configured, uploads will be rejected by the server",
    ["message"]⟩

example : missingWorksheet.text =
    "WARN bundle_uploader: No worksheet configured, uploads will be rejected by the server" := by
  decide +kernel

theorem tokenInForce_iff {file : File} {base : Config} (h : ofFile path file = .ok base)
    {env : Environment} {token : String} :
    TokenInForce env file token ↔ token ∈ overrideToken env base.token := by
  have named : env tokenVariable = env "BUNDLE_UPLOADER_TOKEN" := rfl
  constructor
  · rintro (⟨set,there⟩ | ⟨unset,decoded,there⟩)
    · simp [overrideToken,named,set,there]
    · cases ((gives_of_ofFile h).decoded _ rfl).symm.trans decoded
      simp [overrideToken,named,unset,there]
  · intro inForce
    cases set : env "BUNDLE_UPLOADER_TOKEN" with
    | some other =>
      by_cases empty : other = ""
      case pos => simp [overrideToken,named,set,empty] at inForce
      case neg =>
        have same : other = token := by simpa [overrideToken,named,set,empty] using inForce
        exact .set (same ▸ set) (same ▸ empty)
    | none =>
      simp only [overrideToken,named,set] at inForce
      cases file with
      | absent => cases h; cases inForce
      | refused fault => cases h
      | content bytes => exact .kept set ((gives_of_ofFile h).decoded bytes rfl) inForce

/-- The ending hangs on the file, the sort key and the token in force alone. -/
theorem ending_run (file : File) (env : Environment) : (run file env).ending =
    match ofFile path file with
    | .error e => .exit 1 (Failure.config e).message
    | .ok base =>
      match sortKey? env with
      | .error e => .exit 1 (Failure.config e).message
      | .ok _ =>
        if ∀ token ∈ overrideToken env base.token, isHeaderText token then .window
        else .exit 1 Failure.badToken.message := by
  rcases load_cases file env with ⟨e,read,failed⟩ | ⟨base,read,⟨e,bad,failed⟩ | ⟨key,good,loaded⟩⟩
  · simp only [run,failed,read,ending]
  · simp only [run,failed,read,bad,ending]
  · by_cases fit : ∀ token ∈ overrideToken env base.token, isHeaderText token = true
    · simp only [run,loaded,read,good,Client.ofConfig?,overridden,dif_pos fit,if_pos fit,ending]
    · simp only [run,loaded,read,good,Client.ofConfig?,overridden,dif_neg fit,if_neg fit,ending]

theorem ending_of_unusable {file : File} (unusable : file.Unusable) (env : Environment) :
    ∃ e, ofFile path file = .error e ∧
      (run file env).ending = .exit 1 (Failure.config e).message := by
  obtain ⟨e,read,-⟩ := load_unusable unusable env
  exact ⟨e,read,by rw [ending_run,read]⟩

theorem ending_of_badSortKey {file : File} (usable : ¬ file.Unusable) {env : Environment}
    (bad : BadSortKey env) : ∃ text cause, env "BUNDLE_UPLOADER_SORT_KEY" = some text ∧
      SortKey.read (Text.trim text.toList) = .error cause ∧
      (run file env).ending = .exit 1 (Failure.config (.badSortKey text cause)).message := by
  obtain ⟨base,read⟩ := exists_ofFile_eq_ok usable
  obtain ⟨e,failed⟩ := exists_sortKey?_eq_error_iff.2 bad
  obtain ⟨text,cause,set,spelt,rfl⟩ := sortKey?_eq_error_iff.1 failed
  exact ⟨text,cause,set,spelt,by rw [ending_run,read,failed]⟩

/-- Where file and sort key are good, the token decides. -/
theorem ending_of_good {file : File} (usable : ¬ file.Unusable) {env : Environment}
    (good : ¬ BadSortKey env) :
    ((∀ token, TokenInForce env file token → FitsHeader token) → (run file env).ending = .window) ∧
    ((∃ token, TokenInForce env file token ∧ ¬ FitsHeader token) →
      (run file env).ending = .exit 1 Failure.badToken.message) := by
  obtain ⟨base,read⟩ := exists_ofFile_eq_ok usable
  obtain ⟨key,spelt⟩ := exists_sortKey?_eq_ok good
  simp only [ending_run,read,spelt,tokenInForce_iff read,← isHeaderText_iff]
  refine ⟨fun fit => if_pos fit,?_⟩
  rintro ⟨token,inForce,unfit⟩
  exact if_neg fun fit => unfit (fit token inForce)

/-- What is logged on the way says that no worksheet is configured just if a configuration was loaded
that names none. -/
theorem missingWorksheet_mem_log_iff (file : File) (env : Environment) :
    missingWorksheet ∈ (run file env).log ↔ ∃ c, load file env = .ok c ∧ c.worksheet = "" := by
  have reading : missingWorksheet ∉ fileLog file := by
    unfold fileLog
    split <;> simp [missingWorksheet,Log.Line.plain]
  have opening : missingWorksheet ∉ windowLog := by decide
  have loading (c : Config) : missingWorksheet ∈ configLog c ↔ c.worksheet = "" := by
    by_cases empty : c.worksheet = "" <;>
      simp [configLog,empty,missingWorksheet,Log.Line.plain,target]
  cases h : load file env with
  | error e => simp [run,h,reading]
  | ok c => cases made : Client.ofConfig? c <;> simp [run,h,made,reading,opening,loading]

theorem usual_admits_missingWorksheet : Log.Filter.usual.admits missingWorksheet = true := by decide

/-- A start ends in the window just if the file is usable, the sort key in the environment is good and
the token in force, if there is one, can stand in a header. Otherwise it exits with 1 and reports the
first of the three that is bad. Addresses, worksheets and log filters decide nothing, wherever they are
set. Where no filter is in force the lack of a worksheet is warned of whenever a configuration was
loaded, whatever its token. -/
theorem startup_checks_in_order (file : File) (env : Environment) :
    ((run file env).ending = .window ↔ ¬ file.Unusable ∧ ¬ BadSortKey env ∧
      ∀ token, TokenInForce env file token → FitsHeader token) ∧
    (file.Unusable → ∃ e, ofFile path file = .error e ∧
      (run file env).ending = .exit 1 (Failure.config e).message) ∧
    (¬ file.Unusable → BadSortKey env →
      ∃ text cause, env "BUNDLE_UPLOADER_SORT_KEY" = some text ∧
        SortKey.read (Text.trim text.toList) = .error cause ∧
        (run file env).ending = .exit 1 (Failure.config (.badSortKey text cause)).message) ∧
    (¬ file.Unusable → ¬ BadSortKey env →
      (∃ token, TokenInForce env file token ∧ ¬ FitsHeader token) →
        (run file env).ending = .exit 1 "Error: failed to parse header value\n") ∧
    (∀ other, other "BUNDLE_UPLOADER_SORT_KEY" = env "BUNDLE_UPLOADER_SORT_KEY" →
      other "BUNDLE_UPLOADER_TOKEN" = env "BUNDLE_UPLOADER_TOKEN" →
        (run file other).ending = (run file env).ending) ∧
    (∀ other base base', ofFile path file = .ok base → ofFile path other = .ok base' →
      base'.token = base.token → (run other env).ending = (run file env).ending) ∧
    ((env "RUST_LOG").bind Log.Filter.read? = none →
      (missingWorksheet ∈ (run file env).log.filter
          (Log.Filter.ofSetting (env filterVariable)).admits ↔
        ∃ c, load file env = .ok c ∧ c.worksheet = "")) := by
  refine ⟨?window,?unusable,?badSortKey,?badToken,?settings,?files,?warning⟩
  case unusable => exact fun unusable => ending_of_unusable unusable env
  case badSortKey => exact fun usable bad => ending_of_badSortKey usable bad
  case badToken => exact fun usable good => (ending_of_good usable good).2
  case window =>
    constructor
    · intro reached
      have usable : ¬ file.Unusable := fun unusable => by
        obtain ⟨e,-,exits⟩ := ending_of_unusable unusable env
        cases reached.symm.trans exits
      have good : ¬ BadSortKey env := fun bad => by
        obtain ⟨text,cause,-,-,exits⟩ := ending_of_badSortKey usable bad
        cases reached.symm.trans exits
      refine ⟨usable,good,fun token inForce => by_contra fun unfit => ?_⟩
      cases reached.symm.trans ((ending_of_good usable good).2 ⟨token,inForce,unfit⟩)
    · rintro ⟨usable,good,fit⟩
      exact (ending_of_good usable good).1 fit
  case settings =>
    intro other sortKey token
    simp only [ending_run,sortKey?_congr sortKey,overrideToken_congr token]
  case files =>
    intro other base base' read read' same
    simp only [ending_run,read,read',same]
  case warning =>
    intro unset
    have usual : Log.Filter.ofSetting (env filterVariable) = Log.Filter.usual :=
      congrArg (·.getD Log.Filter.usual) unset
    rw [List.mem_filter,usual,usual_admits_missingWorksheet,missingWorksheet_mem_log_iff]
    exact and_iff_left rfl

/-- A token can stand in a header that no ASCII text is. -/
theorem accented_token_starts :
    let env : Environment := fun name => if name = "BUNDLE_UPLOADER_TOKEN" then some "é" else none
    (run .absent env).ending = .window ∧ TokenInForce env .absent "é" ∧
      ¬ ∀ c ∈ "é".toList, c = '\t' ∨ 0x20 ≤ c.toNat ∧ c.toNat ≤ 0x7e :=
  ⟨by decide +kernel,.set rfl (by decide),by simp⟩

end WorksheetUpload.Startup
