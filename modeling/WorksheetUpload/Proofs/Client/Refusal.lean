import WorksheetUpload.Proofs.Client.Creating
import WorksheetUpload.Proofs.Text.Blank
import WorksheetUpload.Proofs.Text.Decimal

/-! How a refusal by the service reaches the user. Both calls explain it alike: by the text of the
response if there is one to be read, and otherwise by its status, so that there is always something
to read. However the text is decoded does not matter. -/
namespace WorksheetUpload

open Text (Blanks isBlank)

namespace Http

/-- Whether a request arrives that is answered with a response. -/
def Network.Answers (n : Network) (arriving : Option Request) (r : Response) : Prop :=
  n.fault = none ∧ arriving.isSome = true ∧ n.next = .answered r

/-- A code is never blank. -/
theorem Status.not_blanks_line (s : Status) : ¬ Blanks s.line.toList := by
  obtain ⟨digit,there⟩ := List.exists_mem_of_ne_nil _ (Nat.toDigits_ne_nil (n := s.code) (b := 10))
  have apart : isBlank digit = false :=
    Text.not_isBlank_of_isDigit (Text.isDigit_of_mem_decimal there)
  intro blanks
  refine Bool.false_ne_true (apart.symm.trans (blanks digit ?_))
  rw [line,String.toList_append,String.toList_append,Text.toList_toString_nat]
  exact List.mem_append_left _ (List.mem_append_left _ there)

section

variable [Decoding]

/-- The text of a body, as the service meant it. -/
def Response.decoded (r : Response) : List Char := Decoding.decode r.contentType r.body

/-- What a user has to be told of a response: its text if that came whole and is not blank, and its
code and phrase if it has none, or only blanks, or was cut off. -/
structure Response.Explains (r : Response) (message : String) : Prop where
  whole : r.bodyless = false → r.missing = 0 → ¬ Blanks r.decoded →
    message = String.ofList r.decoded
  otherwise : r.bodyless = true ∨ 0 < r.missing ∨ Blanks r.decoded →
    message = toString r.status.code ++ " " ++
      (Status.phrase? r.status.code).getD "<unknown status code>"
  not_blank : ¬ Blanks message.toList

variable {r : Response}

theorem Response.text_of_whole (body : r.bodyless = false) (all : r.missing = 0) :
    r.text = String.ofList r.decoded := by
  rw [text,received?,body,if_neg Bool.false_ne_true,if_pos all]
  rfl

/-- Without a body, or with one that was cut off, there is no text. -/
theorem Response.text_of_lost (lost : r.bodyless = true ∨ 0 < r.missing) : r.text = "" := by
  have nothing : r.received?.getD [] = [] := by
    unfold received?
    split
    case isTrue => rfl
    case isFalse body =>
      have cut : 0 < r.missing := lost.resolve_left body
      rw [if_neg (Nat.ne_of_gt cut)]
      rfl
  rw [text,nothing,Decoding.decode_nil]

end
end Http

namespace Rejection

variable {s : Http.Status} {body : String}

theorem explanation_of_blanks (h : Blanks body.toList) : explanation s body = s.line :=
  if_pos (List.isEmpty_iff.2 (Text.trim_eq_nil_iff.2 h))

theorem explanation_of_not_blanks (h : ¬ Blanks body.toList) : explanation s body = body :=
  if_neg fun empty => h (Text.trim_eq_nil_iff.1 (List.isEmpty_iff.1 empty))

theorem not_blanks_explanation (s : Http.Status) (body : String) :
    ¬ Blanks (explanation s body).toList := by
  by_cases h : Blanks body.toList
  · rw [explanation_of_blanks h]
    exact s.not_blanks_line
  · rwa [explanation_of_not_blanks h]

theorem explains_explanation [Http.Decoding] (r : Http.Response) :
    r.Explains (explanation r.status r.text) := by
  constructor
  case whole =>
    intro body all worded
    rw [r.text_of_whole body all]
    refine explanation_of_not_blanks ?_
    rwa [String.toList_ofList]
  case otherwise =>
    intro wordless
    refine explanation_of_blanks ?_
    by_cases lost : r.bodyless = true ∨ 0 < r.missing
    case pos =>
      rw [Http.Response.text_of_lost lost]
      exact List.forall_mem_nil _
    case neg =>
      obtain ⟨body,all⟩ := not_or.1 lost
      have blanks : Blanks r.decoded := (wordless.resolve_left body).resolve_left all
      rw [r.text_of_whole (Bool.eq_false_iff.2 body) (Nat.eq_zero_of_not_pos all)]
      rwa [String.toList_ofList]
  case not_blank => exact not_blanks_explanation _ _

end Rejection

namespace Client

section

variable [Http.Decoding] {c : Client} {n : Http.Network} {r : Http.Response}

theorem create_answered {t : Target} {m : Metadata} (h : n.Answers (c.post? t m) r) :
    (c.create t m n).1 = handleOf (c.createUrl t) r := by
  obtain ⟨hn,arrives,answered⟩ := h
  obtain ⟨a,ha⟩ := Option.isSome_iff_exists.1 arrives
  obtain ⟨url,sent⟩ := create_sent hn ha
  rw [sent,answered]

section

variable {h : Handle} {p : ContentParams} {contents : Bytes}

/-- A request that arrives uses up one reply, and its outcome depends on that reply. -/
theorem upload_sent {a : Http.Request} (hn : n.fault = none) (ha : c.put? h p contents = some a) :
    ∃ url : Url, (c.upload h p contents n).1 = match n.next with
      | .closed => .error (.contents (c.contentsUrl h) (unsent (Http.SendError.closed url).message))
      | .answered r => if r.status.isSuccess then .ok ()
        else .error (.contents (c.contentsUrl h) (Rejection.explanation r.status r.text)) := by
  unfold put? at ha
  unfold upload
  cases hq : c.contentsRequest h p contents with
  | error e => simp [hq] at ha
  | ok request =>
    simp only [hq] at ha
    have sent := Http.Network.send_eq_of_arriving hn ha
    refine ⟨request.url,?_⟩
    simp only [sent]
    cases n.next <;> rfl

/-- A request that does not arrive puts nothing anywhere. -/
theorem upload_unsent (lost : n.fault = none → c.put? h p contents = none) :
    ∃ e, (c.upload h p contents n).1 = .error e := by
  unfold upload
  cases hq : c.contentsRequest h p contents with
  | error e => exact ⟨_,rfl⟩
  | ok request =>
    have still : n.fault = none → request.arriving? = none := by
      simpa only [put?,hq] using lost
    obtain ⟨e,he⟩ := Http.Network.send_eq_of_lost still
    exact ⟨.contents (c.contentsUrl h) (unsent e.message),by simp only [he]⟩

theorem upload_answered (answers : n.Answers (c.put? h p contents) r) :
    (c.upload h p contents n).1 = if r.status.isSuccess then .ok ()
      else .error (.contents (c.contentsUrl h) (Rejection.explanation r.status r.text)) := by
  obtain ⟨hn,arrives,answered⟩ := answers
  obtain ⟨a,ha⟩ := Option.isSome_iff_exists.1 arrives
  obtain ⟨url,sent⟩ := upload_sent hn ha
  rw [sent,answered]

/-- Contents are put where a response arrives that is a success, whatever its body. -/
theorem upload_eq_ok_iff : (c.upload h p contents n).1 = .ok () ↔
    ∃ r, n.Answers (c.put? h p contents) r ∧ 200 ≤ r.status.code ∧ r.status.code ≤ 299 := by
  constructor
  · intro stored
    rcases n.lost_or_arrives (c.put? h p contents) with lost | ⟨hn,a,ha⟩
    · obtain ⟨e,failed⟩ := upload_unsent lost
      cases stored.symm.trans failed
    · obtain ⟨url,sent⟩ := upload_sent hn ha
      cases reply : n.next with
      | closed =>
        rw [reply] at sent
        cases stored.symm.trans sent
      | answered r =>
        have answers : n.Answers (c.put? h p contents) r :=
          ⟨hn,Option.isSome_iff_exists.2 ⟨a,ha⟩,reply⟩
        refine ⟨r,answers,Http.Status.isSuccess_iff.1 ?_⟩
        rw [upload_answered answers] at stored
        split at stored
        case isTrue success => exact success
        case isFalse => cases stored
  · rintro ⟨r,answers,range⟩
    rw [upload_answered answers,if_pos (Http.Status.isSuccess_iff.2 range)]

end

/-- An upload whose contents are not put into their bundle ends there, with one alert. -/
theorem alerts_of_upload_error {tree : FileTree} {t : Target} {u : PendingUpload}
    {before : Http.Network} {h : Handle} {contents : Bytes} {e : UploadError}
    (created : c.create t u.metadata before = (.ok h,n)) (read : u.file.read tree = .ok contents)
    (failed : (c.upload h (.ofFileName u.file.name) contents n).1 = .error e) :
    (Flow.run c.service tree t (some u) before).events.filterMap Event.alert? = [e.message] := by
  generalize answered : c.upload h (.ofFileName u.file.name) contents n = result at failed
  obtain ⟨answer,rest⟩ := result
  obtain rfl : answer = .error e := failed
  rw [Flow.run,service_create,created]
  simp only [Flow.putContents,read,service_upload,answered]
  rfl

/-- Any response but a success is a refusal. The call that it answers fails with an error that
explains it, and with the address that was meant; the two calls do alike. An upload that is refused
in either raises one alert, which says so. Contents are put just where a success arrives, be its
body what it may. -/
theorem refusals_explained (c : Client) (n : Http.Network) :
    (∀ r t m, n.Answers (c.post? t m) r → ¬ (200 ≤ r.status.code ∧ r.status.code ≤ 299) →
      ∃ message, r.Explains message ∧
        (c.create t m n).1 = .error (.creation (c.createUrl t) message) ∧
        ∀ tree file source,
          (Flow.run c.service tree t (some ⟨file,m,source⟩) n).events.filterMap Event.alert? =
            ["Request to " ++ c.createUrl t ++ " failed: " ++ message]) ∧
    (∀ r h p contents, n.Answers (c.put? h p contents) r →
      ¬ (200 ≤ r.status.code ∧ r.status.code ≤ 299) →
      ∃ message, r.Explains message ∧
        (c.upload h p contents n).1 = .error (.contents (c.contentsUrl h) message) ∧
        ∀ tree t u before, c.create t u.metadata before = (.ok h,n) →
          u.file.read tree = .ok contents → p = .ofFileName u.file.name →
          (Flow.run c.service tree t (some u) before).events.filterMap Event.alert? =
            ["Request to " ++ c.contentsUrl h ++ " failed: " ++ message]) ∧
    ∀ h p contents, (c.upload h p contents n).1 = .ok () ↔
      ∃ r, n.Answers (c.put? h p contents) r ∧ 200 ≤ r.status.code ∧ r.status.code ≤ 299 := by
  refine ⟨?_,?_,fun h p contents => upload_eq_ok_iff⟩
  · intro r t m answers refused
    have failed : (c.create t m n).1 =
        .error (.creation (c.createUrl t) (Rejection.explanation r.status r.text)) := by
      have unsuccessful := mt Http.Status.isSuccess_iff.1 refused
      rw [create_answered answers,handleOf,Bool.eq_false_iff.2 unsuccessful]
      rfl
    refine ⟨_,Rejection.explains_explanation r,failed,?_⟩
    intro tree file source
    exact (run_of_create_error c tree t ⟨file,m,source⟩ n failed).2.1
  · intro r h p contents answers refused
    have failed : (c.upload h p contents n).1 =
        .error (.contents (c.contentsUrl h) (Rejection.explanation r.status r.text)) := by
      rw [upload_answered answers,if_neg (mt Http.Status.isSuccess_iff.1 refused)]
    refine ⟨_,Rejection.explains_explanation r,failed,?_⟩
    rintro tree t u before created read rfl
    exact alerts_of_upload_error created read failed

end

/-- A refusal whose text was cut off is explained by its status, and one whose text came whole by
that text, blanks and all. -/
theorem refusals_cut_off_and_whole :
    let c : Client := ⟨"http://[::1]".toList,none,by simp⟩
    let cut : Http.Response := ⟨⟨403,by decide⟩,some "text/plain",[0x6E,0x6F],1⟩
    let whole : Http.Response := ⟨⟨403,by decide⟩,some "text/plain",[0x6E,0x6F,0x20],0⟩
    (c.create ⟨"0x1",none⟩ ⟨"a","",[]⟩ (.scripted [.answered cut] .closed)).1 =
      .error (.creation "http://[::1]/bundles?worksheet=0x1" "403 Forbidden") ∧
    (c.upload ⟨"0x2"⟩ (.ofFileName "a.csv") [] (.scripted [.answered whole] .closed)).1 =
      .error (.contents "http://[::1]/bundles/0x2/contents/blob/" "no ") := by
  intro c cut whole
  constructor
  · let n : Http.Network := .scripted [.answered cut] .closed
    have answers : n.Answers (c.post? ⟨"0x1",none⟩ ⟨"a","",[]⟩) cut := ⟨rfl,by decide +kernel,rfl⟩
    have url : c.createUrl ⟨"0x1",none⟩ = "http://[::1]/bundles?worksheet=0x1" := by
      decide +kernel
    obtain ⟨message,explains,failed,-⟩ :=
      (refusals_explained c n).1 cut ⟨"0x1",none⟩ ⟨"a","",[]⟩ answers (by decide)
    have missing : 0 < cut.missing := Nat.one_pos
    rw [failed,url,explains.otherwise (.inr (.inl missing))]
    decide
  · let n : Http.Network := .scripted [.answered whole] .closed
    have answers : n.Answers (c.put? ⟨"0x2"⟩ (.ofFileName "a.csv") []) whole :=
      ⟨rfl,by decide +kernel,rfl⟩
    have url : c.contentsUrl ⟨"0x2"⟩ = "http://[::1]/bundles/0x2/contents/blob/" := by decide
    obtain ⟨message,explains,failed,-⟩ :=
      (refusals_explained c n).2.1 whole ⟨"0x2"⟩ (.ofFileName "a.csv") [] answers (by decide)
    have decoded : whole.decoded = "no ".toList := by decide +kernel
    have apart : ¬ Blanks whole.decoded := fun blanks =>
      absurd (blanks 'n' (decoded ▸ List.mem_cons_self)) (by decide)
    rw [failed,url,explains.whole rfl rfl apart,decoded,String.ofList_toList]

end Client
end WorksheetUpload
