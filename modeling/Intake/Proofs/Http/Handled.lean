import Intake.Proofs.Http.Route
import Intake.Validation.Spec

/-! # Every failure of a route is answered

A route fails if its computation does, or if the result cannot be sent (`Fails`).  The errors of this program have a
status and a payload for the client (`HasPayload`).  The handler for their class sends them, and the error goes no
further (`handled_of_sent`).  The handler of last resort sends the text of a failure and passes the failure on
(`lastResort_of_not_hasPayload`).  It is asked about all other failures, and when a handler fails itself: then the
failure that it is asked about, and that it passes on, is the handler's (`handled_of_escapes`).  There is no third round,
since what a handler fails with is told in whole texts (`Escapes.isWhole_text`).

Two kinds of errors are set apart.  The framework answers some by itself.  And an error that this program knows nothing
about may have half a character in its text, which the last handler cannot send (`own_handlers_answer_otherwise`).

A rejection never gets that far, as long as there are only whole characters in its message.  Its payload is made of
texts, whatever value was found, and a text has a form even where the value that it describes has none
(`rejection_reaches_client`).
-/
namespace Intake

/-- What is not said of a value is said in whole texts. -/
theorem Fault.isWhole_message {f : Fault} (h : ∀ r, f ≠ .rejected r) : f.message.isWhole = true := by
  cases f with
  | rejected r => exact absurd rfl (h r)
  | _ => exact Text.isWhole_ofChars _

namespace Http

variable {own : OwnHandlers} {settings : Settings} {route : Text} {failure left : Failure} {r : Response} {status : Int}
  {payload : Value}

/-- How a route fails: on its own, or because its result cannot be sent. -/
inductive Fails : Except Failure Value → Failure → Prop where
  | raised (failure : Failure) : Fails (.error failure) failure
  | unsent {v : Value} {fault : Fault} (h : Unsent v fault) : Fails (.ok v) (.fault fault)

/-- The errors of this program, with the status and the payload that each of them has for the client. -/
inductive HasPayload (settings : Settings) : Failure → Int → Value → Prop where
  | service (e : ServiceError) : HasPayload settings (.service e) e.status e.payload
  | api (a : ApiError) : HasPayload settings (.api a) a.status a.body
  | client (r : Rejection) (h : settings.rejectionsAreClientErrors = true) :
      HasPayload settings (.fault (.rejected r)) settings.rejectionStatus
        (.object [("error", .text r.message), ("path", .text r.path.text)])
  | internal (r : Rejection) (h : settings.rejectionsAreClientErrors = false) :
      HasPayload settings (.fault (.rejected r)) 500 (.text r.message)

/-- What is passed on after a failure: itself, or the failure to send the payload of an error of this program. -/
inductive Escapes (settings : Settings) : Failure → Failure → Prop where
  | own {failure : Failure} (h : ¬ ∃ status payload, HasPayload settings failure status payload) :
      Escapes settings failure failure
  | unsent {failure : Failure} {status : Int} {payload : Value} {fault : Fault}
      (hpayload : HasPayload settings failure status payload) (h : Unsent payload fault) :
      Escapes settings failure (.fault fault)

/-- The response has this status and the text of this payload, and a plain payload can be read from it. -/
structure Response.Bears (r : Response) (status : Int) (payload : Value) : Prop where
  status_eq : r.status = status
  body_of_null : payload = .null → r.body = none
  body_of_ne_null : payload ≠ .null →
    ∃ cs, Wire.write payload = .ok (.ofChars cs) ∧ r.body = some (String.ofList cs)
  carries : payload.Plain → r.Carries payload

theorem bears_of_encoded (h : encoded status payload = .ok r) : r.Bears status payload where
  status_eq := by
    by_cases hnull : payload = .null
    · subst hnull
      cases h
      rfl
    · rw [encoded_of_ne_null hnull] at h
      obtain ⟨cs, -, rfl⟩ := jsonResponse_eq_ok_iff.mp h
      rfl
  body_of_null := by
    rintro rfl
    cases h
    rfl
  body_of_ne_null := by
    intro hne
    rw [encoded_of_ne_null hne] at h
    obtain ⟨cs, hcs, rfl⟩ := jsonResponse_eq_ok_iff.mp h
    exact ⟨cs, hcs, rfl⟩
  carries := by
    intro hplain
    obtain ⟨-, hwhole⟩ := exists_encoded_iff.mp ⟨r, h⟩
    obtain ⟨r', hr', -, hcarries⟩ := exists_carries hplain hwhole status
    rw [h] at hr'
    cases hr'
    exact hcarries

/-! ## Payloads -/

theorem HasPayload.errorPayload_eq (h : HasPayload settings failure status payload) :
    errorPayload settings failure = (status, payload) := by
  cases h with
  | service | api => rfl
  | client r h => rw [errorPayload_rejected, h]; rfl
  | internal r h => rw [errorPayload_rejected, h]; rfl

theorem exists_hasPayload_rejected (settings : Settings) (r : Rejection) :
    ∃ status payload, HasPayload settings (.fault (.rejected r)) status payload := by
  cases hclient : settings.rejectionsAreClientErrors with
  | true => exact ⟨_, _, .client r hclient⟩
  | false => exact ⟨_, _, .internal r hclient⟩

theorem not_hasPayload_fault (settings : Settings) {f : Fault} (h : ∀ r, f ≠ .rejected r) :
    ¬ ∃ status payload, HasPayload settings (.fault f) status payload := by
  rintro ⟨_, _, ⟨⟩⟩
  · exact h _ rfl
  · exact h _ rfl

theorem Unsent.ne_rejected {fault : Fault} (h : Unsent payload fault) (r : Rejection) : fault ≠ .rejected r := by
  rintro rfl
  cases h

/-- The failures that are not of this program are other errors and faults that reject nothing. -/
theorem cases_of_not_hasPayload (h : ¬ ∃ status payload, HasPayload settings failure status payload) :
    (∃ e, failure = .other e) ∨ ∃ f, failure = .fault f ∧ ∀ r, f ≠ .rejected r := by
  cases failure with
  | service e => exact absurd ⟨_, _, .service e⟩ h
  | api a => exact absurd ⟨_, _, .api a⟩ h
  | other e => exact Or.inl ⟨e, rfl⟩
  | fault f =>
    refine Or.inr ⟨f, rfl, ?_⟩
    rintro r rfl
    exact h (exists_hasPayload_rejected settings r)

/-- Of them only the text is told. -/
theorem errorPayload_of_not_hasPayload (h : ¬ ∃ status payload, HasPayload settings failure status payload) :
    errorPayload settings failure = (failedFrom, .text failure.text) := by
  obtain ⟨e, rfl⟩ | ⟨f, rfl, hf⟩ := cases_of_not_hasPayload h
  · rfl
  · cases f with
    | rejected r => exact absurd rfl (hf r)
    | _ => rfl

/-- What is passed on is told in whole texts, unless it is an error that nothing is known about. -/
theorem Escapes.isWhole_text (h : Escapes settings failure left)
    (hwhole : ∀ e, failure = .other e → e.text.isWhole = true) : left.text.isWhole = true := by
  cases h with
  | own h =>
    obtain ⟨e, rfl⟩ | ⟨f, rfl, hf⟩ := cases_of_not_hasPayload h
    · exact hwhole e rfl
    · exact Fault.isWhole_message hf
  | unsent _ h => exact Fault.isWhole_message h.ne_rejected

/-! ## One handler after the other -/

/-- The last handler sends the text of what it passes on. -/
theorem lastResort_of_not_hasPayload (route : Text) (before : List Notice)
    (h : ¬ ∃ status payload, HasPayload settings failure status payload) (hwhole : failure.text.isWhole = true) :
    ∃ r, lastResort settings route before failure =
      ⟨before ++ [notice failure failedFrom (some route)], some r, some failure⟩ ∧
        r.status = failedFrom ∧ r.Carries (.text failure.text) := by
  obtain ⟨r, hr, hstatus, hcarries⟩ := exists_carries (.text failure.text) hwhole failedFrom
  have hpayload := errorPayload_of_not_hasPayload h
  have hfailed : (failed settings none failure).2 = .ok r := by
    rw [failed, hpayload]
    exact hr
  refine ⟨r, ?_, hstatus, hcarries⟩
  rw [lastResort, answered_of_failed hfailed, hpayload]

/-- The errors of this program have a handler, which sends their payload. -/
theorem HasPayload.handler?_eq (h : HasPayload settings failure status payload) (own : OwnHandlers) (route : Text) :
    handler? own settings route failure =
      some ([notice failure status (some route)], (encoded status payload).mapError .fault) := by
  have hanswered : answered settings route failure = (notice failure status (some route), encoded status payload) := by
    rw [answered_eq_failed, failed, h.errorPayload_eq]
  have hhandler : handler? own settings route failure =
      some ([(answered settings route failure).1], (answered settings route failure).2.mapError .fault) := by
    cases h <;> rfl
  rw [hhandler, hanswered]

/-- An error whose payload can be sent goes no further. -/
theorem handled_of_sent (hpayload : HasPayload settings failure status payload) (h : encoded status payload = .ok r)
    (own : OwnHandlers) (route : Text) :
    handled own settings route failure = ⟨[notice failure status (some route)], some r, none⟩ := by
  rw [handled, hpayload.handler?_eq, h]
  rfl

theorem handled_of_not_hasPayload (h : ¬ ∃ status payload, HasPayload settings failure status payload)
    (hown : own.Ignores (.error failure)) (route : Text) :
    handled own settings route failure = lastResort settings route [] failure := by
  have hhandler : handler? own settings route failure = none := by
    obtain ⟨e, rfl⟩ | ⟨f, rfl, hf⟩ := cases_of_not_hasPayload h
    · rw [handler?, hown e rfl]
      rfl
    · cases f with
      | rejected r => exact absurd rfl (hf r)
      | _ => rfl
  rw [handled, hhandler]

/-- A handler that fails is a failure of its own, and has no handler. -/
theorem handled_of_unsent (hpayload : HasPayload settings failure status payload) {fault : Fault}
    (h : Unsent payload fault) (own : OwnHandlers) (route : Text) : handled own settings route failure =
      lastResort settings route [notice failure status (some route)] (.fault fault) := by
  rw [handled, hpayload.handler?_eq, encoded_eq_error_iff.mpr h]
  rfl

theorem request_of_fails {outcome : Except Failure Value} (h : Fails outcome failure) :
    request own settings route outcome = handled own settings route failure := by
  cases h with
  | raised => rfl
  | unsent h => exact request_unsent h

/-- What is passed on is what the last handler was asked about. -/
theorem handled_of_escapes (h : Escapes settings failure left) (hown : own.Ignores (.error failure))
    (hwhole : left.text.isWhole = true) (route : Text) :
    ∃ before r, handled own settings route failure =
      ⟨before ++ [notice left failedFrom (some route)], some r, some left⟩ ∧
        r.status = failedFrom ∧ r.Carries (.text left.text) := by
  cases h with
  | own h =>
    obtain ⟨r, hr, hsent⟩ := lastResort_of_not_hasPayload route [] h hwhole
    exact ⟨[], r, (handled_of_not_hasPayload h hown route).trans hr, hsent⟩
  | @unsent status _ fault hpayload h =>
    -- What a handler fails with is no rejection, so there is no handler for it.
    have hlast := not_hasPayload_fault settings h.ne_rejected
    obtain ⟨r, hr, hsent⟩ :=
      lastResort_of_not_hasPayload route [notice failure status (some route)] hlast hwhole
    exact ⟨_, r, (handled_of_unsent hpayload h own route).trans hr, hsent⟩

/-- Where no payload can be sent, something is passed on. -/
theorem exists_escapes (h : ¬ ∃ status payload, HasPayload settings failure status payload ∧
      payload.HasForm ∧ payload.isWhole = true) : ∃ left, Escapes settings failure left := by
  by_cases hpayload : ∃ status payload, HasPayload settings failure status payload
  · obtain ⟨status, payload, hpayload⟩ := hpayload
    obtain ⟨fault, hfault⟩ := exists_unsent_iff.mpr fun hsent => h ⟨status, payload, hpayload, hsent⟩
    exact ⟨.fault fault, .unsent hpayload hfault⟩
  · exact ⟨failure, .own hpayload⟩

/-- **Every failure of a route is answered**, once for all errors that the framework does not handle by itself and whose
texts can be sent.  An error of this program whose payload can be sent is answered with its status and its payload, and
nothing is passed on.  Any other failure is answered with status 500 and the text of what is passed on. -/
theorem failure_is_answered {outcome : Except Failure Value} (h : Fails outcome failure) (hown : own.Ignores outcome)
    (hwhole : ∀ e, outcome = .error (.other e) → e.text.isWhole = true) (settings : Settings) (route : Text) :
    ∃ r, (request own settings route outcome).response = some r ∧
      (∀ status payload, HasPayload settings failure status payload → payload.HasForm → payload.isWhole = true →
        (request own settings route outcome).passedOn = none ∧ r.Bears status payload) ∧
      ((¬ ∃ status payload, HasPayload settings failure status payload ∧
          payload.HasForm ∧ payload.isWhole = true) →
        ∃ left, Escapes settings failure left ∧ (request own settings route outcome).passedOn = some left ∧
          r.status = 500 ∧ r.Carries (.text left.text)) := by
  have hignored : own.Ignores (.error failure) := by
    cases h with
    | raised => exact hown
    | unsent => exact nofun
  have htold : ∀ e, failure = .other e → e.text.isWhole = true := by
    cases h with
    | raised =>
      rintro e rfl
      exact hwhole e rfl
    | unsent => exact nofun
  rw [request_of_fails h]
  by_cases hanswer : ∃ status payload, HasPayload settings failure status payload ∧
      payload.HasForm ∧ payload.isWhole = true
  · obtain ⟨status, payload, hpayload, hsent⟩ := hanswer
    obtain ⟨r, hr⟩ := exists_encoded_iff.mpr hsent
    rw [handled_of_sent hpayload hr]
    refine ⟨r, rfl, fun status' payload' hpayload' _ _ => ⟨rfl, ?_⟩, fun hnot => ?_⟩
    · -- A failure has one status and one payload.
      have hsame := hpayload.errorPayload_eq.symm.trans hpayload'.errorPayload_eq
      cases hsame
      exact bears_of_encoded hr
    · exact absurd ⟨status, payload, hpayload, hsent⟩ hnot
  · obtain ⟨left, hleft⟩ := exists_escapes hanswer
    obtain ⟨before, r, hr, hstatus, hcarries⟩ :=
      handled_of_escapes hleft hignored (hleft.isWhole_text htold) route
    rw [hr]
    refine ⟨r, rfl, fun status payload hpayload hform hsent => ?_, fun _ => ⟨left, hleft, rfl, hstatus, hcarries⟩⟩
    exact absurd ⟨status, payload, hpayload, hform, hsent⟩ hanswer

/-- A balance that is no number, as a result, and in the body of an error; and an error with no body. -/
theorem failure_is_answered_unwritten :
    let balance : Value := .object [("balance", .decimal (.nan false false 0))]
    let unwritten : Failure := .fault (.unencodable (.notFinite "nan"))
    let taken : Failure := .api ⟨409, balance, "taken"⟩
    let gone : Failure := .api ⟨404, .null, "gone"⟩
    (Fails (.ok balance) unwritten ∧ ∃ r, (request .none .standard "/balance" (.ok balance)).response = some r ∧
      ∃ left, Escapes .standard unwritten left ∧
        (request .none .standard "/balance" (.ok balance)).passedOn = some left ∧
        r.status = 500 ∧ r.Carries (.text left.text)) ∧
    (∃ r, (request .none .standard "/balance" (.error taken)).response = some r ∧
      ∃ left, Escapes .standard taken left ∧
        (request .none .standard "/balance" (.error taken)).passedOn = some left ∧
        r.status = 500 ∧ r.Carries (.text left.text)) ∧
    ∃ r, (request .none .standard "/balance" (.error gone)).response = some r ∧
      (request .none .standard "/balance" (.error gone)).passedOn = none ∧ r.Bears 404 .null := by
  intro balance unwritten taken gone
  have hown : ∀ outcome, OwnHandlers.none.Ignores outcome := fun _ _ _ => rfl
  have hwrite : Wire.write balance = .error (.notFinite "nan") := by decide +kernel
  have hform : ¬ balance.HasForm := Wire.exists_write_error_iff.mp ⟨_, hwrite⟩
  have hunwritten : ¬ ∃ status payload,
      HasPayload .standard (.fault (.unencodable (.notFinite "nan"))) status payload ∧
        payload.HasForm ∧ payload.isWhole = true := by
    rintro ⟨_, _, ⟨⟩, -⟩
  have htaken : ¬ ∃ status payload,
      HasPayload .standard (.api ⟨409, balance, "taken"⟩) status payload ∧
        payload.HasForm ∧ payload.isWhole = true := by
    rintro ⟨_, _, ⟨⟩, hbody, -⟩
    exact hform hbody
  obtain ⟨r, hr, -, hresult⟩ :=
    failure_is_answered (.unsent (.unwritten hwrite)) (hown _) (by rintro _ ⟨⟩) .standard "/balance"
  obtain ⟨r', hr', -, herror⟩ :=
    failure_is_answered (.raised (.api ⟨409, balance, "taken"⟩)) (hown _) (by rintro _ ⟨⟩) .standard "/balance"
  obtain ⟨r'', hr'', hempty, -⟩ :=
    failure_is_answered (.raised (.api ⟨404, .null, "gone"⟩)) (hown _) (by rintro _ ⟨⟩) .standard "/balance"
  exact ⟨⟨.unsent (.unwritten hwrite), r, hr, hresult hunwritten⟩, ⟨r', hr', herror htaken⟩,
    r'', hr'', hempty 404 .null (.api _) .null rfl⟩

/-- The framework answers for a page that is missing, and passes nothing on; and nobody answers for an error with half a
character in its text. -/
theorem own_handlers_answer_otherwise :
    let notFound : Response := ⟨404, some "\x7b\"detail\":\"Not Found\"\x7d"⟩
    let own : OwnHandlers := fun e => if e.className = "HTTPException" then some (.ok notFound) else none
    let missing : Failure := .other ⟨"HTTPException", "404: Not Found", .null⟩
    let half : Half := ⟨0xD800, by decide⟩
    let torn : Failure := .other ⟨"RuntimeError", [.half half], .null⟩
    (request own .standard "/pages" (.error missing)).response = some notFound ∧
      (request own .standard "/pages" (.error missing)).passedOn = Option.none ∧
      (request own .standard "/pages" (.error torn)).response = Option.none ∧
      ¬ ∀ (own : OwnHandlers) (settings : Settings) (route : Text) (e : OtherError),
        ∃ r, (request own settings route (.error (.other e))).response = some r ∧ r.status = 500 := by
  intro notFound own missing half torn
  have hresponse : (request own .standard "/pages" (.error missing)).response = some notFound := rfl
  have htorn : (request own .standard "/pages" (.error torn)).response = Option.none := by decide +kernel
  refine ⟨hresponse, rfl, htorn, fun h => ?_⟩
  obtain ⟨r, hr, hstatus⟩ := h own .standard "/pages" ⟨"HTTPException", "404: Not Found", .null⟩
  rw [hresponse] at hr
  cases hr
  cases hstatus

/-! ## Rejections -/

section Rejections
variable {rejection : Rejection}

/-- The payload of a rejection is made of texts, whatever was found. -/
theorem HasPayload.plain (h : HasPayload settings (.fault (.rejected rejection)) status payload) : payload.Plain := by
  cases h with
  | client =>
    have hnames : [Text.ofString "error", Text.ofString "path"].Nodup := by decide
    refine .object hnames fun f hf => ?_
    simp only [List.mem_cons, List.not_mem_nil, or_false] at hf
    rcases hf with rfl | rfl
    · exact .text _
    · exact .text _
  | internal => exact .text rejection.message

/-- The path stands in the message, so it is whole if that is. -/
theorem isWhole_path (h : rejection.message.isWhole = true) : rejection.path.text.isWhole = true := by
  simp only [Rejection.message, Text.isWhole_append, Bool.and_eq_true] at h
  obtain ⟨⟨⟨⟨⟨⟨-, hpath⟩, -⟩, -⟩, -⟩, -⟩, -⟩ := h
  exact hpath

/-- The texts of this payload are whole just when the message is. -/
theorem HasPayload.isWhole_eq (h : HasPayload settings (.fault (.rejected rejection)) status payload) :
    payload.isWhole = rejection.message.isWhole := by
  cases h with
  | client =>
    have hpair : ∀ message path : Text, (Value.object [("error", .text message), ("path", .text path)]).isWhole =
        (message.isWhole && path.isWhole) := by
      intro message path
      have hname : ∀ name : String, (Text.ofString name).isWhole = true := fun _ => Text.isWhole_ofChars _
      simp [Value.object, Value.isWhole, Value.entriesWhole, hname]
    rw [hpair]
    cases hmessage : rejection.message.isWhole with
    | true => rw [isWhole_path hmessage, Bool.and_true]
    | false => rw [Bool.false_and]
  | internal => rfl

theorem respond_rejected (h : HasPayload settings (.fault (.rejected rejection)) status payload) :
    (respond settings (.error (.fault (.rejected rejection)))).2 = encoded status payload := by
  rw [respond_error, failed, h.errorPayload_eq]

/-- With a whole message, adapter and route send one response, and it carries the payload. -/
theorem exists_answer (h : HasPayload settings (.fault (.rejected rejection)) status payload)
    (hwhole : rejection.message.isWhole = true) (own : OwnHandlers) (route : Text) :
    ∃ r, (respond settings (.error (.fault (.rejected rejection)))).2 = .ok r ∧
      (handled own settings route (.fault (.rejected rejection))).response = some r ∧
      (handled own settings route (.fault (.rejected rejection))).passedOn = none ∧
      r.status = status ∧ r.Carries payload := by
  have hplain := h.plain
  obtain ⟨r, hr⟩ := exists_encoded_iff.mpr ⟨hplain.hasForm, h.isWhole_eq.trans hwhole⟩
  obtain ⟨hstatus, -, -, hcarries⟩ := bears_of_encoded hr
  rw [handled_of_sent h hr own route]
  exact ⟨r, (respond_rejected h).trans hr, rfl, rfl, hstatus, hcarries hplain⟩

/-- With half a character in the message, the adapter fails, and the route answers with what it fails with. -/
theorem exists_torn_answer (h : HasPayload settings (.fault (.rejected rejection)) status payload)
    (htorn : rejection.message.isWhole = false) (own : OwnHandlers) (route : Text) :
    ∃ torn r, (respond settings (.error (.fault (.rejected rejection)))).2 = .error (.tornText torn) ∧
      (handled own settings route (.fault (.rejected rejection))).response = some r ∧
      (handled own settings route (.fault (.rejected rejection))).passedOn = some (.fault (.tornText torn)) ∧
      r.status = failedFrom ∧ r.Carries (.text torn.message) := by
  obtain ⟨torn, hunsent⟩ := exists_torn_iff.mpr ⟨h.plain.hasForm, h.isWhole_eq.trans htorn⟩
  have hown : own.Ignores (.error (.fault (.rejected rejection))) := by rintro _ ⟨⟩
  have hescapes : Escapes settings (.fault (.rejected rejection)) (.fault (.tornText torn)) := .unsent h hunsent
  obtain ⟨before, r, hr, hstatus, hcarries⟩ := handled_of_escapes hescapes hown (Text.isWhole_ofChars _) route
  rw [hr]
  exact ⟨torn, r, (respond_rejected h).trans (encoded_eq_error_iff.mpr hunsent), rfl, rfl, hstatus, hcarries⟩

end Rejections

/-- **A rejection with a whole message reaches the client.**  Whatever value was rejected, by whatever validator, the
adapter and the route send the same response, and the rejection goes no further.  It has the status that was chosen for
rejections, and the message and the path are read from it; or if rejections are failures like any other, status 500 and
the message.  If there is half a character in the message, be it of the value or of its path, the adapter fails, and
the route answers with status 500 that this text cannot be encoded. -/
theorem rejection_reaches_client {s : Spec} {x : Value} {path : Path} {rejection : Rejection}
    (h : s.validate x path = .error (.rejected rejection)) (own : OwnHandlers) (settings : Settings) (route : Text) :
    let outcome := (s.validate x path).mapError Failure.fault
    (rejection.message.isWhole = true →
      ∃ r, (respond settings outcome).2 = .ok r ∧ (request own settings route outcome).response = some r ∧
        (request own settings route outcome).passedOn = none ∧
        (settings.rejectionsAreClientErrors = true →
          r.status = settings.rejectionStatus ∧ 400 ≤ r.status ∧ r.status ≤ 499 ∧
            r.Carries (.object [("error", .text rejection.message), ("path", .text rejection.path.text)])) ∧
        (settings.rejectionsAreClientErrors = false → r.status = 500 ∧ r.Carries (.text rejection.message))) ∧
    (rejection.message.isWhole = false →
      ∃ torn r, (respond settings outcome).2 = .error (.tornText torn) ∧
        (request own settings route outcome).response = some r ∧
        (request own settings route outcome).passedOn = some (.fault (.tornText torn)) ∧
        r.status = 500 ∧ r.Carries (.text torn.message)) := by
  intro outcome
  have houtcome : outcome = .error (.fault (.rejected rejection)) := congrArg (Except.mapError Failure.fault) h
  obtain ⟨status, payload, hpayload⟩ := exists_hasPayload_rejected settings rejection
  rw [houtcome]
  refine ⟨fun hwhole => ?_, fun htorn => exists_torn_answer hpayload htorn own route⟩
  obtain ⟨r, hadapter, hroute, hpassed, hstatus, hcarries⟩ := exists_answer hpayload hwhole own route
  refine ⟨r, hadapter, hroute, hpassed, fun hclient => ?_, fun hfailure => ?_⟩
  · cases hpayload with
    | internal _ hfailure => rw [hclient] at hfailure; cases hfailure
    | client =>
      obtain ⟨hle, hge⟩ := settings.isClientStatus
      rw [← hstatus] at hle hge
      exact ⟨hstatus, hle, hge, hcarries⟩
  · cases hpayload with
    | client _ hclient => rw [hclient] at hfailure; cases hfailure
    | internal => exact ⟨hstatus, hcarries⟩

/-- What was found has no form, for several reasons, and its literal has quotes and a control character.  Behind it, what
was found has half a character. -/
theorem rejection_reaches_client_unwritten :
    let found : Value := .tuple [.float .nan, .bytes [0xFF], .text "it's\n"]
    let s : Spec := .array (.string none none false)
    let x : Value := .list [.text "a", found]
    let message := "Expected 'tags[1]' to be a string, but found: (nan, b'\\xff', \"it's\\n\") (tuple)"
    let chosen : Settings :=
      { Settings.standard with rejectionsAreClientErrors := true, rejectionStatus := 422, isClientStatus := by decide }
    let outcome := (s.validate x ⟨["tags"]⟩).mapError Failure.fault
    let half : Half := ⟨0xD800, by decide⟩
    let torn := (Spec.number.validate (.text ['a', .half half]) ⟨["n"]⟩).mapError Failure.fault
    ¬ found.HasForm ∧ s.validate x ⟨["tags"]⟩ = .error (unexpected "a string" found ⟨["tags[1]"]⟩) ∧
      (∃ r, (respond chosen outcome).2 = .ok r ∧ (request .none chosen "/tags" outcome).response = some r ∧
        r.status = 422 ∧ r.Carries (.object [("error", .text message), ("path", .text "tags[1]")])) ∧
      (∃ r, (respond .standard outcome).2 = .ok r ∧ (request .none .standard "/tags" outcome).response = some r ∧
        r.status = 500 ∧ r.Carries (.text message)) ∧
      ∃ t r, (respond .standard torn).2 = .error (.tornText t) ∧
        (request .none .standard "/numbers" torn).response = some r ∧
        (request .none .standard "/numbers" torn).passedOn = some (.fault (.tornText t)) ∧
        r.status = 500 ∧ r.Carries (.text t.message) := by
  intro found s x message chosen outcome half torn
  have hwrite : Wire.write found = .error (.notFinite "nan") := by decide +kernel
  have hrejected : s.validate x ⟨["tags"]⟩ = .error (unexpected "a string" found ⟨["tags[1]"]⟩) := rfl
  have hmessage : Rejection.message ⟨⟨["tags[1]"]⟩, "a string", found, true⟩ = message := by decide +kernel
  have hwhole : (Rejection.message ⟨⟨["tags[1]"]⟩, "a string", found, true⟩).isWhole = true := by
    rw [hmessage]
    exact Text.isWhole_ofChars _
  obtain ⟨hchosen, -⟩ := rejection_reaches_client hrejected .none chosen "/tags"
  obtain ⟨r, hadapter, hroute, -, hclient, -⟩ := hchosen hwhole
  obtain ⟨hstandard, -⟩ := rejection_reaches_client hrejected .none .standard "/tags"
  obtain ⟨r', hadapter', hroute', -, -, hfailure⟩ := hstandard hwhole
  obtain ⟨hstatus, -, -, hcarries⟩ := hclient rfl
  obtain ⟨hstatus', hcarries'⟩ := hfailure rfl
  rw [hmessage] at hcarries hcarries'
  have hnumber : Spec.number.validate (.text ['a', .half half]) ⟨["n"]⟩ =
      .error (unexpected "a number" (.text ['a', .half half]) ⟨["n"]⟩) := rfl
  have htorn : (Rejection.message ⟨⟨["n"]⟩, "a number", .text ['a', .half half], true⟩).isWhole = false := by
    decide +kernel
  obtain ⟨-, hhalf⟩ := rejection_reaches_client hnumber .none .standard "/numbers"
  exact ⟨Wire.exists_write_error_iff.mp ⟨_, hwrite⟩, hrejected, ⟨r, hadapter, hroute, hstatus, hcarries⟩,
    ⟨r', hadapter', hroute', hstatus', hcarries'⟩, hhalf htorn⟩

end Http
end Intake
