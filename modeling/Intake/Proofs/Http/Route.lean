import Intake.Proofs.Http.Response

/-! # A route answers as the adapter does

A computation can be answered in two ways.  The adapter encodes the result, and if that fails or the computation
failed, it encodes the payload of the failure (`respond`).  A route writes the result as JSON, and its failures go
to handlers, of which the last one also takes what the others fail to write (`request`).

The two meet in the responses to a failure.  A handler looks at null itself, where the adapter leaves it out of the
body, and this comes to the same (`answered_eq_failed`); whichever of the handlers here takes a failure, the response is
this one (`handled_response`).  So both send the same response wherever both can (`Answerable`): for each result other
than null, which a route writes down, and for each failure whose payload has a form.

In one point they part.  Half a character in a text does not keep it from being written, but there are no bytes for it.
The adapter has nobody left then who looks out for failures, and does not answer; a route still has its handlers
(`request_differs_for_torn_text`).
-/
namespace Intake.Http

variable {own : OwnHandlers} {settings : Settings} {route : Text} {outcome : Except Failure Value} {failure : Failure}
  {r : Response}

/-- The error that was raised, if any, is none that the framework handles by itself. -/
def OwnHandlers.Ignores (own : OwnHandlers) (outcome : Except Failure Value) : Prop :=
  ∀ e, outcome = .error (.other e) → own e = Option.none

/-- A handler answers a failure as the adapter does; its line in the log also names the route. -/
theorem answered_eq_failed : answered settings route failure = failed settings (some route) failure :=
  Prod.ext rfl (encoded_eq_ite _ _).symm

/-- The response does not depend on where the failure is noted. -/
theorem answered_of_failed (h : (failed settings none failure).2 = .ok r) : answered settings route failure =
    (notice failure (errorPayload settings failure).1 (some route), .ok r) :=
  answered_eq_failed.trans (Prod.ext rfl h)

theorem lastResort_response {before : List Notice} (h : (failed settings none failure).2 = .ok r) :
    (lastResort settings route before failure).response = some r := by
  rw [lastResort, answered_of_failed h]

/-- Whichever handler takes a failure, the response is the adapter's. -/
theorem handled_response (hown : own.Ignores (.error failure)) (h : (failed settings none failure).2 = .ok r) :
    (handled own settings route failure).response = some r := by
  rw [handled]
  rcases handler?_cases settings own route failure with ⟨e, rfl, hhandler⟩ | ⟨f, -, hhandler⟩ | hhandler
  · rw [hhandler, hown e rfl]
    exact lastResort_response h
  · rw [hhandler]
    exact lastResort_response h
  · rw [hhandler, answered_of_failed h]
    rfl

theorem request_sent {v : Value} (h : jsonResponse okStatus v = .ok r) :
    request own settings route (.ok v) = ⟨[], some r, none⟩ := by
  rw [request, h]

theorem request_unsent {v : Value} {fault : Fault} (h : Unsent v fault) :
    request own settings route (.ok v) = handled own settings route (.fault fault) := by
  rw [request, jsonResponse_eq_error_iff.mpr h]

/-- What both can answer: a result other than null that can be sent or has no form, and a failure whose payload can be
sent. -/
def Answerable (settings : Settings) : Except Failure Value → Prop
  | .ok v => v ≠ .null ∧ (v.HasForm → v.isWhole = true)
  | .error failure => (errorPayload settings failure).2.HasForm ∧ (errorPayload settings failure).2.isWhole = true

/-- Both send one response. -/
def Agree (own : OwnHandlers) (settings : Settings) (route : Text) (outcome : Except Failure Value) : Prop :=
  ∃ r, (respond settings outcome).2 = .ok r ∧ (request own settings route outcome).response = some r

theorem agree_error (hown : own.Ignores (.error failure)) (h : Answerable settings (.error failure)) :
    Agree own settings route (.error failure) := by
  obtain ⟨r, hr⟩ := (exists_failed_iff settings none failure).mpr h
  exact ⟨r, hr, handled_response hown hr⟩

theorem agree_ok {v : Value} (h : Answerable settings (.ok v)) : Agree own settings route (.ok v) := by
  obtain ⟨hv, hwhole⟩ := h
  cases hw : Wire.write v with
  | ok text =>
    have hform := Wire.exists_write_iff.mp ⟨text, hw⟩
    obtain ⟨r, hr⟩ := exists_encoded_iff.mpr ⟨hform, hwhole hform⟩
    refine ⟨r, ?_, ?_⟩
    · rw [respond_written hw]
      exact hr
    · rw [request_sent ((encoded_of_ne_null hv).symm.trans hr)]
  | error e =>
    have hfailure : Agree own settings route (.error (.fault (.unencodable e))) :=
      agree_error nofun ⟨.text _, Text.isWhole_ofChars _⟩
    rw [Agree, respond_unwritten hw, request_unsent (.unwritten hw)]
    exact hfailure

/-- **A route answers as the adapter does**, with the same status, body and content type, wherever both can, and for
nothing else: for a result other than null and for a failure whose payload can be written, unless there is half a
character in it.  An error whose body is null is answered by both with an empty response that has no content type. -/
theorem request_agrees_iff {own : OwnHandlers} {outcome : Except Failure Value} (hown : own.Ignores outcome)
    (settings : Settings) (route : Text) :
    ((∃ r, (respond settings outcome).2 = .ok r ∧ (request own settings route outcome).response = some r) ↔
      Answerable settings outcome) ∧
    ∀ status message, ∃ r : Response, r.status = status ∧ r.body = none ∧ r.contentType = none ∧
      (respond settings (.error (.api ⟨status, .null, message⟩))).2 = .ok r ∧
      (request own settings route (.error (.api ⟨status, .null, message⟩))).response = some r := by
  refine ⟨⟨?_, fun h => ?_⟩, fun status message => ?_⟩
  · rintro ⟨r, hrespond, hrequest⟩
    cases outcome with
    | error failure => exact (exists_failed_iff settings none failure).mp ⟨r, hrespond⟩
    | ok v =>
      refine ⟨?_, fun hform => ?_⟩
      · -- A route writes null down, where the adapter sends nothing.
        rintro rfl
        cases hrespond
        cases hrequest
      · obtain ⟨text, htext⟩ := Wire.exists_write_iff.mpr hform
        rw [respond_written htext] at hrespond
        exact (exists_encoded_iff.mp ⟨r, hrespond⟩).2
  · cases outcome with
    | error failure => exact agree_error hown h
    | ok v => exact agree_ok h
  · exact ⟨⟨status, none⟩, rfl, rfl, rfl, rfl, handled_response nofun rfl⟩

/-- The framework answers for a page that is missing, but not for any other error, and not for a result. -/
theorem request_agrees_iff_missing_page :
    let own : OwnHandlers := fun e =>
      if e.className = "HTTPException" then some (.ok ⟨404, some "\x7b\"detail\":\"Not Found\"\x7d"⟩) else none
    let boom : Except Failure Value := .error (.other ⟨"RuntimeError", "boom", .null⟩)
    own.Ignores boom ∧
      (∃ r, (respond .standard boom).2 = .ok r ∧ (request own .standard "/pages" boom).response = some r) ∧
      own.Ignores (.ok .null) ∧
      ¬ ∃ r, (respond .standard (.ok .null)).2 = .ok r ∧
        (request own .standard "/pages" (.ok .null)).response = some r := by
  intro own boom
  have hboom : own.Ignores boom := by
    intro e he
    obtain rfl := Failure.other.inj (Except.error.inj he)
    rfl
  have hnull : own.Ignores (.ok .null) := nofun
  have hanswerable : Answerable .standard boom := ⟨.text _, by decide⟩
  refine ⟨hboom, ?_, hnull, fun h => ?_⟩
  · exact (request_agrees_iff hboom .standard "/pages").1.mpr hanswerable
  · obtain ⟨hne, -⟩ := (request_agrees_iff hnull .standard "/pages").1.mp h
    exact hne rfl

/-- Half a character as a result: the route answers that it cannot be encoded, and the adapter does not answer. -/
theorem request_differs_for_torn_text :
    let half : Half := ⟨0xD800, by decide⟩
    let note : Value := .text [.half half]
    let answer : Response := ⟨500, some
      "\"'utf-8' codec can't encode character '\\\\ud800' in position 1: surrogates not allowed\""⟩
    (respond .standard (.ok note)).2 = .error (.tornText ⟨half, 1, 2⟩) ∧
      (request .none .standard "/notes" (.ok note)).response = some answer ∧
      ¬ ∀ v : Value, v ≠ .null → ∃ r, (respond .standard (.ok v)).2 = .ok r ∧
        (request .none .standard "/notes" (.ok v)).response = some r := by
  intro half note answer
  have hadapter : (respond .standard (.ok note)).2 = .error (.tornText ⟨half, 1, 2⟩) :=
    respond_eq_tornText_iff.mpr (.torn rfl rfl)
  have hroute : (request .none .standard "/notes" (.ok note)).response = some answer := by decide +kernel
  refine ⟨hadapter, hroute, fun h => ?_⟩
  obtain ⟨r, hr, -⟩ := h note (by simp [note])
  rw [hadapter] at hr
  cases hr

end Intake.Http
