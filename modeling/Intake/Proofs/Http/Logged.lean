import Intake.Proofs.Http.Handled

/-! # Every failure is logged once

A computation either comes to a result that has a form, or it fails in one way (`outcome_cases`, `Caught.unique`): on its
own, or because its result cannot be written.  In the first case nothing is logged and the result is sent
(`respond_of_hasForm`).  In the second case there is one line, before anybody knows whether the payload of the failure
can be sent, and line and response get their status from one place (`respond_of_caught`).

What the line says is said of the failure alone (`Notice.Tells`).  The status is that of the payload that an error of
this program has for the client, and 500 for every other failure (`AnsweredWith`).  The code belongs to the failure
that happened, not to the error that the client is told of: a rejection that is answered as the client's error has none,
and an error that this program knows nothing about has the code that it brings with it (`HasCode`).

A result that has a form but not whole texts is noticed by nobody; of that nothing is said here
(`foreign_code_is_logged`).
-/
namespace Intake.Http

variable {settings : Settings} {outcome : Except Failure Value} {failure : Failure} {status : Int}

/-- The failure that the adapter looks out for: that of the computation, or that of writing its result. -/
inductive Caught : Except Failure Value → Failure → Prop where
  | raised (failure : Failure) : Caught (.error failure) failure
  | unwritten {v : Value} {e : Json.WriteError} (h : Wire.write v = .error e) :
      Caught (.ok v) (.fault (.unencodable e))

/-- The status that a failure is answered with: the one that an error of this program brings with it, and 500 for all
others. -/
inductive AnsweredWith (settings : Settings) : Failure → Int → Prop where
  | own {failure : Failure} {status : Int} {payload : Value} (h : HasPayload settings failure status payload) :
      AnsweredWith settings failure status
  | other {failure : Failure} (h : ¬ ∃ status payload, HasPayload settings failure status payload) :
      AnsweredWith settings failure 500

/-- The code of a failure: an error of this program has one, an error from elsewhere may bring one, and a fault has
none. -/
inductive HasCode : Failure → Value → Prop where
  | service (e : ServiceError) : HasCode (.service e) (.text e.code)
  | api (a : ApiError) : HasCode (.api a) (.text "API_ERROR")
  | other (e : OtherError) : HasCode (.other e) e.code
  | fault (f : Fault) : HasCode (.fault f) .null

/-- What a line without a route says about a failure that is answered with a status: from 500 on it is an error that the
failure is attached to, and below it is a warning. -/
structure Notice.Tells (n : Notice) (failure : Failure) (status : Int) : Prop where
  status_eq : n.status = status
  route_eq : n.route = none
  code : HasCode failure n.code
  internal : 500 ≤ status → n.level = "ERROR" ∧ n.attached = some failure ∧
    n.message = "Request failed: " ++ failure.text
  client : status < 500 → n.level = "WARNING" ∧ n.attached = none ∧ n.message = "Request rejected: " ++ failure.text

/-! ## How a computation ends -/

theorem outcome_cases (outcome : Except Failure Value) :
    (∃ v, outcome = .ok v ∧ v.HasForm) ∨ ∃ failure, Caught outcome failure := by
  cases outcome with
  | error failure => exact Or.inr ⟨failure, .raised failure⟩
  | ok v =>
    rcases Wire.write_cases v with ⟨hform, -⟩ | ⟨-, e, he⟩
    · exact Or.inl ⟨v, rfl, hform⟩
    · exact Or.inr ⟨_, .unwritten he⟩

theorem Caught.unique {other : Failure} (h : Caught outcome failure) (h' : Caught outcome other) : failure = other := by
  cases h with
  | raised => cases h'; rfl
  | unwritten he =>
    cases h' with
    | unwritten he' => rw [Except.error.inj (he.symm.trans he')]

/-! ## What is answered, and what is logged -/

theorem answeredWith_errorPayload (settings : Settings) (failure : Failure) :
    AnsweredWith settings failure (errorPayload settings failure).1 := by
  by_cases h : ∃ status payload, HasPayload settings failure status payload
  · obtain ⟨status, payload, hpayload⟩ := h
    rw [hpayload.errorPayload_eq]
    exact .own hpayload
  · rw [errorPayload_of_not_hasPayload h]
    exact .other h

theorem hasCode_code (failure : Failure) : HasCode failure failure.code := by
  cases failure with
  | service e => exact .service e
  | api a => exact .api a
  | other e => exact .other e
  | fault f => exact .fault f

theorem notice_tells (failure : Failure) (status : Int) : (notice failure status none).Tells failure status where
  status_eq := rfl
  route_eq := rfl
  code := hasCode_code failure
  internal h := ⟨if_pos h, if_pos h, congrArg (fun s : String => s ++ failure.text) (if_pos h)⟩
  client h :=
    have hnot : ¬ (500 : Int) ≤ status := Int.not_le.mpr h
    ⟨if_neg hnot, if_neg hnot, congrArg (fun s : String => s ++ failure.text) (if_neg hnot)⟩

theorem respond_of_hasForm (settings : Settings) {v : Value} (h : v.HasForm) (hwhole : v.isWhole = true) :
    ∃ r, respond settings (.ok v) = ([], .ok r) ∧ r.status = 200 := by
  obtain ⟨text, htext⟩ := Wire.exists_write_iff.mpr h
  obtain ⟨r, hr⟩ := exists_encoded_iff.mpr ⟨h, hwhole⟩
  obtain ⟨hstatus, -, -, -⟩ := bears_of_encoded hr
  exact ⟨r, (respond_written htext).trans (congrArg (Prod.mk []) hr), hstatus⟩

theorem respond_of_caught (settings : Settings) (h : Caught outcome failure) :
    respond settings outcome = ([notice failure (errorPayload settings failure).1 none],
      encoded (errorPayload settings failure).1 (errorPayload settings failure).2) := by
  cases h with
  | raised => rfl
  | unwritten he => rw [respond_unwritten he]; rfl

/-- **Every failure is logged once.**  Let the result, if the computation comes to one that has a form, have whole texts.
Nothing is logged when a result is sent, with status 200, which is when the computation comes to one that has a form.
Otherwise it fails in one way, and there is one line about this failure.  Its status is the one that the failure is
answered with, and any response that is sent has it too; the rest of the line follows from the failure and this
status. -/
theorem failure_is_logged_once {outcome : Except Failure Value}
    (hwhole : ∀ v, outcome = .ok v → v.HasForm → v.isWhole = true) (settings : Settings) :
    (∃ v r, outcome = .ok v ∧ v.HasForm ∧ respond settings outcome = ([], .ok r) ∧ r.status = 200) ∨
    ∃ failure n, (∀ other, Caught outcome other ↔ other = failure) ∧ (respond settings outcome).1 = [n] ∧
      n.status = (errorPayload settings failure).1 ∧ AnsweredWith settings failure n.status ∧
      n.Tells failure n.status ∧ ∀ r, (respond settings outcome).2 = .ok r → r.status = n.status := by
  rcases outcome_cases outcome with ⟨v, rfl, hform⟩ | ⟨failure, hcaught⟩
  · obtain ⟨r, hr, hstatus⟩ := respond_of_hasForm settings hform (hwhole v rfl hform)
    exact Or.inl ⟨v, r, rfl, hform, hr, hstatus⟩
  · refine Or.inr ⟨failure, notice failure (errorPayload settings failure).1 none, fun other => ⟨?_, ?_⟩, ?_, rfl,
      answeredWith_errorPayload settings failure, notice_tells failure _, fun r hr => ?_⟩
    · exact fun hother => hother.unique hcaught
    · rintro rfl
      exact hcaught
    · rw [respond_of_caught settings hcaught]
    · rw [respond_of_caught settings hcaught] at hr
      exact (bears_of_encoded hr).status_eq

/-- A rejection that is answered as the client's error has that status and no code, and an error whose body has no form
is logged though it is not answered. -/
theorem failure_is_logged_once_unanswered :
    let chosen : Settings :=
      { Settings.standard with rejectionsAreClientErrors := true, rejectionStatus := 422, isClientStatus := by decide }
    let rejected : Failure := .fault (.rejected ⟨⟨["tags"]⟩, "a string", .null, true⟩)
    let taken : Failure := .api ⟨409, .object [("balance", .decimal (.nan false false 0))], "taken"⟩
    (∃ n r, respond chosen (.error rejected) = ([n], .ok r) ∧ r.status = 422 ∧ n.status = 422 ∧ n.code = .null ∧
      n.level = "WARNING" ∧ n.attached = none) ∧
    ∃ n e, respond chosen (.error taken) = ([n], .error e) ∧ n.status = 409 ∧ n.code = .text "API_ERROR" ∧
      n.level = "WARNING" ∧ n.attached = none := by
  intro chosen rejected taken
  have hanswered : ∃ r, (respond chosen (.error rejected)).2 = .ok r := ⟨_, rfl⟩
  have hwrite : Wire.write (.object [("balance", .decimal (.nan false false 0))]) = .error (.notFinite "nan") := by
    decide +kernel
  have hunanswered : (respond chosen (.error taken)).2 = .error (.unencodable (.notFinite "nan")) :=
    respond_eq_unencodable_iff.mpr ⟨_, rfl, hwrite⟩
  constructor
  · obtain ⟨r, hr⟩ := hanswered
    obtain ⟨_, _, ⟨⟩, -⟩ | ⟨failure, n, hcaught, hlog, hstatus, -, htells, hresponse⟩ :=
      @failure_is_logged_once (.error rejected) (by rintro _ ⟨⟩) chosen
    obtain rfl := (hcaught rejected).mp (.raised rejected)
    have hn : n.status = 422 := hstatus
    obtain ⟨hlevel, hattached, -⟩ := htells.client (by rw [hn]; decide)
    have hnone : ∀ r code, HasCode (.fault (.rejected r)) code → code = .null := by
      rintro r _ ⟨⟩
      rfl
    exact ⟨n, r, Prod.ext hlog hr, (hresponse r hr).trans hn, hn, hnone _ _ htells.code, hlevel, hattached⟩
  · obtain ⟨_, _, ⟨⟩, -⟩ | ⟨failure, n, hcaught, hlog, hstatus, -, htells, -⟩ :=
      @failure_is_logged_once (.error taken) (by rintro _ ⟨⟩) chosen
    obtain rfl := (hcaught taken).mp (.raised taken)
    have hn : n.status = 409 := hstatus
    obtain ⟨hlevel, hattached, -⟩ := htells.client (by rw [hn]; decide)
    have hcode : ∀ a code, HasCode (.api a) code → code = .text "API_ERROR" := by
      rintro a _ ⟨⟩
      rfl
    exact ⟨n, _, Prod.ext hlog hunanswered, hn, hcode _ _ htells.code, hlevel, hattached⟩

/-- An error that is none of this program's brings a code along, which is logged; and of a result with half a character
nothing is logged, though it is not answered. -/
theorem foreign_code_is_logged :
    let missing : OtherError := ⟨"HTTPError", "HTTP Error 404: Not Found", .int 404⟩
    let half : Half := ⟨0xD800, by decide⟩
    (respond .standard (.error (.other missing))).1.map Notice.code = [.int 404] ∧
      respond .standard (.ok (.text [.half half])) = ([], .error (.tornText ⟨half, 1, 2⟩)) ∧
      ¬ ∀ (settings : Settings) (e : OtherError) (n : Notice),
        (respond settings (.error (.other e))).1 = [n] → n.code = .null := by
  intro missing half
  have hunsent : Unsent (.text [.half half]) (.tornText ⟨half, 1, 2⟩) := .torn rfl rfl
  have htorn : respond .standard (.ok (.text [.half half])) = ([], .error (.tornText ⟨half, 1, 2⟩)) :=
    (respond_written rfl).trans (congrArg (Prod.mk []) (encoded_eq_error_iff.mpr hunsent))
  refine ⟨rfl, htorn, fun h => ?_⟩
  cases h .standard missing _ rfl

end Intake.Http
