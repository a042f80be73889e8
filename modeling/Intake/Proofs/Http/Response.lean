import Intake.Proofs.Http.Bodies

/-! # What a computation is answered with

A value can be sent iff it has a JSON form and its texts are whole (`exists_encoded_iff`): without the one there is no
text, and without the other the text has no bytes (`Unsent`).  A result without a form is a failure, and the payload of
a failure is what is sent instead of a result.  The payloads that this program makes up itself, of texts alone, always
have a form; the body of an `ApiError` is the only payload that comes from a caller (`hasForm_errorPayload_iff`).

So a response can fail in two ways (`respond_answers_iff`).  An error was raised with a message of its own, so that
nobody had to write its body before, and that body has no form; or there is half a character in what is to be sent,
which nobody notices before the text has to become bytes.

A plain value with whole texts arrives as it was.  `Response.Carries` says of a response that it is empty and has no
content type if the value is null, and otherwise is JSON from whose bytes the very value is read.  What is no value at
all and what is only false, zero or empty are never confused (`plain_value_carried`).
-/
namespace Intake

/-- A computation succeeds if it does not fail. -/
theorem exists_ok_iff {ε α : Type} {x : Except ε α} : (∃ a, x = .ok a) ↔ ¬ ∃ e, x = .error e := by
  cases x with
  | ok a => exact ⟨fun _ => nofun, fun _ => ⟨a, rfl⟩⟩
  | error e => exact ⟨nofun, fun h => absurd ⟨e, rfl⟩ h⟩

/-! ## Values with a form -/

theorem Value.hasForm_object {fields : List (Text × Value)} (h : ∀ f ∈ fields, f.2.HasForm) :
    (object fields).HasForm := by
  refine .map (fun e he => ?_) fun e he => ?_
  · obtain ⟨f, -, rfl⟩ := List.mem_map.mp he
    exact .text f.1
  · obtain ⟨f, hf, rfl⟩ := List.mem_map.mp he
    exact h f hf

theorem Value.Plain.hasForm {v : Value} (h : v.Plain) : v.HasForm := by
  obtain ⟨t, hwrite, -⟩ := h.exists_tree
  exact Json.hasForm_of_ofValue v hwrite

theorem ServiceError.hasForm_payload (e : ServiceError) : e.payload.HasForm := by
  refine Value.hasForm_object fun f hf => ?_
  rw [List.mem_singleton.mp hf]
  refine Value.hasForm_object fun f hf => ?_
  simp only [List.mem_cons, List.not_mem_nil, or_false] at hf
  rcases hf with rfl | rfl | rfl | rfl <;> exact .text _

theorem Rejection.hasForm_body (r : Rejection) (status : Int) : (r.toApiError status).body.HasForm := by
  refine Value.hasForm_object fun f hf => ?_
  simp only [List.mem_cons, List.not_mem_nil, or_false] at hf
  rcases hf with rfl | rfl <;> exact .text _

namespace Wire
variable {v : Value}

theorem exists_write_iff : (∃ text, write v = .ok text) ↔ v.HasForm := by
  rcases write_cases v with ⟨hform, text, w, htext, -⟩ | ⟨hform, e, he⟩
  · exact ⟨fun _ => hform, fun _ => ⟨text, htext⟩⟩
  · refine ⟨?_, fun h => absurd h hform⟩
    rintro ⟨text, htext⟩
    rw [he] at htext
    cases htext

theorem exists_write_error_iff : (∃ e, write v = .error e) ↔ ¬ v.HasForm := by
  rw [← exists_write_iff, exists_ok_iff, Classical.not_not]

/-- No bytes at all are no JSON. -/
theorem readBytes_nil : readBytes [] = .error (.malformedJson ⟨.expectingValue, ⟨1, 1, 0⟩, none⟩) :=
  readBytes_encode []

end Wire

/-- Without a message of its own, an error has its body's text. -/
theorem ApiError.make?_of_write {status : Int} {body : Value} {text : Text} (h : Wire.write body = .ok text) :
    make? status body none = .ok ⟨status, body, text⟩ := by
  rw [make?, h]
  rfl

namespace Http

/-! ## Values that cannot be sent -/

section Unsent
variable {v : Value} {status : Int} {fault : Fault}

/-- Why a value cannot be sent: it has no text, or its text has no bytes. -/
inductive Unsent (v : Value) : Fault → Prop where
  | unwritten {e : Json.WriteError} (h : Wire.write v = .error e) : Unsent v (.unencodable e)
  | torn {text : Text} {torn : Torn} (h : Wire.write v = .ok text) (htorn : text.chars = .error torn) :
      Unsent v (.tornText torn)

theorem jsonResponse_eq_error_iff : jsonResponse status v = .error fault ↔ Unsent v fault := by
  rw [jsonResponse]
  constructor
  · intro h
    split at h
    · rename_i text htext
      rw [sent] at h
      split at h
      · cases h
      · rename_i torn htorn
        cases h
        exact .torn htext htorn
    · rename_i e he
      cases h
      exact .unwritten he
  · rintro (he | ⟨htext, htorn⟩)
    · rw [he]
    · rw [htext]
      dsimp only
      rw [sent, htorn]

/-- Null always can. -/
theorem ne_null_of_unsent (h : Unsent v fault) : v ≠ .null := by
  rintro rfl
  rcases h with he | ⟨htext, htorn⟩
  · cases he
  · cases htext
    cases htorn

theorem encoded_eq_error_iff : encoded status v = .error fault ↔ Unsent v fault := by
  constructor
  · intro h
    have hv : v ≠ .null := by
      rintro rfl
      cases h
    rw [encoded_of_ne_null hv] at h
    exact jsonResponse_eq_error_iff.mp h
  · intro h
    rw [encoded_of_ne_null (ne_null_of_unsent h)]
    exact jsonResponse_eq_error_iff.mpr h

/-- What can be sent has a form and whole texts. -/
theorem exists_unsent_iff : (∃ fault, Unsent v fault) ↔ ¬ (v.HasForm ∧ v.isWhole = true) := by
  constructor
  · rintro ⟨_, he | ⟨htext, htorn⟩⟩ ⟨hform, hwhole⟩
    · exact Wire.exists_write_error_iff.mp ⟨_, he⟩ hform
    · obtain ⟨cs, rfl⟩ := Text.isWhole_iff.mp ((Wire.isWhole_of_write htext).trans hwhole)
      rw [Text.chars_ofChars] at htorn
      cases htorn
  · intro h
    cases hw : Wire.write v with
    | error e => exact ⟨_, .unwritten hw⟩
    | ok text =>
      -- A text either has its characters, and so is whole, or is torn somewhere.
      cases hc : text.chars with
      | error torn => exact ⟨_, .torn hw hc⟩
      | ok cs =>
        have hwhole : text.isWhole = true := Text.isWhole_iff.mpr ⟨cs, Text.chars_eq_ok_iff.mp hc⟩
        exact absurd ⟨Wire.exists_write_iff.mp ⟨text, hw⟩, (Wire.isWhole_of_write hw).symm.trans hwhole⟩ h

theorem exists_encoded_iff : (∃ r, encoded status v = .ok r) ↔ v.HasForm ∧ v.isWhole = true := by
  rw [exists_ok_iff, ← Classical.not_not (a := v.HasForm ∧ v.isWhole = true), ← exists_unsent_iff]
  simp only [encoded_eq_error_iff]

/-- Half a character in a value that has a form keeps its text from having bytes. -/
theorem exists_torn_iff : (∃ torn, Unsent v (.tornText torn)) ↔ v.HasForm ∧ v.isWhole = false := by
  constructor
  · rintro ⟨torn, hunsent⟩
    rcases hunsent with _ | ⟨htext, htorn⟩
    have hform : v.HasForm := Wire.exists_write_iff.mp ⟨_, htext⟩
    refine ⟨hform, Bool.eq_false_iff.mpr fun hwhole => ?_⟩
    exact exists_unsent_iff.mp ⟨_, .torn htext htorn⟩ ⟨hform, hwhole⟩
  · rintro ⟨hform, hwhole⟩
    have hunsent : ¬ (v.HasForm ∧ v.isWhole = true) := fun h => Bool.false_ne_true (hwhole.symm.trans h.2)
    obtain ⟨_, he | ⟨htext, htorn⟩⟩ := exists_unsent_iff.mpr hunsent
    · exact absurd hform (Wire.exists_write_error_iff.mp ⟨_, he⟩)
    · exact ⟨_, .torn htext htorn⟩

end Unsent

/-! ## Payloads -/

section Payloads
variable {settings : Settings} {failure : Failure}

theorem errorPayload_rejected (settings : Settings) (r : Rejection) :
    errorPayload settings (.fault (.rejected r)) = if settings.rejectionsAreClientErrors then
      (settings.rejectionStatus, (r.toApiError settings.rejectionStatus).body)
    else (failedFrom, .text r.message) := rfl

/-- A payload has a form, unless it is the body of an error that has none. -/
theorem hasForm_errorPayload_iff : (errorPayload settings failure).2.HasForm ↔
    ¬ ∃ a : ApiError, failure = .api a ∧ ¬ a.body.HasForm := by
  cases failure with
  | api a =>
    refine ⟨fun h => ?_, fun h => Classical.byContradiction fun hbody => h ⟨a, rfl, hbody⟩⟩
    rintro ⟨_, ⟨⟩, hbody⟩
    exact hbody h
  | service e => exact ⟨fun _ => nofun, fun _ => e.hasForm_payload⟩
  | other e => exact ⟨fun _ => nofun, fun _ => .text _⟩
  | fault f =>
    refine ⟨fun _ => nofun, fun _ => ?_⟩
    cases f with
    | rejected r =>
      rw [errorPayload_rejected]
      split
      · exact r.hasForm_body settings.rejectionStatus
      · exact .text _
    | _ => exact .text _

end Payloads

/-! ## Responding -/

section Respond
variable {settings : Settings} {outcome : Except Failure Value} {failure : Failure} {v : Value}

theorem failed_eq_error_iff {route : Option Text} {fault : Fault} :
    (failed settings route failure).2 = .error fault ↔ Unsent (errorPayload settings failure).2 fault :=
  encoded_eq_error_iff

theorem exists_failed_iff (settings : Settings) (route : Option Text) (failure : Failure) :
    (∃ r, (failed settings route failure).2 = .ok r) ↔
      (errorPayload settings failure).2.HasForm ∧ (errorPayload settings failure).2.isWhole = true :=
  exists_encoded_iff

/-- A failure to write something is told in whole texts. -/
theorem exists_failed_unencodable (settings : Settings) (route : Option Text) (e : Json.WriteError) :
    ∃ r, (failed settings route (.fault (.unencodable e))).2 = .ok r :=
  (exists_failed_iff settings route _).mpr ⟨.text _, Text.isWhole_ofChars _⟩

/-- What is to be sent: a result, or the payload of a failure. -/
def toSend (settings : Settings) : Except Failure Value → Value
  | .ok v => v
  | .error failure => (errorPayload settings failure).2

/-- No response is sent if what is to be sent cannot be, unless it is a result without a form: that is a failure, which
is told of instead. -/
theorem respond_eq_error_iff {fault : Fault} : (respond settings outcome).2 = .error fault ↔
    Unsent (toSend settings outcome) fault ∧ ∀ v e, outcome = .ok v → fault ≠ .unencodable e := by
  cases outcome with
  | error failure =>
    rw [respond_error, failed_eq_error_iff, toSend, and_iff_left nofun]
  | ok v =>
    cases hw : Wire.write v with
    | ok text =>
      rw [respond_written hw, encoded_eq_error_iff, toSend]
      refine ⟨fun h => ⟨h, ?_⟩, And.left⟩
      rintro _ e - rfl
      rcases h with he | _
      rw [hw] at he
      cases he
    | error e =>
      -- The failure to write the result is always answered.
      obtain ⟨r, hr⟩ := exists_failed_unencodable settings none e
      rw [respond_unwritten hw, respond_error, hr, toSend]
      refine ⟨nofun, ?_⟩
      rintro ⟨_ | ⟨htext, -⟩, hne⟩
      · exact absurd rfl (hne v _ rfl)
      · rw [hw] at htext
        cases htext

theorem respond_eq_unencodable_iff {e : Json.WriteError} : (respond settings outcome).2 = .error (.unencodable e) ↔
    ∃ a : ApiError, outcome = .error (.api a) ∧ Wire.write a.body = .error e := by
  rw [respond_eq_error_iff]
  constructor
  · rintro ⟨he | _, hne⟩
    cases outcome with
    | ok v => exact absurd rfl (hne v e rfl)
    | error failure =>
      -- Of all payloads only the body of an error can be without a form.
      obtain ⟨a, rfl, -⟩ :=
        Classical.not_not.mp (mt hasForm_errorPayload_iff.mpr (Wire.exists_write_error_iff.mp ⟨e, he⟩))
      exact ⟨a, rfl, he⟩
  · rintro ⟨a, rfl, he⟩
    exact ⟨.unwritten he, nofun⟩

theorem respond_eq_tornText_iff {torn : Torn} : (respond settings outcome).2 = .error (.tornText torn) ↔
    Unsent (toSend settings outcome) (.tornText torn) := by
  rw [respond_eq_error_iff, and_iff_left nofun]

theorem exists_respond_iff : (∃ r, (respond settings outcome).2 = .ok r) ↔
    (¬ ∃ a : ApiError, outcome = .error (.api a) ∧ ¬ a.body.HasForm) ∧
      ¬ ((toSend settings outcome).HasForm ∧ (toSend settings outcome).isWhole = false) := by
  rw [exists_ok_iff]
  constructor
  · intro hanswered
    constructor
    · rintro ⟨a, rfl, hbody⟩
      obtain ⟨e, he⟩ := Wire.exists_write_error_iff.mpr hbody
      exact hanswered ⟨_, respond_eq_unencodable_iff.mpr ⟨a, rfl, he⟩⟩
    · intro htorn
      obtain ⟨torn, hunsent⟩ := exists_torn_iff.mpr htorn
      exact hanswered ⟨_, respond_eq_tornText_iff.mpr hunsent⟩
  · rintro ⟨hbody, hwhole⟩ ⟨fault, hfault⟩
    obtain ⟨hunsent, -⟩ := respond_eq_error_iff.mp hfault
    rcases hunsent with _ | _
    · obtain ⟨a, houtcome, he⟩ := respond_eq_unencodable_iff.mp hfault
      exact hbody ⟨a, houtcome, Wire.exists_write_error_iff.mp ⟨_, he⟩⟩
    · exact hwhole (exists_torn_iff.mp ⟨_, respond_eq_tornText_iff.mp hfault⟩)

/-- An error without a message of its own is made, and answered, just when its body can be sent. -/
theorem exists_make?_iff (settings : Settings) (status : Int) (body : Value) :
    (∃ a, ApiError.make? status body none = .ok a ∧ ∃ r, (respond settings (.error (.api a))).2 = .ok r) ↔
      body.HasForm ∧ body.isWhole = true := by
  constructor
  · rintro ⟨a, ha, hr⟩
    obtain ⟨text, -, rfl⟩ := Json.map_eq_ok ha
    exact (exists_failed_iff settings none (.api ⟨status, body, text⟩)).mp hr
  · intro h
    obtain ⟨text, htext⟩ := Wire.exists_write_iff.mpr h.1
    exact ⟨⟨status, body, text⟩, ApiError.make?_of_write htext, (exists_failed_iff settings none (.api _)).mpr h⟩

end Respond

/-- **A computation is answered, unless its error has a body without a form, or there is half a character in what is to
be sent.**  The failure is then that of writing this body, or of turning this text into bytes.  An error that takes its
message from its body can only be made of a body that has a form, and is answered just when the texts in it are
whole. -/
theorem respond_answers_iff (settings : Settings) (outcome : Except Failure Value) :
    ((∃ r, (respond settings outcome).2 = .ok r) ↔
      (¬ ∃ a : ApiError, outcome = .error (.api a) ∧ ¬ a.body.HasForm) ∧
        ¬ ((toSend settings outcome).HasForm ∧ (toSend settings outcome).isWhole = false)) ∧
    (∀ e, (respond settings outcome).2 = .error (.unencodable e) ↔
      ∃ a : ApiError, outcome = .error (.api a) ∧ Wire.write a.body = .error e) ∧
    (∀ torn, (respond settings outcome).2 = .error (.tornText torn) ↔
      ∃ text, Wire.write (toSend settings outcome) = .ok text ∧ text.chars = .error torn) ∧
    ∀ status body, (∃ a, ApiError.make? status body none = .ok a ∧
      ∃ r, (respond settings (.error (.api a))).2 = .ok r) ↔ body.HasForm ∧ body.isWhole = true := by
  refine ⟨exists_respond_iff, fun _ => respond_eq_unencodable_iff, fun torn => ?_, exists_make?_iff settings⟩
  rw [respond_eq_tornText_iff]
  constructor
  · rintro (_ | ⟨htext, htorn⟩)
    exact ⟨_, htext, htorn⟩
  · rintro ⟨text, htext, htorn⟩
    exact .torn htext htorn

/-- A balance that is no number, in the body of an error that has a message of its own, and half a character as a
result: not every computation is answered. -/
theorem respond_fails_for_unwritten_body :
    let a : ApiError := ⟨409, .object [("balance", .decimal (.nan false false 0))], "taken"⟩
    let half : Half := ⟨0xD800, by decide⟩
    (respond .standard (.error (.api a))).2 = .error (.unencodable (.notFinite "nan")) ∧
      (respond .standard (.ok (.text [.half half]))).2 = .error (.tornText ⟨half, 1, 2⟩) ∧
      ¬ ∀ (settings : Settings) (outcome : Except Failure Value), ∃ r, (respond settings outcome).2 = .ok r := by
  intro a half
  have hbody : Wire.write a.body = .error (.notFinite "nan") := by decide +kernel
  have hfails : (respond .standard (.error (.api a))).2 = .error (.unencodable (.notFinite "nan")) :=
    respond_eq_unencodable_iff.mpr ⟨a, rfl, hbody⟩
  have hunsent : Unsent (.text [.half half]) (.tornText ⟨half, 1, 2⟩) := .torn rfl rfl
  refine ⟨hfails, respond_eq_tornText_iff.mpr hunsent, fun h => ?_⟩
  obtain ⟨r, hr⟩ := h .standard (.error (.api a))
  rw [hfails] at hr
  cases hr

/-! ## Plain values arrive -/

/-- The bytes of the body; an empty response has none. -/
def Response.bytes (r : Response) : List UInt8 :=
  match r.body with
  | some text => Utf8.encode text.toList
  | none => []

/-- Null is an empty response without a content type, and every other value is JSON whose bytes are read as this
value. -/
def Response.Carries (r : Response) (v : Value) : Prop :=
  (v = .null ∧ r.bytes = [] ∧ r.contentType = none) ∨
    (v ≠ .null ∧ r.bytes ≠ [] ∧ r.contentType = some "application/json" ∧ Wire.readBytes r.bytes = .ok v)

/-- A plain value is carried by the response that it is encoded in, whatever the status. -/
theorem exists_carries {v : Value} (h : v.Plain) (hwhole : v.isWhole = true) (status : Int) :
    ∃ r, encoded status v = .ok r ∧ r.status = status ∧ r.Carries v := by
  by_cases hv : v = .null
  · subst hv
    exact ⟨⟨status, none⟩, rfl, rfl, Or.inl ⟨rfl, rfl, rfl⟩⟩
  · obtain ⟨text, htext, -, hbytes⟩ := Wire.read_undoes_write h
    obtain ⟨cs, rfl, hread⟩ := hbytes hwhole
    rw [← String.toList_ofList (l := cs)] at hread
    refine ⟨⟨status, some (String.ofList cs)⟩, ?_, rfl, Or.inr ⟨hv, fun hempty => ?_, rfl, hread⟩⟩
    · rw [encoded_of_ne_null hv]
      exact jsonResponse_eq_ok_iff.mpr ⟨cs, htext, rfl⟩
    · rw [show Utf8.encode (String.ofList cs).toList = [] from hempty, Wire.readBytes_nil] at hread
      cases hread

/-- **A plain value with whole texts arrives as it was**, as a result and as the body of an error with any status.  Null
alone is sent as an empty response. -/
theorem plain_value_carried {v : Value} (h : v.Plain) (hwhole : v.isWhole = true) (settings : Settings) :
    (∃ r, (respond settings (.ok v)).2 = .ok r ∧ r.status = 200 ∧ r.Carries v) ∧
    ∀ status message, ∃ a r, ApiError.make? status v message = .ok a ∧
      (respond settings (.error (.api a))).2 = .ok r ∧ r.status = status ∧ r.Carries v := by
  constructor
  · obtain ⟨text, htext⟩ := Wire.exists_write_iff.mpr h.hasForm
    obtain ⟨r, hr, hstatus, hcarries⟩ := exists_carries h hwhole okStatus
    refine ⟨r, ?_, hstatus, hcarries⟩
    rw [respond_written htext]
    exact hr
  · intro status message
    obtain ⟨r, hr, hstatus, hcarries⟩ := exists_carries h hwhole status
    cases message with
    | some message => exact ⟨⟨status, v, message⟩, r, rfl, hr, hstatus, hcarries⟩
    | none =>
      obtain ⟨text, htext⟩ := Wire.exists_write_iff.mpr h.hasForm
      exact ⟨⟨status, v, text⟩, r, ApiError.make?_of_write htext, hr, hstatus, hcarries⟩

/-- Nothing, and what is nearest to it. -/
theorem plain_value_carried_nothing :
    let values : List Value := [.null, .bool false, .decimal (.finite ⟨true, 0, -2⟩ (by decide)), .text "",
      .list [], .object []]
    ∀ v ∈ values, v.Plain ∧ v.isWhole = true ∧
      (∃ r, (respond .standard (.ok v)).2 = .ok r ∧ r.status = 200 ∧ r.Carries v) ∧
      ∀ status message, ∃ a r, ApiError.make? status v message = .ok a ∧
        (respond .standard (.error (.api a))).2 = .ok r ∧ r.status = status ∧ r.Carries v := by
  intro values v hv
  have hplain : v.Plain := by
    simp only [values, List.mem_cons, List.not_mem_nil, or_false] at hv
    rcases hv with rfl | rfl | rfl | rfl | rfl | rfl
    · exact .null
    · exact .bool false
    · exact .decimal _ _
    · exact .text ""
    · exact .list (List.forall_mem_nil _)
    · exact .object List.nodup_nil (List.forall_mem_nil _)
  have hwhole : v.isWhole = true := by
    have hall : values.all Value.isWhole = true := by decide
    exact List.all_eq_true.mp hall v hv
  exact ⟨hplain, hwhole, plain_value_carried hplain hwhole .standard⟩

end Http

end Intake
