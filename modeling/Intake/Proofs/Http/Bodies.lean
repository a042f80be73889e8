import Intake.Http.Route
import Intake.Proofs.Json.Form
import Intake.Proofs.Wire.RoundTrip
import Mathlib.Control.Monad.Basic

/-! # Whatever is written can be read

A value with a JSON form has a text, and the text is read; a value without one is refused, and nothing is written
(`Wire.write_cases`).  The text has bytes when all texts in the value are whole, and the bytes are read as well.  So
bytes that are written at all are read (`Wire.exists_value_of_write`).

All bodies are such bytes.  A response to a result, to a failure and to a failure of the handler for a failure is each
made by `Http.encoded` or `Http.jsonResponse`, which differ for null alone (`Http.encoded_of_ne_null`).  So no response
is sent as JSON that the same reader refuses (`Http.Response.Decodes`), other than what the framework answers by itself
(`Http.OwnHandlers.Answer`).
-/
namespace Intake

namespace Wire

/-- Either a value has a form, and a text that is read, or it is refused. -/
theorem write_cases (v : Value) :
    (v.HasForm ∧ ∃ text w, write v = .ok text ∧ read text = .ok w ∧
      (v.isWhole = true → ∃ cs, text = .ofChars cs ∧ readBytes (Utf8.encode cs) = .ok w)) ∨
    (¬ v.HasForm ∧ ∃ e, write v = .error e) := by
  by_cases h : v.HasForm
  · obtain ⟨t, w, hwrite, hvalue⟩ := h.readable
    obtain ⟨text, htext⟩ := exists_text_of_tree hwrite hvalue
    exact Or.inl ⟨h, text, w, htext⟩
  · refine Or.inr ⟨h, ?_⟩
    cases ht : Json.ofValue v with
    | error e => exact ⟨e, by rw [write, ht]; rfl⟩
    | ok t => exact absurd (Json.exists_ofValue_iff.mp ⟨t, ht⟩) h

theorem exists_value_of_write {v : Value} {cs : List Char} (h : write v = .ok (.ofChars cs)) :
    ∃ w, readBytes (Utf8.encode cs) = .ok w := by
  rcases write_cases v with ⟨-, text, w, htext, -, hbytes⟩ | ⟨-, e, he⟩
  · rw [h] at htext
    cases htext
    have hwhole : v.isWhole = true := (isWhole_of_write h).symm.trans (Text.isWhole_ofChars cs)
    obtain ⟨cs', hcs, hread⟩ := hbytes hwhole
    rw [← Text.ofChars_inj.mp hcs] at hread
    exact ⟨w, hread⟩
  · rw [h] at he
    cases he

end Wire

namespace Http

variable {r : Response} {status : Int} {v : Value}

/-! ## Sending a value -/

theorem sent_eq_ok_iff {text : Text} : sent status (some text) = .ok r ↔
    ∃ cs, text = .ofChars cs ∧ r = ⟨status, some (String.ofList cs)⟩ := by
  constructor
  · intro h
    rw [sent] at h
    split at h
    · rename_i cs hcs
      exact ⟨cs, Text.chars_eq_ok_iff.mp hcs, (Except.ok.inj h).symm⟩
    · cases h
  · rintro ⟨cs, rfl, rfl⟩
    rw [sent, Text.chars_ofChars]

theorem jsonResponse_eq_ok_iff : jsonResponse status v = .ok r ↔
    ∃ cs, Wire.write v = .ok (.ofChars cs) ∧ r = ⟨status, some (String.ofList cs)⟩ := by
  constructor
  · intro h
    rw [jsonResponse] at h
    split at h
    · rename_i text htext
      obtain ⟨cs, rfl, hr⟩ := sent_eq_ok_iff.mp h
      exact ⟨cs, htext, hr⟩
    · cases h
  · rintro ⟨cs, hcs, hr⟩
    rw [jsonResponse, hcs]
    exact sent_eq_ok_iff.mpr ⟨cs, rfl, hr⟩

theorem bodyOf_of_ne_null (h : v ≠ .null) : bodyOf v = (Wire.write v).map some := by
  cases v with
  | null => exact absurd rfl h
  | _ => rfl

/-- Only null is not sent as JSON. -/
theorem encoded_of_ne_null (h : v ≠ .null) : encoded status v = jsonResponse status v := by
  rw [encoded, bodyOf_of_ne_null h, jsonResponse]
  cases Wire.write v <;> rfl

theorem encoded_eq_ite (status : Int) (v : Value) :
    encoded status v = if v.isNull then .ok ⟨status, none⟩ else jsonResponse status v := by
  cases v with
  | null => rfl
  | _ => exact encoded_of_ne_null nofun

/-! ## Who answers -/

section Answers
variable (settings : Settings)

@[simp] theorem respond_error (failure : Failure) : respond settings (.error failure) =
    ([(failed settings none failure).1], (failed settings none failure).2) := rfl

/-- A result that has a text is sent, and nothing is logged. -/
theorem respond_written {settings : Settings} {text : Text} (h : Wire.write v = .ok text) :
    respond settings (.ok v) = ([], encoded okStatus v) := by
  by_cases hv : v = .null
  · -- Null has a text as well, but is sent without one.
    subst hv
    rfl
  · rw [respond, resultBody, encoded, bodyOf_of_ne_null hv, h]
    rfl

/-- A result that has none is a failure. -/
theorem respond_unwritten {settings : Settings} {e : Json.WriteError} (h : Wire.write v = .error e) :
    respond settings (.ok v) = respond settings (.error (.fault (.unencodable e))) := by
  have hv : v ≠ .null := by
    rintro rfl
    cases h
  rw [respond, resultBody, bodyOf_of_ne_null hv, h]
  rfl

theorem handler?_cases (own : OwnHandlers) (route : Text) (failure : Failure) :
    (∃ e, failure = .other e ∧ handler? own settings route failure = (own e).map fun answer => ([], answer)) ∨
    (∃ f, failure = .fault f ∧ handler? own settings route failure = none) ∨
    handler? own settings route failure = some ([(answered settings route failure).1],
      (answered settings route failure).2.mapError .fault) := by
  cases failure with
  | other e => exact Or.inl ⟨e, rfl, rfl⟩
  | service e => exact Or.inr (Or.inr rfl)
  | api a => exact Or.inr (Or.inr rfl)
  | fault f =>
    cases f with
    | rejected r => exact Or.inr (Or.inr rfl)
    | _ => exact Or.inr (Or.inl ⟨_, rfl, rfl⟩)

end Answers

/-! ## Reading what was sent -/

/-- What is sent as JSON is read. -/
def Response.Decodes (r : Response) : Prop :=
  r.contentType = some "application/json" →
    ∃ body v, r.body = some body ∧ Wire.readBytes (Utf8.encode body.toList) = .ok v

/-- The response is what the framework answers by itself to the error that was raised. -/
def OwnHandlers.Answer (own : OwnHandlers) (outcome : Except Failure Value) (r : Response) : Prop :=
  ∃ e, outcome = .error (.other e) ∧ own e = some (.ok r)

theorem decodes_jsonResponse (h : jsonResponse status v = .ok r) : r.Decodes := by
  obtain ⟨cs, hcs, rfl⟩ := jsonResponse_eq_ok_iff.mp h
  obtain ⟨w, hw⟩ := Wire.exists_value_of_write hcs
  exact fun _ => ⟨String.ofList cs, w, rfl, by rwa [String.toList_ofList]⟩

theorem decodes_encoded (h : encoded status v = .ok r) : r.Decodes := by
  by_cases hv : v = .null
  · subst hv
    cases h
    exact nofun
  · exact decodes_jsonResponse ((encoded_of_ne_null hv).symm.trans h)

section Responses
variable {settings : Settings} {outcome : Except Failure Value} {own : OwnHandlers} {route : Text} {failure : Failure}

theorem decodes_respond_error (h : (respond settings (.error failure)).2 = .ok r) : r.Decodes := decodes_encoded h

theorem decodes_respond (h : (respond settings outcome).2 = .ok r) : r.Decodes := by
  cases outcome with
  | error failure => exact decodes_respond_error h
  | ok v =>
    cases hv : Wire.write v with
    | ok text =>
      rw [respond_written hv] at h
      exact decodes_encoded h
    | error e =>
      rw [respond_unwritten hv] at h
      exact decodes_respond_error h

theorem decodes_answered (h : (answered settings route failure).2 = .ok r) : r.Decodes := by
  have hencoded : encoded (errorPayload settings failure).1 (errorPayload settings failure).2 = .ok r :=
    (encoded_eq_ite _ _).trans h
  exact decodes_encoded hencoded

theorem decodes_lastResort {before : List Notice} (h : (lastResort settings route before failure).response = some r) :
    r.Decodes := by
  unfold lastResort at h
  dsimp only at h
  split at h
  · rename_i hresponse
    cases h
    exact decodes_answered hresponse
  · cases h

/-- The handler for a class is the framework's own, or it answers as the last one does. -/
theorem decodes_handler {lines : List Notice} (h : handler? own settings route failure = some (lines, .ok r)) :
    own.Answer (.error failure) r ∨ r.Decodes := by
  rcases handler?_cases settings own route failure with ⟨e, rfl, hown⟩ | ⟨f, -, hnone⟩ | hanswered
  · rw [hown] at h
    obtain ⟨answer, hanswer, hr⟩ := Option.map_eq_some_iff.mp h
    cases hr
    exact Or.inl ⟨e, rfl, hanswer⟩
  · rw [hnone] at h
    cases h
  · rw [hanswered] at h
    have hr : (answered settings route failure).2.mapError Failure.fault = .ok r :=
      congrArg Prod.snd (Option.some.inj h)
    cases hresponse : (answered settings route failure).2 with
    | error fault => rw [hresponse] at hr; cases hr
    | ok r' =>
      rw [hresponse] at hr
      cases hr
      exact Or.inr (decodes_answered hresponse)

theorem decodes_handled (h : (handled own settings route failure).response = some r) :
    own.Answer (.error failure) r ∨ r.Decodes := by
  unfold handled at h
  split at h
  · rename_i hhandler
    cases h
    exact decodes_handler hhandler
  · -- A handler that fails is followed by the last one.
    exact Or.inr (decodes_lastResort h)
  · exact Or.inr (decodes_lastResort h)

theorem decodes_request (h : (request own settings route outcome).response = some r) :
    own.Answer outcome r ∨ r.Decodes := by
  unfold request at h
  split at h
  · exact decodes_handled h
  · split at h
    · rename_i hresponse
      cases h
      exact Or.inr (decodes_jsonResponse hresponse)
    · rcases decodes_handled h with ⟨_, ⟨⟩, -⟩ | hr
      exact Or.inr hr

end Responses

end Http

open Http in
/-- **Whatever is written can be read.**  A value with a JSON form has a text that is read, and so are the bytes of this
text if the value has whole texts only; every other value is refused.  And what is sent as JSON, be it for a result or
for a failure, is read, other than what the framework answers by itself. -/
theorem written_is_read :
    (∀ v : Value,
      (v.HasForm ∧ ∃ text w, Wire.write v = .ok text ∧ Wire.read text = .ok w ∧
        (v.isWhole = true → ∃ cs, text = .ofChars cs ∧ Wire.readBytes (Utf8.encode cs) = .ok w)) ∨
      (¬ v.HasForm ∧ ∃ e, Wire.write v = .error e)) ∧
    (∀ settings outcome r, (respond settings outcome).2 = .ok r → r.Decodes) ∧
    (∀ status v r, jsonResponse status v = .ok r → r.Decodes) ∧
    ∀ own settings route outcome r, (request own settings route outcome).response = some r →
      own.Answer outcome r ∨ r.Decodes :=
  ⟨Wire.write_cases, fun _ _ _ => decodes_respond, fun _ _ _ => decodes_jsonResponse,
    fun _ _ _ _ _ => decodes_request⟩

open Http in
/-- A key that is no text, a tuple, a binary number and bytes, in a result and in the body of an error; and null,
which only one of the responses writes. -/
theorem written_is_read_responses :
    let v : Value := .map [(.int 7, .tuple [.float (.zero true), .bytes [0xC3, 0xA9]])]
    let text := "\x7b\"7\":[-0.0,\"é\"]\x7d"
    let result : Response := ⟨200, some text⟩
    let nothing : Response := ⟨200, some "null"⟩
    let refusal : Response := ⟨409, some text⟩
    ((respond .standard (.ok v)).2 = .ok result ∧ result.Decodes) ∧
      (jsonResponse 200 .null = .ok nothing ∧ nothing.Decodes) ∧
      (request .none .standard "/steps" (.error (.api ⟨409, v, "taken"⟩))).response = some refusal ∧
        refusal.Decodes := by
  intro v text result nothing refusal
  have hwrite : Wire.write v = .ok (.ofChars text.toList) := by decide +kernel
  have hv : v ≠ .null := by simp [v]
  have hresult : (respond .standard (.ok v)).2 = .ok result := by
    rw [respond_written hwrite, encoded_of_ne_null hv]
    exact jsonResponse_eq_ok_iff.mpr ⟨_, hwrite, by rw [String.ofList_toList]; rfl⟩
  have hnothing : jsonResponse 200 .null = .ok nothing := rfl
  have hrefusal :
      (request .none .standard "/steps" (.error (.api ⟨409, v, "taken"⟩))).response = some refusal := by
    decide +kernel
  obtain ⟨-, hrespond, hjson, hrequest⟩ := written_is_read
  refine ⟨⟨hresult, hrespond _ _ _ hresult⟩, ⟨hnothing, hjson _ _ _ hnothing⟩, hrefusal, ?_⟩
  rcases hrequest _ _ _ _ _ hrefusal with ⟨_, ⟨⟩, -⟩ | hdecodes
  exact hdecodes

end Intake
