import Intake.Http.Failure
import Intake.Settings.Basic

/-!
# Responses

A computation's outcome as a response. A result is answered with its text, no result with an empty
response, and a failure with the status and the payload that it has under the settings. Every failure of the
computation, or of writing its result, is noted in the log. A payload that has no text cannot be answered,
and neither can a text that has no bytes, be it that of a result or of a payload.
-/

namespace Intake.Http

/-- A response: without a body it is empty and has no content type. -/
structure Response where
  status : Int
  body : Option String
deriving DecidableEq

/-- Every body is JSON. -/
def Response.contentType (r : Response) : Option String := r.body.map fun _ => "application/json"

/-- A line in the log about a failure. -/
structure Notice where
  status : Int
  message : Text
  /-- The place that was asked for, where it is known. -/
  route : Option Text
  /-- The failure's code, or null. -/
  code : Value
  /-- The failure itself, where it goes with the line. -/
  attached : Option Failure

/-- Statuses from here on are failures of this side. -/
def failedFrom : Int := 500

/-- The names of the two levels of such lines. -/
def Notice.level (n : Notice) : String := if failedFrom ≤ n.status then "ERROR" else "WARNING"

/-- A failure and a rejected value have a status and a payload, which depend on the settings. -/
def errorPayload (settings : Settings) : Failure → Int × Value
  | .fault (.rejected r) =>
    if settings.rejectionsAreClientErrors then
      (settings.rejectionStatus, (r.toApiError settings.rejectionStatus).body)
    else (failedFrom, .text r.message)
  | .service e => (e.status, e.payload)
  | .api e => (e.status, e.body)
  | failure => (failedFrom, .text failure.text)

/-- The line about a failure that is answered with a status. Only a failure of this side is attached. -/
def notice (failure : Failure) (status : Int) (route : Option Text) : Notice where
  status := status
  message := (if failedFrom ≤ status then "Request failed: " else "Request rejected: ") ++ failure.text
  route := route
  code := failure.code
  attached := if failedFrom ≤ status then some failure else none

/-- The text for a value; null has none. -/
def bodyOf : Value → Except Json.WriteError (Option Text)
  | .null => .ok none
  | v => (Wire.write v).map some

/-- The response with a text for its body. A response is made of bytes, and a text that is not whole has
none. -/
def sent (status : Int) : Option Text → Except Fault Response
  | none => .ok { status, body := none }
  | some text =>
    match text.chars with
    | .ok cs => .ok { status, body := some (String.ofList cs) }
    | .error torn => .error (.tornText torn)

/-- The response with a status and a value. -/
def encoded (status : Int) (v : Value) : Except Fault Response :=
  match bodyOf v with
  | .ok body => sent status body
  | .error e => .error (.unencodable e)

/-- The status of a result. -/
def okStatus : Int := 200

/-- The response to a failure, and the line about it. -/
def failed (settings : Settings) (route : Option Text) (failure : Failure) :
    Notice × Except Fault Response :=
  let (status, payload) := errorPayload settings failure
  (notice failure status route, encoded status payload)

/-- The text of a result; a result without a text is a failure like any other. -/
def resultBody (outcome : Except Failure Value) : Except Failure (Option Text) :=
  match outcome with
  | .error failure => .error failure
  | .ok v => (bodyOf v).mapError fun e => .fault (.unencodable e)

/-- The response to a computation, and the lines in the log. Results and payloads are written with the failures
of writing in view; the text is turned into bytes only afterwards, and nobody looks out for failures then. -/
def respond (settings : Settings) (outcome : Except Failure Value) :
    List Notice × Except Fault Response :=
  match resultBody outcome with
  | .ok body => ([], sent okStatus body)
  | .error failure =>
    let (line, response) := failed settings none failure
    ([line], response)

end Intake.Http
