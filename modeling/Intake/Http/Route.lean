import Intake.Http.Response

/-!
# Routes

A route answers with the JSON text of a computation's result. Its failures go to the handler of their
class, and from there to the handler of last resort, which answers, but lets the failure pass on to the
server. The framework around the routes has handlers of its own for some errors; what those answer is a
parameter here.
-/

namespace Intake.Http

/-- What a request to a route comes to. -/
structure Exchange where
  notices : List Notice
  /-- The response that was sent, if any. -/
  response : Option Response
  /-- The failure that is passed on to the server. -/
  passedOn : Option Failure

/-- The framework's handlers: what they answer to the errors they are for, or how they fail. -/
abbrev OwnHandlers := OtherError → Option (Except Failure Response)

/-- A framework without handlers of its own. -/
def OwnHandlers.none : OwnHandlers := fun _ => .none

/-- The response that is always JSON: here null has a text. -/
def jsonResponse (status : Int) (v : Value) : Except Fault Response :=
  match Wire.write v with
  | .ok text => sent status (some text)
  | .error e => .error (.unencodable e)

/-- A handler's answer to a failure, and the line about it. A payload that is null is answered with an
empty response, and any other as JSON. -/
def answered (settings : Settings) (route : Text) (failure : Failure) : Notice × Except Fault Response :=
  let (status, payload) := errorPayload settings failure
  (notice failure status (some route),
    if payload.isNull then .ok { status, body := none } else jsonResponse status payload)

/-- The handler for the class of a failure, if there is one: the lines in the log, and its answer. The framework's
own handlers write no lines. -/
def handler? (own : OwnHandlers) (settings : Settings) (route : Text) (failure : Failure) :
    Option (List Notice × Except Failure Response) :=
  match failure with
  | .other e => (own e).map fun answer => ([], answer)
  | .fault (.rejected _) | .service _ | .api _ =>
    let (line, response) := answered settings route failure
    some ([line], response.mapError .fault)
  | .fault _ => none

/-- The handler of last resort. -/
def lastResort (settings : Settings) (route : Text) (before : List Notice) (failure : Failure) : Exchange :=
  let (line, response) := answered settings route failure
  match response with
  | .ok response => ⟨before ++ [line], some response, some failure⟩
  | .error fault => ⟨before ++ [line], none, some (.fault fault)⟩

/-- A failure of a route. When the handler for its class fails itself, that is a failure like any other that has
no handler. -/
def handled (own : OwnHandlers) (settings : Settings) (route : Text) (failure : Failure) : Exchange :=
  match handler? own settings route failure with
  | some (lines, .ok response) => ⟨lines, some response, none⟩
  | some (lines, .error failure) => lastResort settings route lines failure
  | none => lastResort settings route [] failure

/-- A request to a route whose computation has an outcome. -/
def request (own : OwnHandlers) (settings : Settings) (route : Text) (outcome : Except Failure Value) : Exchange :=
  match outcome with
  | .error failure => handled own settings route failure
  | .ok v =>
    match jsonResponse okStatus v with
    | .ok response => ⟨[], some response, none⟩
    | .error fault => handled own settings route (.fault fault)

end Intake.Http
