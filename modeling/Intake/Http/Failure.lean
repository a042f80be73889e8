import Intake.Fault
import Intake.Wire

/-!
# Failures of a computation

What a computation behind a request can end in instead of a result: a fault of the data, an error that
was raised with a status of its own, or any other error, of which only its class, its text and its code are
known. Every failure has a text and a class; errors with a status also have a payload for the client.
-/

namespace Intake

/-- Whose side an error is on. -/
inductive Category where
  | client
  | internal
deriving DecidableEq

/-- The category's name. -/
def Category.name : Category → String
  | client => "client"
  | internal => "internal"

/-- How bad an error is. -/
inductive Severity where
  | info
  | warning
  | error
  | critical
deriving DecidableEq

/-- The severity's name. -/
def Severity.name : Severity → String
  | info => "info"
  | warning => "warning"
  | error => "error"
  | critical => "critical"

/-- The first of some things that has a given name. -/
def namedOf? {α : Type} (nameOf : α → String) (name : Text) (all : List α) : Option α :=
  all.find? fun a => nameOf a = name

/-- The category with a name. -/
def Category.ofName? (s : Text) : Option Category := namedOf? name s [client, internal]

/-- The severity with a name. -/
def Severity.ofName? (s : Text) : Option Severity := namedOf? name s [info, warning, error, critical]

/-- An error that names its status and describes itself. -/
structure ServiceError where
  message : Text
  code : Text
  category : Category
  severity : Severity
  status : Int

namespace ServiceError

/-- The payload for the client. -/
def payload (e : ServiceError) : Value :=
  .object [("error", .object
    [("code", .text e.code), ("message", .text e.message), ("category", .text e.category.name),
     ("severity", .text e.severity.name)])]

end ServiceError

/-- An error whose body goes to the client as it stands. -/
structure ApiError where
  status : Int
  body : Value
  message : Text

namespace ApiError

/-- An error whose message, if none is given, is the body as text. -/
def make? (status : Int) (body : Value) : Option Text → Except Json.WriteError ApiError
  | some message => .ok ⟨status, body, message⟩
  | none => (Wire.write body).map fun message => ⟨status, body, message⟩

/-- Statuses from here on say that the fault is not the client's. -/
def internalFrom : Int := 500

/-- The code of every such error. -/
def code : String := "API_ERROR"

/-- The status tells whose side the error is on. -/
def category (e : ApiError) : Category := if internalFrom ≤ e.status then .internal else .client

/-- An error on this side is critical. -/
def severity (e : ApiError) : Severity := if internalFrom ≤ e.status then .critical else .warning

end ApiError

/-- The status of a rejection where none is chosen. -/
def Rejection.usualStatus : Int := 400

/-- A rejection as an error of the client's. -/
def Rejection.toApiError (r : Rejection) (status : Int) : ApiError where
  status := status
  body := .object [("error", .text r.message), ("path", .text r.path.text)]
  message := r.message

/-- An error that the program knows nothing else about. -/
structure OtherError where
  className : String
  text : Text
  /-- The code that the error carries; null where it carries none. -/
  code : Value

/-- A failure of a computation. -/
inductive Failure where
  | fault (f : Fault)
  | service (e : ServiceError)
  | api (e : ApiError)
  | other (e : OtherError)

namespace Failure

/-- The failure's text. -/
def text : Failure → Text
  | fault f => f.message
  | service e => e.message
  | api e => e.message
  | other e => e.text

/-- The failure's class. -/
def className : Failure → String
  | fault f => f.className
  | service _ => "FeaturekitError"
  | api _ => "ApiError"
  | other e => e.className

/-- The code by which clients tell errors apart; null for a failure without one. -/
def code : Failure → Value
  | fault _ => .null
  | service e => .text e.code
  | api _ => .text ApiError.code
  | other e => e.code

end Failure

/-- The classes of errors that have nothing but arguments. -/
inductive OtherClass where
  | runtime
  | value
  | key
  | type
  | general
deriving DecidableEq

namespace OtherClass

/-- The name of the class. -/
def name : OtherClass → String
  | runtime => "RuntimeError"
  | value => "ValueError"
  | key => "KeyError"
  | type => "TypeError"
  | general => "Exception"

/-- The text of arguments: none at all, one for reading, or all of them as a tuple. The single argument
of a missing key is shown as its literal. -/
def argumentsText (cls : OtherClass) : List Value → Text
  | [] => []
  | [x] => if cls = key then x.literal else x.display
  | xs => (Value.tuple xs).literal

/-- An error of the class. -/
def failure (cls : OtherClass) (arguments : List Value) : Failure :=
  .other { className := cls.name, text := cls.argumentsText arguments, code := .null }

end OtherClass

/-- A name that is none of those in use. -/
def unknownName (what : String) (name : Text) : Failure :=
  OtherClass.value.failure [.text (textLiteral name ++ " is not a valid " ++ what)]

/-- An error from the names of its category and severity. -/
def ServiceError.make? (message code category severity : Text) (status : Int) :
    Except Failure ServiceError :=
  match Category.ofName? category with
  | none => .error (unknownName "ErrorCategory" category)
  | some category =>
    match Severity.ofName? severity with
    | none => .error (unknownName "ErrorSeverity" severity)
    | some severity => .ok { message, code, category, severity, status }

end Intake
