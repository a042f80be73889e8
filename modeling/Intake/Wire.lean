import Intake.Json.Encoder
import Intake.Json.Reader

/-!
# The wire

Values as they cross the boundary of the program: JSON without blanks, every number exact. Reading takes
text, or bytes that encode one.
-/

namespace Intake.Wire

/-- The text of a value. -/
def write (v : Value) : Except Json.WriteError Text :=
  (Json.ofValue v).map fun tree => tree.render .compact

/-- The value of a text. -/
def read (text : Text) : Except Fault Value := Json.read text

/-- The value of a text in UTF-8. -/
def readBytes (bytes : List UInt8) : Except Fault Value :=
  match Utf8.decode bytes with
  | .ok cs => Json.read (.ofChars cs)
  | .error flaw => .error (.malformedUtf8 flaw)

end Intake.Wire
