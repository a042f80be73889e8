import Intake.Text.Basic

/-!
# Settings

What a deployment may choose: how much is logged and in which format, and whether a rejected value is the
client's fault, with which status.
-/

namespace Intake

/-- The choices of a deployment. -/
structure Settings where
  logLevel : Text
  logFormat : Text
  /-- A rejection is answered as the client's error. -/
  rejectionsAreClientErrors : Bool
  /-- The status of such an answer. -/
  rejectionStatus : Int
  /-- It is one for errors of the client's. -/
  isClientStatus : 400 ≤ rejectionStatus ∧ rejectionStatus ≤ 499
deriving DecidableEq

/-- The choices where nothing is chosen. -/
def Settings.standard : Settings where
  logLevel := "INFO"
  logFormat := "json"
  rejectionsAreClientErrors := false
  rejectionStatus := 400
  isClientStatus := by decide

end Intake
