import Intake.Settings.Basic
import Intake.Settings.Coercion

/-!
# Loading settings

Every setting is taken from the arguments, or else from the environment, or else has its standard value.
In the environment a setting's name has the program's in front. Letters of either case do; of two
variables that differ in case only, the later one counts. All complaints are collected: those about
settings first, in the order of the settings, and then those about arguments that are no setting.

A deployment may also keep variables in a file beside the program. That file is left out here: there is none, and the
environment is all there is to read.
-/

namespace Intake.Settings

/-- The settings by name. -/
inductive Name where
  | logLevel
  | logFormat
  | rejectionsAreClientErrors
  | rejectionStatus
deriving DecidableEq

namespace Name

/-- All settings, in order. -/
def all : List Name := [logLevel, logFormat, rejectionsAreClientErrors, rejectionStatus]

/-- The name in arguments and in complaints. -/
def text : Name → String
  | logLevel => "log_level"
  | logFormat => "log_format"
  | rejectionsAreClientErrors => "translate_validation_errors"
  | rejectionStatus => "validation_error_status"

/-- The name in the environment, in lower case. -/
def variableName (n : Name) : String := "featurekit_" ++ n.text

end Name

/-- A character in lower case, as far as names of settings are concerned: the Kelvin sign is a letter K
too. -/
def foldChar (c : Char) : Char := if c = '\u212A' then 'k' else c.toLower

/-- A point in lower case. -/
def foldPoint : Point → Point
  | .char c => foldChar c
  | .half h => .half h

/-- A name in lower case. -/
def fold (t : Text) : Text := t.map foldPoint

/-- Variables and their values, in the order in which they were first set. -/
abbrev Environment := List (Text × Text)

/-- The value of the last variable with a name in either case. -/
def Environment.value? (environment : Environment) (n : Name) : Option Text :=
  (environment.findRev? fun (name, _) => fold name = n.variableName).map Prod.snd

/-- Arguments by name. -/
abbrev Arguments := List (Text × Value)

/-- The argument for a setting: under its very name, or else under one in another case. -/
def Arguments.value? (arguments : Arguments) (n : Name) : Option Value :=
  match arguments.find? fun (name, _) => name = n.text with
  | some (_, v) => some v
  | none => (arguments.find? fun (name, _) => fold name = n.text).map Prod.snd

/-- The value that is given for a setting. -/
def given? (environment : Environment) (arguments : Arguments) (n : Name) : Option Value :=
  match arguments.value? n with
  | some v => some v
  | none => (environment.value? n).map .text

/-- A complaint about what is given under a name. -/
structure Complaint where
  name : Text
  problem : Problem
deriving DecidableEq

/-- The complaint about a setting, if it cannot be read. -/
def complaint {α : Type} (n : Name) : Except Problem α → List Complaint
  | .ok _ => []
  | .error problem => [⟨n.text, problem⟩]

/-- Complaints about arguments that are no setting. -/
def strangers (arguments : Arguments) : List Complaint :=
  (arguments.filter fun (name, _) => !Name.all.any fun n => fold name = n.text).map
    fun (name, _) => ⟨name, .unknown⟩

/-- A setting as it is given, or its standard value. -/
def readGiven {α : Type} (read : Value → Except Problem α) (standard : α) : Option Value → Except Problem α
  | none => .ok standard
  | some v => read v

/-- Loads the settings. -/
def load (environment : Environment) (arguments : Arguments) : Except (List Complaint) Settings :=
  let given := given? environment arguments
  let level := readGiven readText standard.logLevel (given .logLevel)
  let format := readGiven readText standard.logFormat (given .logFormat)
  let clientErrors := readGiven readBoolean standard.rejectionsAreClientErrors
    (given .rejectionsAreClientErrors)
  let status := readGiven readStatus ⟨standard.rejectionStatus, standard.isClientStatus⟩
    (given .rejectionStatus)
  match level, format, clientErrors, status, strangers arguments with
  | .ok logLevel, .ok logFormat, .ok rejectionsAreClientErrors, .ok ⟨rejectionStatus, isClientStatus⟩, [] =>
    .ok { logLevel, logFormat, rejectionsAreClientErrors, rejectionStatus, isClientStatus }
  | level, format, clientErrors, status, strangers =>
    .error (complaint .logLevel level ++ complaint .logFormat format ++
      complaint .rejectionsAreClientErrors clientErrors ++ complaint .rejectionStatus status ++ strangers)

end Intake.Settings
