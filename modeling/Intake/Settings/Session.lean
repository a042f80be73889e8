import Intake.Settings.Loading

/-!
# Sessions

A session is a program's life as far as its settings are concerned: the environment changes, settings are
loaded, and the first ones that are asked for without arguments are kept until the cache is cleared. Every
time settings are loaded they are new, even when they equal the ones before, so they carry a serial
number.
-/

namespace Intake.Settings

/-- Settings as they were loaded at some time in a session. -/
structure Loaded where
  serial : Nat
  settings : Settings
deriving DecidableEq

/-- The state of a session. -/
structure Session where
  environment : Environment
  /-- The settings that are kept. -/
  cache : Option Loaded
  /-- How often settings were loaded. -/
  count : Nat

/-- A step of a session. -/
inductive Session.Step where
  /-- Sets variables, or removes those without a value. -/
  | set (changes : List (Text × Option Text))
  /-- Clears the cache. -/
  | clear
  /-- Asks for the settings. -/
  | get
  /-- Loads settings with arguments, past the cache. -/
  | make (arguments : Arguments)

/-- What a step answers. -/
inductive Session.Answer where
  | done
  | loaded (l : Loaded)
  | refused (complaints : List Complaint)

/-- Sets a variable: in its place, or at the end when it is new. -/
def Environment.set (name value : Text) : Environment → Environment
  | [] => [(name, value)]
  | (key, old) :: rest =>
    if key = name then (name, value) :: rest else (key, old) :: Environment.set name value rest

/-- Removes a variable. -/
def Environment.remove (name : Text) (environment : Environment) : Environment :=
  environment.filter fun (key, _) => key ≠ name

/-- Makes changes one after the other. -/
def Environment.change (environment : Environment) (changes : List (Text × Option Text)) :
    Environment :=
  changes.foldl
    (fun environment (name, value) =>
      match value with
      | some value => Environment.set name value environment
      | none => Environment.remove name environment)
    environment

namespace Session

/-- The start of a session. -/
def start (environment : Environment) : Session := ⟨environment, none, 0⟩

/-- Loads settings anew. -/
def make (s : Session) (arguments : Arguments) : Session × Answer :=
  match load s.environment arguments with
  | .ok settings => (⟨s.environment, s.cache, s.count + 1⟩, .loaded ⟨s.count, settings⟩)
  | .error complaints => (s, .refused complaints)

/-- The kept settings, or new ones, which are then kept. -/
def get (s : Session) : Session × Answer :=
  match s.cache with
  | some kept => (s, .loaded kept)
  | none =>
    match s.make [] with
    | (next, .loaded l) => (⟨next.environment, some l, next.count⟩, .loaded l)
    | other => other

/-- One step. -/
def step (s : Session) : Step → Session × Answer
  | .set changes => (⟨s.environment.change changes, s.cache, s.count⟩, .done)
  | .clear => (⟨s.environment, none, s.count⟩, .done)
  | .get => s.get
  | .make arguments => s.make arguments

/-- The answers to some steps. -/
def run (s : Session) : List Step → List Answer
  | [] => []
  | step :: steps =>
    let (next, answer) := s.step step
    answer :: run next steps

end Session

end Intake.Settings
