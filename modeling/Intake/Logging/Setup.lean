import Intake.Logging.Record

/-!
# Setting up logging

The root logger passes records of its level and above to its handlers, each of which writes them in one
format. Setting up adds a handler and sets the level by its name, in letters of either case. A name that
means nothing stands for the middle level; two names mean something that is no level, and then the handler
stays although the setup fails.
-/

namespace Intake.Logging

/-- How a handler writes records. -/
inductive LineFormat where
  | json
  | plain
deriving DecidableEq

/-- A record in a format. -/
def LineFormat.write (f : LineFormat) (r : Record) (timestamp : String) : Except LineError Text :=
  match f with
  | json => r.jsonLine timestamp
  | plain => r.plainText timestamp

/-- A receiver of records. -/
structure Handler where
  format : LineFormat
  /-- It takes records from this level on. -/
  level : Int
deriving DecidableEq

/-- The root logger. -/
structure Root where
  handlers : List Handler
  level : Int
deriving DecidableEq

/-- The root logger of a program that has not set up anything. -/
def Root.initial : Root := ⟨[], 30⟩

/-- Why a setup fails. -/
inductive SetupError where
  /-- The name means a text that names no level. -/
  | unknownLevel (text : String)
  /-- The name means something that is neither a number nor a text. -/
  | noLevel (literal : String)
deriving DecidableEq

namespace SetupError

/-- The failure in words. -/
def message : SetupError → String
  | unknownLevel text => "Unknown level: " ++ textLiteral text
  | noLevel literal => "Level not an integer or a valid string: " ++ literal

/-- The name of the failure's class. -/
def className : SetupError → String
  | unknownLevel _ => "ValueError"
  | noLevel _ => "TypeError"

end SetupError

/-- The letters that a character has in upper case, as far as they can occur in names. -/
def upperLetters (c : Char) : List Char :=
  if c = '\u0131' then ['I']
  else if c = '\u017F' then ['S']
  else if c = '\u00DF' then ['S', 'S']
  else if c = '\uFB00' then ['F', 'F']
  else if c = '\uFB01' then ['F', 'I']
  else if c = '\uFB02' then ['F', 'L']
  else if c = '\uFB03' then ['F', 'F', 'I']
  else if c = '\uFB04' then ['F', 'F', 'L']
  else if c = '\uFB05' ∨ c = '\uFB06' then ['S', 'T']
  else [c.toUpper]

/-- A point in upper case. -/
def upperPoint : Point → Text
  | .char c => .ofChars (upperLetters c)
  | .half h => [.half h]

/-- A name in upper case. -/
def upper (t : Text) : Text := t.flatMap upperPoint

/-- The level for names that mean nothing. -/
def fallbackLevel : Int := 20

/-- The levels by the names that records show, and the numbers they stand for. -/
def levels : List (Text × Int) :=
  [("CRITICAL", 50), ("ERROR", 40), ("WARNING", 30), ("INFO", 20), ("DEBUG", 10), ("NOTSET", 0)]

/-- Further names of levels. -/
def otherLevels : List (Text × Int) := [("FATAL", 50), ("WARN", 30)]

/-- The layout of plain messages, which has a name too. -/
def basicLayout : String := "%(levelname)s:%(name)s:%(message)s"

/-- The styles of layouts, which have a name too. -/
def stylesLiteral : String :=
  "\x7b'%': (<class 'logging.PercentStyle'>, '" ++ basicLayout ++
    "'), '\x7b': (<class 'logging.StrFormatStyle'>, '\x7blevelname\x7d:\x7bname\x7d:\x7bmessage\x7d'), " ++
    "'$': (<class 'logging.StringTemplateStyle'>, '$\x7blevelname\x7d:$\x7bname\x7d:$\x7bmessage\x7d')\x7d"

/-- What a name means. -/
def levelOfName (name : Text) : Except SetupError Int :=
  let name := upper name
  if name = "BASIC_FORMAT" then .error (.unknownLevel basicLayout)
  else if name = "_STYLES" then .error (.noLevel stylesLiteral)
  else
    match (levels ++ otherLevels).find? fun (known, _) => known = name with
    | some (_, level) => .ok level
    | none => .ok fallbackLevel

/-- The format for a name: only its exact name stands for JSON. -/
def formatOfName (name : Text) : LineFormat := if name = "json" then .json else .plain

/-- The level's name where none is given. -/
def defaultLevel : String := "INFO"

/-- The format's name where none is given. -/
def defaultFormat : String := "json"

/-- Adds a handler, and then sets the level. -/
def setUp (level format : Text) (root : Root) : Root × Except SetupError Handler :=
  let handler : Handler := ⟨formatOfName format, 0⟩
  let handlers := root.handlers ++ [handler]
  match levelOfName level with
  | .ok n => (⟨handlers, n⟩, .ok handler)
  | .error e => (⟨handlers, root.level⟩, .error e)

end Intake.Logging
