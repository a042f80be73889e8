import Intake.Text.Utf8

/-!
# JSON text

The tree of a JSON text, and how it is laid out. A number is kept as its token, so that writing never
changes a digit. Text is written with as few escapes as JSON allows: the quotation mark, the backslash
and the control characters. Halves are written as they are.
-/

namespace Intake

/-- A JSON tree. -/
inductive Json where
  | null
  | bool (b : Bool)
  | number (token : List Char)
  | text (t : Text)
  | array (items : List Json)
  | object (members : List (Text × Json))

namespace Json

/-- One character inside quotation marks. -/
def escapeChar (c : Char) : List Char :=
  if c = '"' then ['\\', '"']
  else if c = '\\' then ['\\', '\\']
  else if c = '\n' then ['\\', 'n']
  else if c = '\r' then ['\\', 'r']
  else if c = '\t' then ['\\', 't']
  else if c = '\x08' then ['\\', 'b']
  else if c = '\x0c' then ['\\', 'f']
  else if c.toNat < 0x20 then '\\' :: 'u' :: Utf8.hexText 4 c.toNat
  else [c]

/-- One point inside quotation marks. -/
def escape : Point → Text
  | .char c => .ofChars (escapeChar c)
  | .half h => [.half h]

/-- A text in quotation marks. -/
def quote (t : Text) : Text := '"' :: (t.flatMap escape ++ [.char '"'])

/-- What stands between items, and between a name and its value. -/
structure Layout where
  betweenItems : Text
  afterName : Text

/-- Without any blank. -/
def Layout.compact : Layout := ⟨[','], [':']⟩

/-- With a blank after every comma and colon. -/
def Layout.spaced : Layout := ⟨[',', ' '], [':', ' ']⟩

/-- The text of a truth value. -/
def boolToken (b : Bool) : List Char := if b then ['t', 'r', 'u', 'e'] else ['f', 'a', 'l', 's', 'e']

mutual

/-- The text of a tree. -/
def render (layout : Layout) : Json → Text
  | null => ['n', 'u', 'l', 'l']
  | bool b => .ofChars (boolToken b)
  | number token => .ofChars token
  | text t => quote t
  | array items => '[' :: (renderItems layout items ++ [.char ']'])
  | object members => '\x7b' :: (renderMembers layout members ++ [.char '\x7d'])

/-- The text of an array's items. -/
def renderItems (layout : Layout) : List Json → Text
  | [] => []
  | [item] => render layout item
  | item :: items => render layout item ++ layout.betweenItems ++ renderItems layout items

/-- The text of an object's members. -/
def renderMembers (layout : Layout) : List (Text × Json) → Text
  | [] => []
  | [(name, value)] => quote name ++ layout.afterName ++ render layout value
  | (name, value) :: members =>
    quote name ++ layout.afterName ++ render layout value ++ layout.betweenItems ++
      renderMembers layout members

end

end Json

end Intake
