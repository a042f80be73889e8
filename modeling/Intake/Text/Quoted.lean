import Intake.Text.Printable
import Intake.Text.Utf8

/-!
# Quoted text

The quoted form of text and of bytes, as it stands inside a written value. The quote is an apostrophe,
or a quotation mark when the text has apostrophes and no quotation mark. The quote and the backslash
are escaped, and so is every character that cannot be shown, and every half.
-/

namespace Intake.Quoted

/-- Whether the quotation mark serves as the quote, given what the text contains. -/
def prefersDouble (hasApostrophe hasDouble : Bool) : Bool := hasApostrophe && !hasDouble

/-- The quote for a text. -/
def quoteFor (t : Text) : Char :=
  if prefersDouble (t.contains (.char '\'')) (t.contains (.char '"')) then '"' else '\''

/-- The numbered escape of a code point, in the shortest of its three widths. -/
def numbered (code : Nat) : List Char :=
  if code < 0x100 then '\\' :: 'x' :: Utf8.hexText 2 code
  else if code < 0x10000 then '\\' :: 'u' :: Utf8.hexText 4 code
  else '\\' :: 'U' :: Utf8.hexText 8 code

/-- One point between the quotes; `shown` decides which characters appear as they are. -/
def escape (shown : Char → Bool) (quote : Char) : Point → List Char
  | .half h => numbered h.code
  | .char c =>
    if c = quote ∨ c = '\\' then ['\\', c]
    else if c = '\n' then ['\\', 'n']
    else if c = '\r' then ['\\', 'r']
    else if c = '\t' then ['\\', 't']
    else if shown c then [c]
    else numbered c.toNat

/-- A text in quotes. -/
def quoted (shown : Char → Bool) (t : Text) : List Char :=
  let quote := quoteFor t
  quote :: t.flatMap (escape shown quote) ++ [quote]

/-- A text in quotes, with every printable character as it is. -/
def text (t : Text) : List Char := quoted isPrintable t

/-- A sequence of bytes in quotes: bytes that are printable ASCII appear as their character. -/
def bytes (bs : List UInt8) : List Char :=
  'b' :: quoted isPrintableAscii (bs.map fun b => .char (Char.ofNat b.toNat))

example : text "it's" = "\"it's\"".toList := by decide +kernel
example : bytes [97, 0, 255, 39] = "b\"a\\x00\\xff'\"".toList := by decide +kernel

end Intake.Quoted
