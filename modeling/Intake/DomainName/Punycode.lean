/-!
# Punycode

A text written with the letters, digits and hyphens of ASCII. The characters of ASCII stand in front as
they are; the others follow as numbers that say how far to go on to the next one, counting through all
places of the text for one character after the other. The numbers have digits to the base 36; the last
digit of each lies below a threshold, which depends on a bias that is adapted as numbers are written.
-/

namespace Intake.Punycode

/-- The first character that is written as a number. -/
def firstCode : Nat := 0x80

/-- The base of the digits. -/
def base : Nat := 36

/-- The bias at the beginning. -/
def initialBias : Nat := 72

/-- The threshold for the `k`-th digit of a number: a digit below it is the last one. -/
def threshold (k bias : Nat) : Nat := max 1 (min 26 (base * (k + 1) - bias))

theorem threshold_pos (k bias : Nat) : 1 ≤ threshold k bias := by unfold threshold; omega

/-- Divides a distance until it is small, and counts by how much the bias grows. -/
def scaleDown (distance bias : Nat) : Nat × Nat :=
  if 455 < distance then scaleDown (distance / 35) (bias + base) else (distance, bias)
termination_by distance
decreasing_by exact Nat.div_lt_self (by omega) (by decide)

/-- The bias after a distance, with so many characters now in the text. -/
def adapted (distance : Nat) (isFirst : Bool) (count : Nat) : Nat :=
  let distance := if isFirst then distance / 700 else distance / 2
  let (distance, bias) := scaleDown (distance + distance / count) 0
  bias + base * distance / (distance + 38)

/-- The character of a digit. -/
def digitChar (d : Nat) : Char := Char.ofNat (if d < 26 then 'a'.toNat + d else '0'.toNat + (d - 26))

/-- The digit of a character, in letters of either case. -/
def digit? (c : Char) : Option Nat :=
  if 'a' ≤ c ∧ c ≤ 'z' then some (c.toNat - 'a'.toNat)
  else if 'A' ≤ c ∧ c ≤ 'Z' then some (c.toNat - 'A'.toNat)
  else if c.isDigit then some (c.toNat - '0'.toNat + 26)
  else none

/-- Whether a character belongs to ASCII. -/
def isBasic (c : Char) : Bool := c.toNat < firstCode

/-! ## Writing -/

/-- The digits of a number, from the `k`-th on. -/
def numberFrom (k bias n : Nat) : List Char :=
  let t := threshold k bias
  if n < t then [digitChar n]
  else digitChar (t + (n - t) % (base - t)) :: numberFrom (k + 1) bias ((n - t) / (base - t))
termination_by n
decreasing_by
  have := threshold_pos k bias
  have := Nat.div_le_self (n - threshold k bias) (base - threshold k bias)
  omega

/-- Where writing has got to. -/
structure Progress where
  /-- What is written, last number first. -/
  written : List (List Char)
  /-- How far the next character is. -/
  distance : Nat
  bias : Nat
  /-- The number of characters that are written. -/
  count : Nat
  /-- No number is written yet. -/
  isFirst : Bool

/-- Passes one character of the text while those with a given code are written: those before it in the
order of codes are in the text already, so passing them takes a step. -/
def Progress.pass (code : Nat) (p : Progress) (c : Char) : Progress :=
  if c.toNat < code then { p with distance := p.distance + 1 }
  else if c.toNat = code then
    { written := numberFrom 0 p.bias p.distance :: p.written
      distance := 0
      bias := adapted p.distance p.isFirst (p.count + 1)
      count := p.count + 1
      isFirst := false }
  else p

/-- Writes all characters with the codes that are left, in ascending order. `code` is the one up to which
steps have been counted. -/
def writeCodes (text : List Char) (code : Nat) (p : Progress) : List Nat → Progress
  | [] => p
  | next :: rest =>
    let p := { p with distance := p.distance + (next - code) * (p.count + 1) }
    let p := text.foldl (Progress.pass next) p
    writeCodes text (next + 1) { p with distance := p.distance + 1 } rest

/-- Puts a code among others in ascending order, unless it is there. -/
def insertCode (n : Nat) : List Nat → List Nat
  | [] => [n]
  | m :: rest => if n < m then n :: m :: rest else if n = m then m :: rest else m :: insertCode n rest

/-- Writes a text. -/
def encode (text : List Char) : List Char :=
  let basic := text.filter isBasic
  let codes := (text.filter fun c => !isBasic c).foldr (fun c codes => insertCode c.toNat codes) []
  let start : Progress := ⟨[], 0, initialBias, basic.length, true⟩
  let numbers := (writeCodes text firstCode start codes).written.reverse.flatten
  (if basic.isEmpty then [] else basic ++ ['-']) ++ numbers

/-! ## Reading -/

/-- Reads a number: its value and the text after it. -/
def takeNumber (bias : Nat) : Nat → Nat → Nat → List Char → Option (Nat × List Char)
  | _, _, _, [] => none
  | k, value, weight, c :: rest =>
    match digit? c with
    | none => none
    | some d =>
      let t := threshold k bias
      let value := value + d * weight
      if d < t then some (value, rest) else takeNumber bias (k + 1) value (weight * (base - t)) rest

theorem takeNumber_length {bias k value weight n : Nat} {cs rest : List Char}
    (h : takeNumber bias k value weight cs = some (n, rest)) : rest.length < cs.length := by
  induction cs generalizing k value weight with
  | nil => simp [takeNumber] at h
  | cons c cs ih =>
    simp only [takeNumber] at h
    split at h
    · simp at h
    · split at h
      · simp only [Option.some.injEq, Prod.mk.injEq] at h
        simp [← h.2]
      · have := ih h
        simp only [List.length_cons]
        omega

/-- Puts characters into a text, as numbers say. `place` is where the last one went, and `code` its
number; halves of characters and what lies beyond the last one are no characters. -/
def insertAll (text : List Char) (code place bias : Nat) (isFirst : Bool) (cs : List Char) :
    Option (List Char) :=
  match cs with
  | [] => some text
  | c :: cs =>
    match h : takeNumber bias 0 0 1 (c :: cs) with
    | none => none
    | some (distance, rest) =>
      have := takeNumber_length h
      let place := place + distance
      let count := text.length + 1
      let code := code + place / count
      if code.isValidChar then
        let place := place % count
        insertAll (text.insertIdx place (Char.ofNat code)) code (place + 1)
          (adapted distance isFirst count) false rest
      else none
termination_by cs.length
decreasing_by assumption

/-- Splits a text at its last hyphen: what comes before it, if there is one, and what comes after. -/
def splitAtLast (cs : List Char) : List Char × List Char :=
  let after := (cs.reverse.takeWhile (· ≠ '-')).reverse
  (cs.take (cs.length - after.length - 1), after)

/-- Reads a text. -/
def decode (cs : List Char) : Option (List Char) :=
  let (basic, numbers) := splitAtLast cs
  insertAll basic firstCode 0 initialBias true numbers

end Intake.Punycode
