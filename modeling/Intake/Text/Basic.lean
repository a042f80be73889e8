/-!
# Text

A text is a sequence of points. A point is a character, or one half of a character beyond the basic plane
that stands without the other half. Such halves come out of numbered escapes. They are counted, compared
and copied like characters, but they have no bytes: only a text without any of them is whole, and only a
whole text can be encoded.
-/

namespace Intake

/-- The number of one half of a character beyond the basic plane. -/
structure Half where
  code : Nat
  isHalf : 0xD800 ≤ code ∧ code < 0xE000
deriving DecidableEq

/-- What a text is made of. -/
inductive Point where
  | char (c : Char)
  | half (h : Half)
deriving DecidableEq

namespace Point

instance : Coe Char Point := ⟨char⟩

/-- The number of a point. -/
def code : Point → Nat
  | char c => c.toNat
  | half h => h.code

/-- The point with a number. -/
def ofCode (n : Nat) : Point := if h : 0xD800 ≤ n ∧ n < 0xE000 then half ⟨n, h⟩ else char (Char.ofNat n)

/-- Whether a point is a character. -/
def isChar : Point → Bool
  | char _ => true
  | half _ => false

end Point

/-- A text. -/
abbrev Text := List Point

/-- A stretch of halves in a text. -/
structure Torn where
  /-- The first of them. -/
  first : Half
  /-- Its position. -/
  start : Nat
  /-- The position after the last of them. -/
  stop : Nat
deriving DecidableEq

namespace Text

/-- The text of some characters. -/
def ofChars (cs : List Char) : Text := cs.map .char

/-- A string as a text. -/
def ofString (s : String) : Text := ofChars s.toList

instance : Coe String Text := ⟨ofString⟩

/-- Whether every point is a character. -/
def isWhole (t : Text) : Bool := t.all Point.isChar

/-- The characters of a text that stands at a position, or the first stretch that is none. -/
def charsAt (position : Nat) : Text → Except Torn (List Char)
  | [] => .ok []
  | .char c :: t => (charsAt (position + 1) t).map (c :: ·)
  | .half h :: t => .error ⟨h, position, position + 1 + (t.takeWhile fun p => !p.isChar).length⟩

/-- The characters of a whole text. -/
def chars (t : Text) : Except Torn (List Char) := charsAt 0 t

/-- The characters of a whole text, where it does not matter why another one has none. -/
def chars? (t : Text) : Option (List Char) := t.chars.toOption

/-- The characters in front of the first half, and the text from there on. -/
def leading : Text → List Char × Text
  | .char c :: t => (c :: (leading t).1, (leading t).2)
  | t => ([], t)

@[simp] theorem ofChars_nil : ofChars [] = [] := rfl

@[simp] theorem ofChars_cons (c : Char) (cs : List Char) : ofChars (c :: cs) = .char c :: ofChars cs := rfl

@[simp] theorem ofChars_append (cs ds : List Char) : ofChars (cs ++ ds) = ofChars cs ++ ofChars ds := by
  simp [ofChars]

@[simp] theorem length_ofChars (cs : List Char) : (ofChars cs).length = cs.length := by simp [ofChars]

@[simp] theorem ofChars_inj {cs ds : List Char} : ofChars cs = ofChars ds ↔ cs = ds :=
  List.map_inj_right fun _ _ => Point.char.inj

@[simp] theorem ofString_append (s t : String) : ofString (s ++ t) = ofString s ++ ofString t := by
  simp [ofString]

@[simp] theorem ofString_ofList (cs : List Char) : ofString (String.ofList cs) = ofChars cs := by
  simp [ofString]

@[simp] theorem ofString_inj {s t : String} : ofString s = ofString t ↔ s = t := by
  simp [ofString, String.toList_inj]

@[simp] theorem isWhole_ofChars (cs : List Char) : (ofChars cs).isWhole := by
  simp [isWhole, ofChars, Point.isChar]

@[simp] theorem isWhole_append (s t : Text) : (s ++ t).isWhole = (s.isWhole && t.isWhole) := List.all_append

@[simp] theorem charsAt_ofChars (position : Nat) (cs : List Char) :
    charsAt position (ofChars cs) = .ok cs := by
  induction cs generalizing position with
  | nil => rfl
  | cons c cs ih => simp [charsAt, ih, Except.map]

/-- A text has the characters that it is the text of. -/
theorem charsAt_eq_ok_iff {position : Nat} {t : Text} {cs : List Char} :
    charsAt position t = .ok cs ↔ t = ofChars cs := by
  constructor
  · intro h
    induction t generalizing position cs with
    | nil => cases h; rfl
    | cons p t ih =>
      cases p with
      | half => cases h
      | char c =>
        rw [charsAt] at h
        cases hrest : charsAt (position + 1) t with
        | error torn => rw [hrest] at h; cases h
        | ok ds =>
          rw [hrest] at h
          cases h
          rw [ih hrest, ofChars_cons]
  · rintro rfl
    exact charsAt_ofChars position cs

theorem chars_eq_ok_iff {t : Text} {cs : List Char} : t.chars = .ok cs ↔ t = ofChars cs :=
  charsAt_eq_ok_iff

@[simp] theorem chars_ofChars (cs : List Char) : (ofChars cs).chars = .ok cs := chars_eq_ok_iff.mpr rfl

theorem chars?_eq_some_iff {t : Text} {cs : List Char} : t.chars? = some cs ↔ t = ofChars cs := by
  rw [← chars_eq_ok_iff, chars?]
  cases t.chars <;> simp [Except.toOption]

@[simp] theorem chars?_ofChars (cs : List Char) : (ofChars cs).chars? = some cs :=
  chars?_eq_some_iff.mpr rfl

/-- Whole texts are those of characters. -/
theorem isWhole_iff {t : Text} : t.isWhole ↔ ∃ cs, t = ofChars cs := by
  constructor
  · intro h
    induction t with
    | nil => exact ⟨[], rfl⟩
    | cons p t ih =>
      cases p with
      | half => simp [isWhole, Point.isChar] at h
      | char c =>
        obtain ⟨cs, rfl⟩ := ih (by simpa [isWhole, Point.isChar] using h)
        exact ⟨c :: cs, rfl⟩
  · rintro ⟨cs, rfl⟩
    exact isWhole_ofChars cs

/-- What is read off the characters in front stays apart from the rest. -/
theorem leading_ofChars_append (cs : List Char) (t : Text) :
    (ofChars cs ++ t).leading = (cs ++ t.leading.1, t.leading.2) := by
  induction cs with
  | nil => rfl
  | cons c cs ih => simp [leading, ih]

/-- The two parts make up the text. -/
theorem leading_eq (t : Text) : ofChars t.leading.1 ++ t.leading.2 = t := by
  fun_induction leading t <;> simp_all

end Text

end Intake
