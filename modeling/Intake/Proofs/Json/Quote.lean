import Intake.Json.Reader
import Intake.Json.Tree

/-! # Quoted text is read back

A text is written between quotation marks with every character that JSON does not allow there escaped: with a
letter after a backslash, with its number for the other control characters, and all else as it stands
(`escapeChar_cases`), halves included (`takeString_half`).  The reader undoes each of these (`takeString_escape`).
So a quoted text is read back, whatever it holds, and the reader stops right after its closing mark
(`takeString_quoted`).
-/
namespace Intake.Json

/-- What succeeds after a change of its result succeeded before. -/
theorem map_eq_ok {ε α β : Type} {a : Except ε α} {f : α → β} {b : β} (h : a.map f = .ok b) :
    ∃ y, a = .ok y ∧ f y = b := by
  cases a with
  | error e => cases h
  | ok y => exact ⟨y, rfl, Except.ok.inj h⟩

variable (opening rest : Text)

/-- The four digits of a control character, and the number that is read from them. -/
theorem hexText_of_lt : ∀ n < 0x20,
    Utf8.hexText 4 n = ['0', '0', Nat.digitChar (n / 16), Nat.digitChar (n % 16)] ∧
      hex4? (.char '0') (.char '0') (.char (Nat.digitChar (n / 16))) (.char (Nat.digitChar (n % 16))) = some n := by
  decide

theorem takeUnit_of_lt {n : Nat} (hn : n < 0x20) : takeUnit none n = ([.char (Char.ofNat n)], none) := by
  have hh : isHighHalf n = false := by
    simp only [isHighHalf, Bool.and_eq_false_iff, decide_eq_false_iff_not]
    omega
  have hcode : Point.ofCode n = .char (Char.ofNat n) := dif_neg (by omega)
  simp [takeUnit, hcode, hh]

/-- A point that is not escaped is read as it stands. -/
theorem takeString_plain {p : Point} (hq : p ≠ .char '"') (hb : p ≠ .char '\\') (hp : ¬ p.code < 0x20) :
    takeString opening none (p :: rest) = Taken.prepend [p] (takeString opening none rest) := by
  rw [takeString.eq_def]
  split
  · contradiction
  · rename_i h
    exact absurd (List.cons.inj h).1 hq
  · rename_i h
    exact absurd (List.cons.inj h).1 hb
  · rename_i h
    exact absurd (List.cons.inj h).1 hb
  · rename_i h
    exact absurd (List.cons.inj h).1 hb
  · rename_i h
    exact absurd (List.cons.inj h).1 hb
  · rename_i h
    obtain ⟨rfl, rfl⟩ := List.cons.inj h
    rw [if_neg hp]
    rfl

/-- A letter after a backslash is read as the character it stands for. -/
theorem takeString_short {c e : Char} (hu : e ≠ 'u') (he : shortEscape? e = some c) :
    takeString opening none ('\\' :: e :: rest) = Taken.prepend [.char c] (takeString opening none rest) := by
  rw [takeString.eq_def]
  split
  · contradiction
  · rename_i h
    exact absurd (List.cons.inj h).1 (by decide)
  · rename_i h
    cases (List.cons.inj h).2
  · rename_i h
    exact absurd (Point.char.inj (List.cons.inj (List.cons.inj h).2).1) hu
  · rename_i h
    exact absurd (Point.char.inj (List.cons.inj (List.cons.inj h).2).1) hu
  · rename_i h
    obtain ⟨rfl, rfl⟩ := List.cons.inj (List.cons.inj h).2
    rw [he]
    rfl
  · rename_i hother h
    obtain ⟨rfl, rfl⟩ := List.cons.inj h
    exact absurd rfl (hother e rest rfl)

/-- A character is written with a letter, with its number, or as it stands. -/
theorem escapeChar_cases (c : Char) :
    (∃ e, escapeChar c = ['\\', e] ∧ e ≠ 'u' ∧ shortEscape? e = some c) ∨
    (c.toNat < 0x20 ∧ escapeChar c = '\\' :: 'u' :: Utf8.hexText 4 c.toNat) ∨
    (c ≠ '"' ∧ c ≠ '\\' ∧ ¬ c.toNat < 0x20 ∧ escapeChar c = [c]) := by
  by_cases hq : c = '"'
  · exact Or.inl ⟨'"', by rw [hq]; rfl, by decide, by rw [hq]; rfl⟩
  by_cases hb : c = '\\'
  · exact Or.inl ⟨'\\', by rw [hb]; rfl, by decide, by rw [hb]; rfl⟩
  by_cases hn : c = '\n'
  · exact Or.inl ⟨'n', by rw [hn]; rfl, by decide, by rw [hn]; rfl⟩
  by_cases hr : c = '\r'
  · exact Or.inl ⟨'r', by rw [hr]; rfl, by decide, by rw [hr]; rfl⟩
  by_cases ht : c = '\t'
  · exact Or.inl ⟨'t', by rw [ht]; rfl, by decide, by rw [ht]; rfl⟩
  by_cases h8 : c = '\x08'
  · exact Or.inl ⟨'b', by rw [h8]; rfl, by decide, by rw [h8]; rfl⟩
  by_cases hf : c = '\x0c'
  · exact Or.inl ⟨'f', by rw [hf]; rfl, by decide, by rw [hf]; rfl⟩
  refine Or.inr ?_
  by_cases hc : c.toNat < 0x20
  · refine Or.inl ⟨hc, ?_⟩
    rw [escapeChar, if_neg hq, if_neg hb, if_neg hn, if_neg hr, if_neg ht, if_neg h8, if_neg hf, if_pos hc]
  · refine Or.inr ⟨hq, hb, hc, ?_⟩
    rw [escapeChar, if_neg hq, if_neg hb, if_neg hn, if_neg hr, if_neg ht, if_neg h8, if_neg hf, if_neg hc]

/-- One escaped character is read back. -/
theorem takeString_escapeChar (c : Char) :
    takeString opening none (Text.ofChars (escapeChar c) ++ rest) =
      Taken.prepend [.char c] (takeString opening none rest) := by
  rcases escapeChar_cases c with ⟨e, hescape, hu, he⟩ | ⟨hc, hescape⟩ | ⟨hq, hb, hc, hescape⟩
  · rw [hescape]
    exact takeString_short opening rest hu he
  · obtain ⟨htext, hhex⟩ := hexText_of_lt c.toNat hc
    rw [hescape, htext]
    show takeString opening none ('\\' :: 'u' :: '0' :: '0' :: .char _ :: .char _ :: rest) = _
    rw [takeString, hhex]
    show Taken.prepend (takeUnit none c.toNat).1 (takeString opening (takeUnit none c.toNat).2 rest) = _
    rw [takeUnit_of_lt hc, Char.ofNat_toNat]
  · rw [hescape]
    exact takeString_plain opening rest (fun h => hq (Point.char.inj h)) (fun h => hb (Point.char.inj h)) hc

/-- A half is written and read as it stands. -/
theorem takeString_half (h : Half) :
    takeString opening none (.half h :: rest) = Taken.prepend [.half h] (takeString opening none rest) :=
  takeString_plain opening rest nofun nofun fun hlt => by
    have := h.isHalf.1
    simp only [Point.code] at hlt
    omega

/-- One escaped point is read back. -/
theorem takeString_escape (p : Point) :
    takeString opening none (escape p ++ rest) = Taken.prepend [p] (takeString opening none rest) := by
  cases p with
  | char c => exact takeString_escapeChar opening rest c
  | half h => exact takeString_half opening rest h

theorem prepend_ok (t read rest : Text) : Taken.prepend t (.ok (read, rest)) = .ok (t ++ read, rest) := rfl

/-- **A quoted text is read back, and nothing after it.** -/
theorem takeString_quoted (t : Text) :
    takeString opening none (t.flatMap escape ++ .char '"' :: rest) = .ok (t, rest) := by
  induction t with
  | nil => rfl
  | cons p t ih =>
    rw [List.flatMap_cons, List.append_assoc, takeString_escape, ih, prepend_ok]
    rfl

end Intake.Json
