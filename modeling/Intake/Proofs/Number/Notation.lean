import Intake.Proofs.Number.Scan
import Mathlib.Data.Nat.Digits.Defs

/-! # The two notations for numbers

What a written number looks like, said without any reader.  Both notations have a sign, digits and a power of ten
(`PowerForm`).  Plain notation asks for a digit on one side of the point (`PlainForm`); the number token of JSON is
stricter, with no leading zeros and digits on both sides of a point (`StrictForm`).  Every strict numeral is a plain
one (`StrictForm.plain`).

A numeral writes one number (`Writes`): the digits on both sides of the point count as one whole number, each by its
place, and the power goes down by one for each digit after the point.

The plain reader takes a text exactly when the text is in plain notation, and returns its parts
(`ofPlain?_eq_some_iff`); the strict reader takes all of a text exactly when it is in strict notation
(`scan?_eq_some_iff`).  Each piece of the reader takes what a piece of the grammar describes and leaves the rest:
digits as long as there are any, a point, a power.  So the forms are taken apart in the order of reading, and what
comes after a piece never goes on with it.
-/
namespace Intake
namespace Numeral

/-! ## Forms -/

/-- The number that digits write, each worth its place. -/
def placeValue (ds : List Char) : Nat := Nat.ofDigits 10 (ds.reverse.map fun c => c.toNat - '0'.toNat)

/-- A minus sign, where there is one. -/
def signText (negative : Bool) : List Char := if negative then ['-'] else []

/-- The written power of ten: nothing, or the letter `e` of either case, an optional sign and digits. -/
inductive PowerForm : List Char → Int → Prop where
  | absent : PowerForm [] 0
  | bare {mark : Char} {ds : List Char} (hm : mark = 'e' ∨ mark = 'E') (hd : Digits ds) (hne : ds ≠ []) :
      PowerForm (mark :: ds) (placeValue ds)
  | plus {mark : Char} {ds : List Char} (hm : mark = 'e' ∨ mark = 'E') (hd : Digits ds) (hne : ds ≠ []) :
      PowerForm (mark :: '+' :: ds) (placeValue ds)
  | minus {mark : Char} {ds : List Char} (hm : mark = 'e' ∨ mark = 'E') (hd : Digits ds) (hne : ds ≠ []) :
      PowerForm (mark :: '-' :: ds) (-placeValue ds)

/-- Digits, or digits on both sides of a point, one of which may be missing. -/
inductive PointForm : List Char → List Char → List Char → Prop where
  | whole {whole : List Char} (hw : Digits whole) (hne : whole ≠ []) : PointForm whole whole []
  | pointed {whole fraction : List Char} (hw : Digits whole) (hf : Digits fraction)
      (hne : whole ≠ [] ∨ fraction ≠ []) : PointForm (whole ++ '.' :: fraction) whole fraction

/-- Plain notation: an optional minus sign, digits with an optional point, and an optional power. -/
inductive PlainForm : List Char → Numeral → Prop where
  | mk (negative : Bool) {body mark whole fraction : List Char} {power : Int}
      (hb : PointForm body whole fraction) (hm : PowerForm mark power) :
      PlainForm (signText negative ++ (body ++ mark)) ⟨negative, whole, fraction, power⟩

/-- The number token of JSON: an optional minus sign, digits that do not start with a zero or a lone zero, an optional
point with digits after it, and an optional power. -/
inductive StrictForm : List Char → Numeral → Prop where
  | mk (negative : Bool) {mark whole fraction : List Char} {power : Int} (hw : StrictWhole whole)
      (hf : Digits fraction) (hm : PowerForm mark power) :
      StrictForm (signText negative ++ (whole ++ (pointText fraction ++ mark))) ⟨negative, whole, fraction, power⟩

/-- The numeral writes this number: its sign, all its digits as one whole number, and its power less the digits after
the point. -/
structure Writes (n : Numeral) (x : Scientific) : Prop where
  negative : x.negative = n.negative
  coefficient : x.coefficient = placeValue (n.whole ++ n.fraction)
  exponent : x.exponent = n.power - n.fraction.length

theorem natOf_eq_placeValue (ds : List Char) : natOf ds = placeValue ds := by
  induction ds with
  | nil => rfl
  | cons c cs ih =>
    rw [natOf_cons, ih, placeValue, placeValue, List.reverse_cons, List.map_append, Nat.ofDigits_append]
    simp [Nat.add_comm]

/-- The number that a numeral writes is the one that it is read as. -/
theorem writes_iff {n : Numeral} {x : Scientific} : n.Writes x ↔ Scientific.ofNumeral n = x := by
  constructor
  · rintro ⟨hn, hc, he⟩
    rw [Scientific.ofNumeral, natOf_eq_placeValue, ← hn, ← hc, ← he]
  · rintro rfl
    exact ⟨rfl, natOf_eq_placeValue _, rfl⟩

/-! ## Strict notation is plain -/

theorem StrictWhole.digits {whole : List Char} (h : StrictWhole whole) : Digits whole := by
  rcases h with rfl | ⟨c, cs, rfl, -, hd⟩
  · intro c hc
    rw [List.mem_singleton.mp hc]
    rfl
  · exact hd

theorem StrictWhole.ne_nil {whole : List Char} (h : StrictWhole whole) : whole ≠ [] := by
  rcases h with rfl | ⟨c, cs, rfl, -, -⟩
  · exact List.cons_ne_nil _ _
  · exact List.cons_ne_nil _ _

theorem StrictForm.plain {cs : List Char} {n : Numeral} (h : StrictForm cs n) : PlainForm cs n := by
  obtain ⟨negative, hw, hf, hm⟩ := h
  rename_i mark whole fraction power
  rw [← List.append_assoc whole]
  refine .mk negative ?_ hm
  cases fraction with
  | nil =>
    rw [pointText, List.append_nil]
    exact .whole hw.digits hw.ne_nil
  | cons d ds => exact .pointed hw.digits hf (Or.inl hw.ne_nil)

/-! ## Pieces of the reader -/

variable {cs rest : List Char} {power : Int}

theorem takeDigits_append_eq (cs : List Char) : (takeDigits cs).1 ++ (takeDigits cs).2 = cs :=
  List.takeWhile_append_dropWhile

theorem digits_takeDigits (cs : List Char) : Digits (takeDigits cs).1 :=
  List.all_eq_true.mp List.all_takeWhile

theorem takeMinus_append_eq (cs : List Char) : signText (takeMinus cs).1 ++ (takeMinus cs).2 = cs := by
  unfold takeMinus
  split <;> rfl

theorem takeSign_cases (cs : List Char) :
    (∃ rest, cs = '-' :: rest ∧ takeSign cs = (true, rest)) ∨
    (∃ rest, cs = '+' :: rest ∧ takeSign cs = (false, rest)) ∨ takeSign cs = (false, cs) := by
  unfold takeSign
  split
  · exact Or.inl ⟨_, rfl, rfl⟩
  · exact Or.inr (Or.inl ⟨_, rfl, rfl⟩)
  · exact Or.inr (Or.inr rfl)

theorem takeSign_of_digits {ds : List Char} (hd : Digits ds) : takeSign ds = (false, ds) := by
  rcases takeSign_cases ds with ⟨rest, rfl, -⟩ | ⟨rest, rfl, -⟩ | h
  · exact absurd (hd '-' List.mem_cons_self) (by decide)
  · exact absurd (hd '+' List.mem_cons_self) (by decide)
  · exact h

/-- Behind its mark, a power is an optional sign and digits; without digits it is none. -/
theorem takePower_mark {mark : Char} (hm : mark = 'e' ∨ mark = 'E') (cs : List Char) :
    takePower (mark :: cs) =
      if (takeDigits (takeSign cs).2).1.isEmpty then (0, mark :: cs)
      else (signed (takeSign cs).1 (natOf (takeDigits (takeSign cs).2).1), (takeDigits (takeSign cs).2).2) := by
  rw [takePower, if_pos hm]

/-- What is taken as a power and leaves nothing is one. -/
theorem powerForm_of_takePower (h : takePower cs = (power, [])) : PowerForm cs power := by
  cases cs with
  | nil =>
    cases h
    exact .absent
  | cons mark cs =>
    by_cases hm : mark = 'e' ∨ mark = 'E'
    · rw [takePower_mark hm] at h
      split at h
      · cases h
      · rename_i hne
        obtain ⟨hpower, hrest⟩ := Prod.mk.inj h
        -- Nothing is left, so what comes after the sign is digits to the end.
        have hds := takeDigits_append_eq (takeSign cs).2
        have hd := digits_takeDigits (takeSign cs).2
        rw [hrest, List.append_nil] at hds
        rw [hds] at hne hpower hd
        replace hne : (takeSign cs).2 ≠ [] := fun hnil => hne (by rw [hnil]; rfl)
        rw [← hpower, natOf_eq_placeValue]
        rcases takeSign_cases cs with ⟨ds, rfl, hs⟩ | ⟨ds, rfl, hs⟩ | hs
        · rw [hs] at hd hne ⊢
          exact .minus hm hd hne
        · rw [hs] at hd hne ⊢
          exact .plus hm hd hne
        · rw [hs] at hd hne ⊢
          exact .bare hm hd hne
    · rw [takePower, if_neg hm] at h
      cases h

theorem powerMark_of_takeSign {mark : Char} (hm : mark = 'e' ∨ mark = 'E') {negative : Bool} {ds : List Char}
    (hs : takeSign cs = (negative, ds)) (hd : Digits ds) (hne : ds ≠ []) :
    PowerMark (mark :: cs) (signed negative (placeValue ds)) := by
  refine ⟨?_, ?_⟩
  · rw [takePower_mark hm, hs, takeDigits_digits hd, natOf_eq_placeValue]
    exact if_neg (by simpa using hne)
  · rintro c ⟨⟩
    exact hm

/-- A power is taken whole, mark and all. -/
theorem PowerForm.powerMark (h : PowerForm cs power) : PowerMark cs power := by
  cases h with
  | absent => exact powerMark_nil
  | bare hm hd hne => exact powerMark_of_takeSign hm (takeSign_of_digits hd) hd hne
  | plus hm hd hne => exact powerMark_of_takeSign hm rfl hd hne
  | minus hm hd hne => exact powerMark_of_takeSign hm rfl hd hne

theorem takePoint_cases (cs : List Char) :
    (∃ rest, cs = '.' :: rest ∧ takePoint cs = takeDigits rest) ∨ takePoint cs = ([], cs) := by
  unfold takePoint
  split
  · exact Or.inl ⟨_, rfl, rfl⟩
  · exact Or.inr rfl

/-- Digits, a point and digits are taken off the front, if there is a digit at all. -/
theorem exists_pointForm (hne : ¬((takeDigits cs).1.isEmpty ∧ (takePoint (takeDigits cs).2).1.isEmpty)) :
    ∃ body, cs = body ++ (takePoint (takeDigits cs).2).2 ∧
      PointForm body (takeDigits cs).1 (takePoint (takeDigits cs).2).1 := by
  have hcs := takeDigits_append_eq cs
  have hd := digits_takeDigits cs
  simp only [List.isEmpty_iff] at hne
  rcases takePoint_cases (takeDigits cs).2 with ⟨rest, hrest, hpoint⟩ | hpoint
  · rw [hpoint] at hne ⊢
    refine ⟨(takeDigits cs).1 ++ '.' :: (takeDigits rest).1, ?_, .pointed hd (digits_takeDigits rest) ?_⟩
    · rw [List.append_assoc, List.cons_append, takeDigits_append_eq, ← hrest, hcs]
    · exact Classical.not_and_iff_not_or_not.mp hne
  · rw [hpoint] at hne ⊢
    exact ⟨(takeDigits cs).1, hcs.symm, .whole hd fun hnil => hne ⟨hnil, rfl⟩⟩

/-- The digits around a point are taken, up to a power behind them. -/
theorem PointForm.take {body whole fraction : List Char} (h : PointForm body whole fraction)
    (hrest : ∀ c ∈ rest.head?, c = 'e' ∨ c = 'E') :
    (takeDigits (body ++ rest)).1 = whole ∧ takePoint (takeDigits (body ++ rest)).2 = (fraction, rest) := by
  have hdigit : NoDigit rest := by
    intro c hc
    rcases hrest c hc with rfl | rfl <;> rfl
  cases h with
  | whole hw hne =>
    rw [takeDigits_run hw hdigit]
    refine ⟨rfl, ?_⟩
    rcases takePoint_cases rest with ⟨rest', rfl, -⟩ | hpoint
    · exact absurd (hrest '.' rfl) (by decide)
    · exact hpoint
  | pointed hw hf hne =>
    have hpoint : NoDigit ('.' :: (fraction ++ rest)) := by
      rintro c ⟨⟩
      rfl
    rw [List.append_assoc, List.cons_append, takeDigits_run hw hpoint]
    exact ⟨rfl, takeDigits_run hf hdigit⟩

theorem PointForm.not_minus {body whole fraction : List Char} (h : PointForm body whole fraction)
    (rest : List Char) : takeMinus (body ++ rest) = (false, body ++ rest) := by
  have hdigit : ∀ {ds : List Char} {c : Char}, Digits (c :: ds) → c ≠ '-' := by
    rintro ds c hd rfl
    exact absurd (hd '-' List.mem_cons_self) (by decide)
  cases h with
  | whole hw hne =>
    cases body with
    | nil => exact absurd rfl hne
    | cons c ds => exact takeMinus_of_ne (hdigit hw) _
  | pointed hw hf hne =>
    cases whole with
    | nil => exact takeMinus_of_ne (by decide) _
    | cons c ds => exact takeMinus_of_ne (hdigit hw) _

theorem PointForm.has_digit {body whole fraction : List Char} (h : PointForm body whole fraction) :
    ¬(whole.isEmpty ∧ fraction.isEmpty) := by
  simp only [List.isEmpty_iff]
  rintro ⟨rfl, rfl⟩
  cases h with
  | whole hw hne => exact hne rfl
  | pointed hw hf hne => simp at hne

/-- A whole part is digits that do not start with a zero, or a lone zero, and the text goes on after it. -/
theorem strictWhole_of_takeWhole? {whole : List Char} (h : takeWhole? cs = some (whole, rest)) :
    StrictWhole whole ∧ cs = whole ++ rest := by
  cases cs with
  | nil => cases h
  | cons c cs =>
    rw [takeWhole?] at h
    split at h
    · rename_i hzero
      cases h
      exact ⟨Or.inl rfl, by rw [hzero]; rfl⟩
    · rename_i hzero
      split at h
      · rename_i hdigit
        have hwhole : takeDigits (c :: cs) = (whole, rest) := Option.some.inj h
        have hall := digits_takeDigits (c :: cs)
        have happend := takeDigits_append_eq (c :: cs)
        rw [hwhole] at hall happend
        rw [takeDigits_cons hdigit] at hwhole
        obtain ⟨rfl, -⟩ := Prod.mk.inj hwhole
        exact ⟨Or.inr ⟨c, _, rfl, hzero, hall⟩, happend.symm⟩
      · cases h

/-- A fraction is a point with digits behind it, or nothing. -/
theorem takeFraction_append_eq (cs : List Char) : pointText (takeFraction cs).1 ++ (takeFraction cs).2 = cs ∧
    Digits (takeFraction cs).1 := by
  unfold takeFraction
  split
  · rename_i afterPoint
    dsimp only
    by_cases hne : (takeDigits afterPoint).1.isEmpty = true
    · rw [if_pos hne]
      exact ⟨rfl, nofun⟩
    · rw [if_neg hne]
      refine ⟨?_, digits_takeDigits afterPoint⟩
      rw [pointText_of_ne_nil (fun hnil => hne (by rw [hnil]; rfl)), List.cons_append, takeDigits_append_eq]
  · exact ⟨rfl, nofun⟩

/-! ## The readers -/

/-- **The plain reader takes plain notation and nothing else.** -/
theorem ofPlain?_eq_some_iff {n : Numeral} : ofPlain? cs = some n ↔ PlainForm cs n := by
  constructor
  · intro h
    unfold ofPlain? at h
    dsimp only at h
    split at h
    · cases h
    · rename_i hne
      split at h
      · rename_i hrest
        cases h
        obtain ⟨body, hbody, hpoint⟩ := exists_pointForm hne
        have hpower := powerForm_of_takePower (Prod.ext rfl (List.isEmpty_iff.mp hrest))
        have hform := PlainForm.mk (takeMinus cs).1 hpoint hpower
        rwa [← hbody, takeMinus_append_eq] at hform
      · cases h
  · rintro ⟨negative, hb, hm⟩
    rename_i body mark whole fraction power
    have hmark := hm.powerMark
    have hminus : takeMinus (signText negative ++ (body ++ mark)) = (negative, body ++ mark) := by
      cases negative with
      | true => rfl
      | false => exact hb.not_minus mark
    obtain ⟨hwhole, hpoint⟩ := hb.take hmark.head
    unfold ofPlain?
    dsimp only
    rw [hminus]
    dsimp only
    rw [hwhole, hpoint, hmark.take]
    exact if_neg hb.has_digit

/-- The strict reader takes a strict numeral whole. -/
theorem StrictForm.scan? {n : Numeral} (h : StrictForm cs n) : scan? cs = some (n, []) := by
  obtain ⟨negative, hw, hf, hm⟩ := h
  exact scan?_parts negative hw hf hm.powerMark

/-- **The strict reader takes strict notation whole, and nothing else.** -/
theorem scan?_eq_some_iff {n : Numeral} : scan? cs = some (n, []) ↔ StrictForm cs n := by
  refine ⟨fun h => ?_, StrictForm.scan?⟩
  obtain ⟨whole, after, hw⟩ := exists_whole_of_scan? h
  obtain ⟨hstrict, happend⟩ := strictWhole_of_takeWhole? hw
  obtain ⟨hfraction, hdigits⟩ := takeFraction_append_eq after
  rw [scan?_of_whole hw, Option.some.injEq, Prod.mk.injEq] at h
  obtain ⟨rfl, hrest⟩ := h
  have hpower := powerForm_of_takePower (Prod.ext rfl hrest)
  have hform := StrictForm.mk (takeMinus cs).1 hstrict hdigits hpower
  rwa [hfraction, ← happend, takeMinus_append_eq] at hform

end Numeral

/-- A text that goes on with neither a digit nor a point after its sign is no numeral. -/
theorem Numeral.ofPlain?_eq_none {c : Char} (negative : Bool) (hd : c.isDigit = false) (hp : c ≠ '.') (hm : c ≠ '-')
    (cs : List Char) : ofPlain? (signText negative ++ c :: cs) = none := by
  have hminus : takeMinus (signText negative ++ c :: cs) = (negative, c :: cs) := by
    cases negative with
    | true => rfl
    | false => exact takeMinus_of_ne hm cs
  have hdigits : takeDigits (c :: cs) = ([], c :: cs) := by
    refine takeDigits_of_noDigit ?_
    rintro d ⟨⟩
    exact hd
  have hpoint : takePoint (c :: cs) = ([], c :: cs) := by
    rcases takePoint_cases (c :: cs) with ⟨rest, hrest, -⟩ | h
    · exact absurd (List.cons.inj hrest).1 hp
    · exact h
  unfold ofPlain?
  dsimp only
  rw [hminus]
  dsimp only
  rw [hdigits]
  dsimp only
  rw [hpoint]
  exact if_pos ⟨rfl, rfl⟩

/-- **The text of a number is a strict numeral that writes the number.** -/
theorem Scientific.exists_strictForm_text (x : Scientific) :
    ∃ n, Numeral.StrictForm x.text n ∧ n.Writes x := by
  obtain ⟨parts⟩ := x.parts_unsignedText
  refine ⟨⟨x.negative, parts.whole, parts.fraction, parts.power⟩, ?_, ?_⟩
  · have htext : x.text = Numeral.signText x.negative ++
        (parts.whole ++ (Numeral.pointText parts.fraction ++ parts.mark)) := by
      rw [← parts.text_eq, text, Numeral.signText]
      cases x.negative <;> rfl
    rw [htext]
    exact .mk x.negative parts.strict parts.digits (Numeral.powerForm_of_takePower parts.marked.take)
  · rw [Numeral.writes_iff, ofNumeral, parts.coefficient_eq, parts.exponent_eq]

/-- A numeral has the number that it writes as its value, unless the number is out of bounds. -/
theorem Decimal.ofNumeral?_eq_some_iff {n : Numeral} {d : Decimal} :
    Decimal.ofNumeral? n = some d ↔ ∃ x h, n.Writes x ∧ d = .finite x h := by
  unfold ofNumeral? ofScientific?
  split
  · rename_i hx
    simp only [Option.some.injEq, Numeral.writes_iff]
    constructor
    · rintro rfl
      exact ⟨_, hx, rfl, rfl⟩
    · rintro ⟨_, h, rfl, rfl⟩
      rfl
  · rename_i hx
    refine ⟨nofun, ?_⟩
    rintro ⟨x, h, hwrites, -⟩
    rw [Numeral.writes_iff.mp hwrites] at hx
    exact absurd h hx

end Intake
