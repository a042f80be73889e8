import Intake.Number.Decimal
import Mathlib.Algebra.Group.Nat.Defs

/-! # Numerals are read back

The strict reader takes the longest numeral off the front of a text.  What comes after a number in JSON never
goes on with it (`Numeral.Ends`), so a token is read alike alone and in front of the rest
(`scan?_append`): each part of the reader — whole digits, fraction, power — leaves the rest behind its own.

The text of a decimal number is such a token.  It is always a whole part without a leading zero, perhaps a
fraction, perhaps a power (`scan?_parts`), and the three notations — whole, with a point, scientific — differ
only in where they put the digits.  Reading any of them gives back sign, coefficient and exponent
(`Scientific.scan?_text`).
-/
namespace Intake
namespace Numeral

/-! ## What comes after a numeral -/

/-- The text does not go on with a number before it. -/
def Ends (rest : List Char) : Prop :=
  ∀ c ∈ rest.head?, c.isDigit = false ∧ c ≠ '.' ∧ c ≠ 'e' ∧ c ≠ 'E'

theorem ends_nil : Ends [] := nofun

theorem ends_cons {c : Char} {rest : List Char} (hd : c.isDigit = false) (hp : c ≠ '.') (he : c ≠ 'e')
    (hE : c ≠ 'E') : Ends (c :: rest) := by
  intro c' hc
  cases hc
  exact ⟨hd, hp, he, hE⟩

/-- The text does not start with a digit. -/
def NoDigit (rest : List Char) : Prop := ∀ c ∈ rest.head?, c.isDigit = false

theorem Ends.noDigit {rest : List Char} (h : Ends rest) : NoDigit rest := fun c hc => (h c hc).1

/-- All characters are digits. -/
def Digits (ds : List Char) : Prop := ∀ c ∈ ds, c.isDigit = true

instance (ds : List Char) : Decidable (Digits ds) :=
  show Decidable (∀ c ∈ ds, c.isDigit = true) from List.decidableBAll _ _

variable {rest : List Char}

theorem takeDigits_of_noDigit (h : NoDigit rest) : takeDigits rest = ([], rest) := by
  cases rest with
  | nil => rfl
  | cons c cs =>
    have hc := h c rfl
    simp [takeDigits, hc]

theorem takeDigits_cons {c : Char} (hc : c.isDigit = true) (cs : List Char) :
    takeDigits (c :: cs) = (c :: (takeDigits cs).1, (takeDigits cs).2) := by
  simp [takeDigits, hc]

theorem takeDigits_append (h : NoDigit rest) (cs : List Char) :
    takeDigits (cs ++ rest) = ((takeDigits cs).1, (takeDigits cs).2 ++ rest) := by
  induction cs with
  | nil => exact takeDigits_of_noDigit h
  | cons c cs ih =>
    by_cases hc : c.isDigit = true
    · rw [List.cons_append, takeDigits_cons hc, takeDigits_cons hc, ih]
    · simp [takeDigits, hc]

theorem takeDigits_digits {ds : List Char} (h : Digits ds) : takeDigits ds = (ds, []) := by
  induction ds with
  | nil => rfl
  | cons c ds ih =>
    have hds : Digits ds := fun d hd => h d (List.mem_cons_of_mem _ hd)
    rw [takeDigits_cons (h c List.mem_cons_self), ih hds]

/-- A run of digits is taken whole. -/
theorem takeDigits_run {ds : List Char} (hd : Digits ds) (h : NoDigit rest) :
    takeDigits (ds ++ rest) = (ds, rest) := by
  rw [takeDigits_append h, takeDigits_digits hd, List.nil_append]

/-! ## A token in front of a rest -/

theorem takeWhole?_append (h : NoDigit rest) {cs whole after : List Char}
    (hw : takeWhole? cs = some (whole, after)) :
    takeWhole? (cs ++ rest) = some (whole, after ++ rest) := by
  cases cs with
  | nil => cases hw
  | cons c cs =>
    rw [takeWhole?] at hw
    rw [List.cons_append, takeWhole?]
    split at hw
    · rename_i hc
      cases hw
      rw [if_pos hc]
    · rename_i hc
      rw [if_neg hc]
      split at hw
      · rename_i hd
        rw [if_pos hd, ← List.cons_append, takeDigits_append h, Option.some.inj hw]
      · cases hw

/-- Without a point there is no fraction. -/
theorem takeFraction_of_ne (h : ∀ c ∈ rest.head?, c ≠ '.') : takeFraction rest = ([], rest) := by
  rw [takeFraction.eq_def]
  split
  · exact absurd rfl (h _ rfl)
  · rfl

theorem takeFraction_append (h : Ends rest) (cs : List Char) :
    takeFraction (cs ++ rest) = ((takeFraction cs).1, (takeFraction cs).2 ++ rest) := by
  cases cs with
  | nil => exact takeFraction_of_ne fun c hc => (h c hc).2.1
  | cons c cs =>
    by_cases hc : c = '.'
    · subst hc
      rw [List.cons_append, takeFraction, takeFraction, takeDigits_append h.noDigit]
      dsimp only
      split
      · rfl
      · rfl
    · have hhead : ∀ tail : List Char, ∀ d ∈ (c :: tail).head?, d ≠ '.' := by
        rintro tail d ⟨⟩
        exact hc
      rw [takeFraction_of_ne (hhead cs), List.cons_append, takeFraction_of_ne (hhead _)]

theorem takeSign_append {cs : List Char} (hcs : cs ≠ []) :
    takeSign (cs ++ rest) = ((takeSign cs).1, (takeSign cs).2 ++ rest) := by
  cases cs with
  | nil => contradiction
  | cons c cs =>
    rw [List.cons_append, takeSign.eq_def, takeSign.eq_def]
    split
    · rename_i hr
      obtain ⟨rfl, rfl⟩ := List.cons.inj hr
      rfl
    · rename_i hr
      obtain ⟨rfl, rfl⟩ := List.cons.inj hr
      rfl
    · rename_i hm hp
      split
      · rename_i hr
        exact absurd (congrArg (· ++ rest) hr) (hm _)
      · rename_i hr
        exact absurd (congrArg (· ++ rest) hr) (hp _)
      · rfl

/-- A power that ends the token ends it in front of the rest, too. -/
theorem takePower_append (h : Ends rest) {cs : List Char} {power : Int}
    (hp : takePower cs = (power, [])) : takePower (cs ++ rest) = (power, rest) := by
  cases cs with
  | nil =>
    cases hp
    cases rest with
    | nil => rfl
    | cons c r =>
      have hc := h c rfl
      rw [List.nil_append, takePower, if_neg (fun he => he.elim hc.2.2.1 hc.2.2.2)]
  | cons c cs =>
    rw [takePower] at hp
    rw [List.cons_append, takePower]
    split at hp
    · rename_i hc
      rw [if_pos hc]
      dsimp only at hp ⊢
      -- A mark without digits is no power: such a token would be left with its mark.
      have hcs : cs ≠ [] := by
        rintro rfl
        cases hp
      rw [takeSign_append hcs, takeDigits_append h.noDigit]
      dsimp only
      split at hp
      · cases hp
      · rename_i hds
        obtain ⟨hpow, hrest⟩ := Prod.mk.inj hp
        rw [if_neg hds, hpow, hrest, List.nil_append]
    · cases hp

/-- The reader takes a sign, a whole part, a fraction and a power, in this order. -/
theorem scan?_of_whole {cs whole after : List Char} (hw : takeWhole? (takeMinus cs).2 = some (whole, after)) :
    scan? cs = some (⟨(takeMinus cs).1, whole, (takeFraction after).1,
      (takePower (takeFraction after).2).1⟩, (takePower (takeFraction after).2).2) := by
  unfold scan?
  dsimp only
  rw [hw]

theorem exists_whole_of_scan? {cs r : List Char} {n : Numeral} (hs : scan? cs = some (n, r)) :
    ∃ whole after, takeWhole? (takeMinus cs).2 = some (whole, after) := by
  cases hw : takeWhole? (takeMinus cs).2 with
  | none =>
    unfold scan? at hs
    dsimp only at hs
    rw [hw] at hs
    cases hs
  | some p => exact ⟨p.1, p.2, rfl⟩

theorem takeMinus_of_ne {c : Char} (hc : c ≠ '-') (cs : List Char) :
    takeMinus (c :: cs) = (false, c :: cs) := by
  rw [takeMinus.eq_def]
  split
  · rename_i hr
    exact absurd (List.cons.inj hr).1 hc
  · rfl

theorem takeMinus_append {cs : List Char} (hcs : cs ≠ []) (rest : List Char) :
    takeMinus (cs ++ rest) = ((takeMinus cs).1, (takeMinus cs).2 ++ rest) := by
  cases cs with
  | nil => contradiction
  | cons c cs =>
    by_cases hc : c = '-'
    · subst hc
      rfl
    · rw [List.cons_append, takeMinus_of_ne hc, takeMinus_of_ne hc, List.cons_append]

/-- **A token is read alike in front of anything that does not go on with it.** -/
theorem scan?_append (h : Ends rest) {token : List Char} {n : Numeral}
    (hs : scan? token = some (n, [])) : scan? (token ++ rest) = some (n, rest) := by
  obtain ⟨whole, after, hw⟩ := exists_whole_of_scan? hs
  have htoken : token ≠ [] := by
    rintro rfl
    cases hw
  rw [scan?_of_whole hw, Option.some.injEq, Prod.mk.injEq] at hs
  obtain ⟨hn, hpower⟩ := hs
  have hp : takePower (takeFraction after).2 = ((takePower (takeFraction after).2).1, []) :=
    Prod.ext rfl hpower
  have hm := takeMinus_append htoken rest
  have hw' : takeWhole? (takeMinus (token ++ rest)).2 = some (whole, after ++ rest) := by
    rw [hm]
    exact takeWhole?_append h.noDigit hw
  rw [scan?_of_whole hw', takeFraction_append h, takePower_append h hp, hm, ← hn]

/-! ## Tokens from their parts -/

/-- Digits without a leading zero, or a lone zero. -/
def StrictWhole (whole : List Char) : Prop :=
  whole = ['0'] ∨ ∃ c cs, whole = c :: cs ∧ c ≠ '0' ∧ Digits whole

theorem takeWhole?_run {whole : List Char} (hw : StrictWhole whole) (h : NoDigit rest) :
    takeWhole? (whole ++ rest) = some (whole, rest) := by
  rcases hw with rfl | ⟨c, cs, rfl, hc, hd⟩
  · rfl
  · rw [List.cons_append, takeWhole?, if_neg hc, if_pos (hd c List.mem_cons_self), ← List.cons_append,
      takeDigits_run hd h]

/-- A point and digits, where there are any. -/
def pointText : List Char → List Char
  | [] => []
  | ds => '.' :: ds

theorem pointText_of_ne_nil {ds : List Char} (h : ds ≠ []) : pointText ds = '.' :: ds := by
  cases ds with
  | nil => contradiction
  | cons d ds => rfl

theorem takeFraction_run {ds : List Char} (hd : Digits ds) (h : NoDigit rest)
    (hp : ∀ c ∈ rest.head?, c ≠ '.') : takeFraction (pointText ds ++ rest) = (ds, rest) := by
  cases ds with
  | nil => exact takeFraction_of_ne hp
  | cons d ds =>
    show takeFraction ('.' :: (d :: ds ++ rest)) = _
    rw [takeFraction, takeDigits_run hd h]
    rfl

theorem digits_toDigits (n : Nat) : Digits (Nat.toDigits 10 n) := fun _ hc =>
  Nat.isDigit_of_mem_toDigits (by decide) (by decide) hc

theorem natOf_toDigits (n : Nat) : natOf (Nat.toDigits 10 n) = n := Nat.ofDigitChars_ten_toDigits

/-- Different numbers have different texts. -/
theorem eq_of_toString_eq {m n : Nat} (h : toString m = toString n) : m = n := by
  have hdigits : Nat.toDigits 10 m = Nat.toDigits 10 n := by simpa using congrArg String.toList h
  rw [← natOf_toDigits m, hdigits, natOf_toDigits]

theorem natOf_cons (c : Char) (cs : List Char) :
    natOf (c :: cs) = 10 ^ cs.length * (c.toNat - '0'.toNat) + natOf cs := by
  rw [natOf, Nat.ofDigitChars_cons, Nat.ofDigitChars_eq_ofDigitChars_zero, Nat.mul_zero, Nat.zero_add, natOf]

/-- A mark, a sign and digits are read as the power that they write. -/
theorem takePower_signed {mark : Char} (hm : mark = 'e' ∨ mark = 'E') {ds : List Char} (hd : Digits ds)
    (hne : ds ≠ []) {power : Int} (hn : natOf ds = power.natAbs) :
    takePower (mark :: (if power < 0 then '-' else '+') :: ds) = (power, []) := by
  have hs : takeSign ((if power < 0 then '-' else '+') :: ds) = (decide (power < 0), ds) := by
    by_cases hp : power < 0
    · rw [if_pos hp, decide_eq_true hp]
      rfl
    · rw [if_neg hp, decide_eq_false hp]
      rfl
  rw [takePower, if_pos hm, hs]
  dsimp only
  rw [takeDigits_digits hd, if_neg (by rw [List.isEmpty_iff]; exact hne), hn, signed]
  by_cases hp : power < 0
  · rw [decide_eq_true hp, if_pos rfl]
    exact Prod.ext (by show -(power.natAbs : Int) = power; omega) rfl
  · rw [decide_eq_false hp, if_neg (by decide)]
    exact Prod.ext (by show (power.natAbs : Int) = power; omega) rfl

/-- A text that is read as a power, mark and all; nothing is read as the power zero. -/
structure PowerMark (mark : List Char) (power : Int) : Prop where
  take : takePower mark = (power, [])
  head : ∀ c ∈ mark.head?, c = 'e' ∨ c = 'E'

theorem powerMark_nil : PowerMark [] 0 := ⟨rfl, nofun⟩

theorem powerMark_signed {mark : Char} (hm : mark = 'e' ∨ mark = 'E') {ds : List Char} (hd : Digits ds)
    (hne : ds ≠ []) {power : Int} (hn : natOf ds = power.natAbs) :
    PowerMark (mark :: (if power < 0 then '-' else '+') :: ds) power := by
  refine ⟨takePower_signed hm hd hne hn, fun c hc => ?_⟩
  cases hc
  exact hm

theorem PowerMark.noDigit {mark : List Char} {power : Int} (h : PowerMark mark power) : NoDigit mark := by
  intro c hc
  rcases h.head c hc with rfl | rfl
  · decide
  · decide

/-- **A token from its parts is read as these parts.** -/
theorem scan?_parts {whole fraction mark : List Char} {power : Int} (negative : Bool)
    (hw : StrictWhole whole) (hf : Digits fraction) (hm : PowerMark mark power) :
    scan? ((if negative then ['-'] else []) ++ (whole ++ (pointText fraction ++ mark))) =
      some (⟨negative, whole, fraction, power⟩, []) := by
  have hmark : NoDigit mark := hm.noDigit
  -- The whole part ends where a point or the mark stands, or at the end.
  have hafter : NoDigit (pointText fraction ++ mark) := by
    cases fraction with
    | nil => exact hmark
    | cons d ds =>
      intro c hc
      cases hc
      rfl
  have hminus : takeMinus ((if negative then ['-'] else []) ++ (whole ++ (pointText fraction ++ mark))) =
      (negative, whole ++ (pointText fraction ++ mark)) := by
    cases negative with
    | true => rfl
    | false =>
      rcases hw with rfl | ⟨c, cs, rfl, -, hd⟩
      · rfl
      · have hc : c ≠ '-' := by
          rintro rfl
          exact absurd (hd '-' List.mem_cons_self) (by decide)
        exact takeMinus_of_ne hc _
  have hwhole := takeWhole?_run hw hafter
  have hfraction : takeFraction (pointText fraction ++ mark) = (fraction, mark) :=
    takeFraction_run hf hmark fun c hc => by
      rcases hm.head c hc with rfl | rfl
      · decide
      · decide
  rw [scan?_of_whole (by rw [hminus]; exact hwhole), hminus, hfraction, hm.take]

/-- The digits of a number start with zero only if the number is zero. -/
theorem strictWhole_toDigits (n : Nat) : StrictWhole (Nat.toDigits 10 n) := by
  by_cases hn : n = 0
  · subst hn
    exact Or.inl (Nat.toDigits_zero 10)
  · refine Or.inr ?_
    suffices h : ∃ c cs, Nat.toDigits 10 n = c :: cs ∧ c ≠ '0' by
      obtain ⟨c, cs, hc, hz⟩ := h
      exact ⟨c, cs, hc, hz, digits_toDigits n⟩
    induction n using Nat.base_induction 10 (by decide) with
    | single m hm =>
      refine ⟨m.digitChar, [], Nat.toDigits_of_lt_base hm, ?_⟩
      have hall : ∀ m < 10, m ≠ 0 → m.digitChar ≠ '0' := by decide
      exact hall m hm hn
    | digit m k hk hm ih =>
      obtain ⟨c, cs, hc, hz⟩ := ih (by omega)
      exact ⟨c, cs ++ Nat.toDigits 10 k,
        by rw [← Nat.toDigits_append_toDigits (by decide) hm hk, hc, List.cons_append], hz⟩

theorem StrictWhole.take {ds : List Char} (h : StrictWhole ds) (hl : 1 < ds.length) {k : Nat}
    (hk : 0 < k) : StrictWhole (ds.take k) := by
  rcases h with rfl | ⟨c, cs, rfl, hc, hd⟩
  · exact absurd hl (by decide)
  · obtain ⟨k, rfl⟩ := Nat.exists_eq_add_of_lt hk
    refine Or.inr ⟨c, cs.take (0 + k), rfl, hc, ?_⟩
    intro d hmem
    exact hd d (List.mem_of_mem_take hmem)

end Numeral

namespace Scientific

open Numeral

variable (x : Scientific)

theorem length_digits_pos : 0 < x.digits.length :=
  List.length_pos_iff.mpr Nat.toDigits_ne_nil

/-- The parts of a text that write the number. -/
structure Parts (text : List Char) where
  whole : List Char
  fraction : List Char
  mark : List Char
  power : Int
  strict : StrictWhole whole
  digits : Digits fraction
  marked : PowerMark mark power
  text_eq : text = whole ++ (pointText fraction ++ mark)
  coefficient_eq : natOf (whole ++ fraction) = x.coefficient
  exponent_eq : power - fraction.length = x.exponent

/-- The number's digits with a point inside. -/
theorem parts_inside {places : Nat} (hp : 0 < places) (hl : places < x.digits.length)
    (he : x.exponent = -(places : Int)) : Nonempty (x.Parts (pointed x.digits places)) := by
  have hdrop : x.digits.drop (x.digits.length - places) ≠ [] := by
    intro h
    have := congrArg List.length h
    rw [List.length_drop, List.length_nil] at this
    omega
  refine ⟨{ whole := x.digits.take (x.digits.length - places),
            fraction := x.digits.drop (x.digits.length - places), mark := [], power := 0,
            strict := (strictWhole_toDigits _).take (by show 1 < x.digits.length; omega) (by omega),
            digits := fun c hc => digits_toDigits _ c (List.mem_of_mem_drop hc),
            marked := powerMark_nil, text_eq := ?_, coefficient_eq := ?_, exponent_eq := ?_ }⟩
  · rw [pointed, if_pos hl, List.append_nil, pointText_of_ne_nil hdrop]
  · rw [List.take_append_drop]
    exact natOf_toDigits _
  · rw [List.length_drop, he]
    omega

/-- The number's digits after a lone zero, a point and the zeros that are missing. -/
theorem parts_behind {places : Nat} (hl : x.digits.length ≤ places)
    (he : x.exponent = -(places : Int)) : Nonempty (x.Parts (pointed x.digits places)) := by
  have hpos := x.length_digits_pos
  have hne : List.replicate (places - x.digits.length) '0' ++ x.digits ≠ [] := by
    intro h
    rw [(List.append_eq_nil_iff.mp h).2] at hpos
    exact absurd hpos (by decide)
  refine ⟨{ whole := ['0'], fraction := List.replicate (places - x.digits.length) '0' ++ x.digits,
            mark := [], power := 0, strict := Or.inl rfl, digits := ?_,
            marked := powerMark_nil, text_eq := ?_, coefficient_eq := ?_, exponent_eq := ?_ }⟩
  · intro c hc
    rcases List.mem_append.mp hc with hc | hc
    · rw [List.eq_of_mem_replicate hc]
      rfl
    · exact digits_toDigits _ c hc
  · rw [pointed, if_neg (by omega), List.append_nil, pointText_of_ne_nil hne]
    rfl
  · rw [natOf, ← List.append_assoc, Nat.ofDigitChars_append]
    -- Zeros in front of a number do not count.
    have hzeros : Nat.ofDigitChars 10 (['0'] ++ List.replicate (places - x.digits.length) '0') 0 = 0 := by
      rw [List.singleton_append, ← List.replicate_succ, Nat.ofDigitChars_replicate_zero, Nat.mul_zero]
    rw [hzeros]
    exact natOf_toDigits _
  · rw [List.length_append, List.length_replicate, he]
    omega

/-- The number's digits with a point after the first one, and a power. -/
theorem parts_leading {mark : List Char} (hm : PowerMark mark x.adjusted) :
    Nonempty (x.Parts (leading x.digits ++ mark)) := by
  have hstrict : StrictWhole x.digits := strictWhole_toDigits _
  have hdigits : Digits x.digits := digits_toDigits _
  have hvalue : natOf x.digits = x.coefficient := natOf_toDigits _
  have hlength := x.length_digits_pos
  have hadjusted : x.adjusted = x.exponent + x.digits.length - 1 := rfl
  cases hd : x.digits with
  | nil =>
    rw [hd] at hlength
    exact absurd hlength (by decide)
  | cons d ds =>
    rw [hd] at hstrict hdigits hvalue hadjusted
    rw [List.length_cons] at hadjusted
    cases ds with
    | nil =>
      exact ⟨{ whole := [d], fraction := [], mark := mark, power := x.adjusted,
               strict := hstrict, digits := nofun, marked := hm, text_eq := rfl,
               coefficient_eq := hvalue,
               exponent_eq := by
                rw [List.length_nil] at hadjusted ⊢
                omega }⟩
    | cons e ds =>
      exact ⟨{ whole := [d], fraction := e :: ds, mark := mark, power := x.adjusted,
               strict := hstrict.take (k := 1) (Nat.lt_add_of_pos_left (Nat.succ_pos _)) Nat.one_pos,
               digits := fun c hc => hdigits c (List.mem_cons_of_mem _ hc), marked := hm,
               text_eq := rfl, coefficient_eq := hvalue, exponent_eq := by omega }⟩

/-- The number's digits with a point inside or in front of them. -/
theorem parts_pointed {places : Nat} (hp : 0 < places) (he : x.exponent = -(places : Int)) :
    Nonempty (x.Parts (pointed x.digits places)) := by
  by_cases hl : places < x.digits.length
  · exact x.parts_inside hp hl he
  · exact x.parts_behind (by omega) he

theorem parts_unsignedText : Nonempty (x.Parts x.unsignedText) := by
  unfold unsignedText
  by_cases hplain : x.exponent ≤ 0 ∧ plainLimit ≤ x.adjusted
  · rw [if_pos hplain]
    by_cases hzero : x.exponent = 0
    · rw [if_pos hzero]
      exact ⟨{ whole := x.digits, fraction := [], mark := [], power := 0,
               strict := strictWhole_toDigits _, digits := nofun, marked := powerMark_nil,
               text_eq := (List.append_nil _).symm,
               coefficient_eq := by
                rw [List.append_nil]
                exact natOf_toDigits _,
               exponent_eq := hzero.symm }⟩
    · rw [if_neg hzero]
      have hplaces : x.exponent = -((-x.exponent).toNat : Int) := by omega
      exact x.parts_pointed (by omega) hplaces
  · rw [if_neg hplain]
    exact x.parts_leading (powerMark_signed (Or.inr rfl) (digits_toDigits _) Nat.toDigits_ne_nil
      (natOf_toDigits _))

/-- A numeral that writes a number within bounds has it as its value. -/
theorem InRange.ofNumeral? {x : Scientific} (hx : x.InRange) {n : Numeral} (h : ofNumeral n = x) :
    Decimal.ofNumeral? n = some (.finite x hx) := by
  rw [Decimal.ofNumeral?, h, Decimal.ofScientific?, dif_pos hx]

/-- A sign and the parts of a text are read as the number. -/
theorem Parts.scan? {x : Scientific} {text : List Char} (parts : x.Parts text) :
    ∃ n, Numeral.scan? (if x.negative then '-' :: text else text) = some (n, []) ∧ ofNumeral n = x := by
  have htext : (if x.negative then '-' :: text else text) = (if x.negative then ['-'] else []) ++
      (parts.whole ++ (pointText parts.fraction ++ parts.mark)) := by
    rw [← parts.text_eq]
    cases x.negative <;> rfl
  refine ⟨⟨x.negative, parts.whole, parts.fraction, parts.power⟩, ?_, ?_⟩
  · rw [htext]
    exact scan?_parts x.negative parts.strict parts.digits parts.marked
  · rw [ofNumeral, parts.coefficient_eq, parts.exponent_eq]

/-- **The text of a decimal number is read back as the number.** -/
theorem scan?_text : ∃ n, scan? x.text = some (n, []) ∧ ofNumeral n = x := by
  obtain ⟨parts⟩ := x.parts_unsignedText
  exact parts.scan?

end Scientific

end Intake
