import Intake.Proofs.Number.Scan
import Intake.Validation.Layout
import Mathlib.Algebra.Group.Nat.Defs

/-! # Texts in a fixed layout

A layout has a text for every list of numbers that fit its groups (`TextLayout.Fits`), and reading the text gives
the numbers back: `TextLayout.numbers?_eq_some_iff` says that a text has given numbers exactly when it is the
layout filled with them.  So no two texts in one layout have the same numbers, and no text has two readings.

A group of digits is a number with zeros in front of it.  Words of digits that are equally long and write the same
number are equal (`Numeral.eq_of_natOf_eq`), so a group is what its number is padded to.

Equally long words of digits also stand in the order of their numbers, because the first digit that differs decides
both (`Numeral.natOf_lt_natOf_iff`).  The texts in one layout are therefore ordered as the lists of their numbers
(`TextLayout.fill_lt_fill_iff`).
-/
namespace Intake

/-! ## Words of digits -/

namespace Numeral

theorem Digits.tail {c : Char} {cs : List Char} (h : Digits (c :: cs)) : Digits cs :=
  fun d hd => h d (List.mem_cons_of_mem _ hd)

/-- A digit's place after zero. -/
theorem digit_range {c : Char} (h : c.isDigit = true) : '0'.toNat ≤ c.toNat ∧ c.toNat - '0'.toNat ≤ 9 := by
  obtain ⟨hlow, hhigh⟩ := Char.isDigit_iff_toNat.mp h
  have h9 : '9'.toNat = 57 := rfl
  have h0 : '0'.toNat = 48 := rfl
  omega

theorem natOf_lt {ds : List Char} (h : Digits ds) : natOf ds < 10 ^ ds.length := by
  induction ds with
  | nil => exact Nat.one_pos
  | cons c cs ih =>
    have hcs := ih h.tail
    obtain ⟨-, hc⟩ := digit_range (h c List.mem_cons_self)
    have hmul := Nat.mul_le_mul_left (10 ^ cs.length) hc
    rw [natOf_cons, List.length_cons, Nat.pow_succ]
    omega

/-- Among numbers with one number of digits the first digit decides, and the other digits if it does not. -/
theorem mul_add_lt_mul_add_iff {p a b x y : Nat} (hx : x < p) (hy : y < p) :
    p * a + x < p * b + y ↔ a < b ∨ a = b ∧ x < y := by
  rcases Nat.lt_trichotomy a b with h | rfl | h
  · have hmul : p * (a + 1) ≤ p * b := Nat.mul_le_mul_left p h
    rw [Nat.mul_add_one] at hmul
    omega
  · omega
  · have hmul : p * (b + 1) ≤ p * a := Nat.mul_le_mul_left p h
    rw [Nat.mul_add_one] at hmul
    omega

/-- Equally long words of digits stand in the order of the numbers that they write. -/
theorem natOf_lt_natOf_iff {ds es : List Char} (hd : Digits ds) (he : Digits es) (hl : ds.length = es.length) :
    natOf ds < natOf es ↔ ds < es := by
  induction ds generalizing es with
  | nil =>
    obtain rfl := List.length_eq_zero_iff.mp hl.symm
    exact iff_of_false (Nat.lt_irrefl _) (List.not_lt_nil _)
  | cons c cs ih =>
    cases es with
    | nil => cases hl
    | cons d ds =>
      have hl' : cs.length = ds.length := Nat.succ.inj hl
      have hcs := natOf_lt hd.tail
      have hc := (digit_range (hd c List.mem_cons_self)).1
      have hd' := (digit_range (he d List.mem_cons_self)).1
      have hlt : c.toNat - '0'.toNat < d.toNat - '0'.toNat ↔ c < d := by
        rw [show c < d ↔ c.toNat < d.toNat from Char.lt_def.trans UInt32.lt_iff_toNat_lt]
        omega
      have heq : c.toNat - '0'.toNat = d.toNat - '0'.toNat ↔ c = d := by
        rw [← Char.toNat_inj]
        omega
      rw [hl'] at hcs
      rw [natOf_cons, natOf_cons, hl', mul_add_lt_mul_add_iff hcs (natOf_lt he.tail), List.cons_lt_cons_iff, hlt, heq,
        ih hd.tail he.tail hl']

/-- Equally long words of digits that write the same number are equal. -/
theorem eq_of_natOf_eq {ds es : List Char} (hd : Digits ds) (he : Digits es) (hl : ds.length = es.length)
    (h : natOf ds = natOf es) : ds = es := by
  have hle : ¬es < ds := by
    rw [← natOf_lt_natOf_iff he hd hl.symm, h]
    exact Nat.lt_irrefl _
  have hge : ¬ds < es := by
    rw [← natOf_lt_natOf_iff hd he hl, h]
    exact Nat.lt_irrefl _
  exact List.le_antisymm hle hge

/-- Texts that begin equally long are compared by their beginnings first. -/
theorem append_lt_append_iff {xs ys xs' ys' : List Char} (hl : xs.length = ys.length) :
    xs ++ xs' < ys ++ ys' ↔ xs < ys ∨ xs = ys ∧ xs' < ys' := by
  induction xs generalizing ys with
  | nil =>
    obtain rfl := List.length_eq_zero_iff.mp hl.symm
    simp
  | cons x xs ih =>
    cases ys with
    | nil => cases hl
    | cons y ys =>
      rw [List.cons_append, List.cons_append, List.cons_lt_cons_iff, List.cons_lt_cons_iff, ih (Nat.succ.inj hl),
        List.cons.injEq, and_or_left, or_assoc, and_assoc]

end Numeral

/-! ## Padded numbers -/

namespace Instant

open Numeral

variable {width n : Nat}

theorem digits_padded (width n : Nat) : Digits (padded width n) := by
  intro c hc
  rcases List.mem_append.mp hc with hc | hc
  · rw [List.eq_of_mem_replicate hc]
    rfl
  · exact digits_toDigits n c hc

theorem natOf_padded (width n : Nat) : natOf (padded width n) = n := by
  rw [padded, natOf, Nat.ofDigitChars_append, Nat.ofDigitChars_replicate_zero, Nat.mul_zero]
  exact natOf_toDigits n

theorem length_padded (hw : 0 < width) (hn : n < 10 ^ width) : (padded width n).length = width := by
  have hl := (Nat.length_toDigits_le_iff (by decide) hw).mpr hn
  rw [padded, List.length_append, List.length_replicate]
  omega

/-- A word of digits is its number, padded to the word's length. -/
theorem padded_natOf {ds : List Char} (hd : Digits ds) (hl : 0 < ds.length) :
    padded ds.length (natOf ds) = ds := by
  refine eq_of_natOf_eq (digits_padded _ _) hd ?_ (natOf_padded _ _)
  exact length_padded hl (natOf_lt hd)

theorem padded_lt_padded_iff {m : Nat} (hw : 0 < width) (hn : n < 10 ^ width) (hm : m < 10 ^ width) :
    padded width n < padded width m ↔ n < m := by
  have hl : (padded width n).length = (padded width m).length := by rw [length_padded hw hn, length_padded hw hm]
  rw [← natOf_lt_natOf_iff (digits_padded _ _) (digits_padded _ _) hl, natOf_padded, natOf_padded]

theorem padded_inj {m : Nat} : padded width n = padded width m ↔ n = m :=
  ⟨fun h => by rw [← natOf_padded width n, h, natOf_padded], fun h => by rw [h]⟩

end Instant

/-! ## Layouts -/

namespace TextLayout

open Numeral Instant

/-- The numbers fit the groups of the layout, each into its own. -/
def Fits : TextLayout → List Nat → Prop
  | [], ns => ns = []
  | .digits count :: parts, ns => ∃ n rest, ns = n :: rest ∧ n < 10 ^ count ∧ Fits parts rest
  | .mark _ :: parts, ns => Fits parts ns

/-- Every group has a digit. -/
def NoEmptyGroup (layout : TextLayout) : Prop := ∀ part ∈ layout, part ≠ .digits 0

instance (layout : TextLayout) : Decidable layout.NoEmptyGroup := by
  unfold NoEmptyGroup
  infer_instance

theorem NoEmptyGroup.tail {part : LayoutPart} {parts : TextLayout} (h : NoEmptyGroup (part :: parts)) :
    NoEmptyGroup parts :=
  fun p hp => h p (List.mem_cons_of_mem _ hp)

theorem NoEmptyGroup.pos {count : Nat} {parts : TextLayout} (h : NoEmptyGroup (.digits count :: parts)) : 0 < count :=
  Nat.pos_of_ne_zero fun hz => h _ List.mem_cons_self (by rw [hz])

variable {count n : Nat} {cs rest : List Char} {ns : List Nat}

/-- A group is taken off the front exactly when it stands there. -/
theorem takeGroup_eq_some_iff (hcount : 0 < count) :
    takeGroup count cs = some (n, rest) ↔ n < 10 ^ count ∧ cs = padded count n ++ rest := by
  unfold takeGroup
  dsimp only
  constructor
  · intro h
    split at h
    · rename_i hgroup
      obtain ⟨hl, hdigits⟩ := hgroup
      have hd : Digits (cs.take count) := List.all_eq_true.mp hdigits
      cases h
      have hlt := natOf_lt hd
      have hpadded := padded_natOf hd (by omega)
      rw [hl] at hlt hpadded
      refine ⟨hlt, ?_⟩
      rw [hpadded, List.take_append_drop]
    · cases h
  · rintro ⟨hn, rfl⟩
    have hl := length_padded hcount hn
    have htake : (padded count n ++ rest).take count = padded count n := by
      rw [List.take_append_of_le_length (by omega), List.take_of_length_le (by omega)]
    have hdrop : (padded count n ++ rest).drop count = rest := by
      rw [List.drop_append_of_le_length (by omega), List.drop_of_length_le (by omega), List.nil_append]
    rw [htake, hdrop, if_pos ⟨hl, List.all_eq_true.mpr (digits_padded count n)⟩, natOf_padded]

/-- **A text has these numbers exactly when it is the layout filled with them.** -/
theorem numbers?_eq_some_iff {layout : TextLayout} (h : layout.NoEmptyGroup) :
    layout.numbers? cs = some ns ↔ layout.Fits ns ∧ cs = layout.fill ns := by
  induction layout generalizing cs ns with
  | nil =>
    cases cs with
    | nil => simp [numbers?, Fits, fill, eq_comm]
    | cons c cs => simp [numbers?, fill]
  | cons part parts ih =>
    have hparts := h.tail
    cases part with
    | digits count =>
      have hcount := h.pos
      constructor
      · intro hnumbers
        rw [numbers?] at hnumbers
        split at hnumbers
        · rename_i n rest hgroup
          obtain ⟨ns', hns', rfl⟩ := Option.map_eq_some_iff.mp hnumbers
          obtain ⟨hn, rfl⟩ := (takeGroup_eq_some_iff hcount).mp hgroup
          obtain ⟨hfits, rfl⟩ := (ih hparts).mp hns'
          exact ⟨⟨n, ns', rfl, hn, hfits⟩, rfl⟩
        · cases hnumbers
      · rintro ⟨⟨n, ns', rfl, hn, hfits⟩, rfl⟩
        have hgroup : takeGroup count (padded count n ++ fill parts ns') = some (n, fill parts ns') :=
          (takeGroup_eq_some_iff hcount).mpr ⟨hn, rfl⟩
        rw [fill, numbers?, hgroup]
        dsimp only
        rw [(ih hparts).mpr ⟨hfits, rfl⟩]
        rfl
    | mark m =>
      constructor
      · intro hnumbers
        cases cs with
        | nil => cases hnumbers
        | cons c cs =>
          rw [numbers?] at hnumbers
          split at hnumbers
          · rename_i hc
            obtain ⟨hfits, hcs⟩ := (ih hparts).mp hnumbers
            exact ⟨hfits, by rw [fill, hc, hcs]⟩
          · cases hnumbers
      · rintro ⟨hfits, rfl⟩
        rw [fill, numbers?, if_pos rfl]
        exact (ih hparts).mpr ⟨hfits, rfl⟩

/-! ## Filled layouts -/

variable {layout : TextLayout} {ms : List Nat}

theorem length_fill_eq (h : layout.NoEmptyGroup) (hn : layout.Fits ns) (hm : layout.Fits ms) :
    (layout.fill ns).length = (layout.fill ms).length := by
  induction layout generalizing ns ms with
  | nil => rfl
  | cons part parts ih =>
    have hparts := h.tail
    cases part with
    | digits count =>
      have hcount := h.pos
      obtain ⟨n, ns, rfl, hlt, hn⟩ := hn
      obtain ⟨m, ms, rfl, hlt', hm⟩ := hm
      rw [fill, fill, List.length_append, List.length_append, length_padded hcount hlt, length_padded hcount hlt',
        ih hparts hn hm]
    | mark c => exact congrArg Nat.succ (ih hparts hn hm)

/-- A text in a layout has the numbers of one list only. -/
theorem fill_injective (h : layout.NoEmptyGroup) (hn : layout.Fits ns) (hm : layout.Fits ms)
    (heq : layout.fill ns = layout.fill ms) : ns = ms :=
  Option.some.inj (((numbers?_eq_some_iff h).mpr ⟨hn, rfl⟩).symm.trans ((numbers?_eq_some_iff h).mpr ⟨hm, heq⟩))

/-- **Texts in one layout are ordered as their numbers.** -/
theorem fill_lt_fill_iff (h : layout.NoEmptyGroup) (hn : layout.Fits ns) (hm : layout.Fits ms) :
    layout.fill ns < layout.fill ms ↔ ns < ms := by
  induction layout generalizing ns ms with
  | nil =>
    rw [show ns = [] from hn, show ms = [] from hm]
    exact iff_of_false (List.lt_irrefl _) (List.lt_irrefl _)
  | cons part parts ih =>
    have hparts := h.tail
    cases part with
    | digits count =>
      have hcount := h.pos
      obtain ⟨n, ns, rfl, hlt, hn⟩ := hn
      obtain ⟨m, ms, rfl, hlt', hm⟩ := hm
      have hl : (padded count n).length = (padded count m).length := by
        rw [length_padded hcount hlt, length_padded hcount hlt']
      rw [fill, fill, append_lt_append_iff hl, padded_lt_padded_iff hcount hlt hlt', padded_inj, ih hparts hn hm,
        List.cons_lt_cons_iff]
    | mark c =>
      rw [fill, fill, List.cons_lt_cons_iff, or_iff_right (Char.lt_irrefl c), and_iff_right rfl, ih hparts hn hm]

end TextLayout

end Intake
