import Intake.Proofs.Json.Decoded
import Intake.Proofs.Wire.RoundTrip
import Intake.Validation.Scalars

/-! # Decoded values and normal forms

A value that was read from a text is plain, so it can be written, and what is written is read as the same value again.
Writing what a text says therefore gives a normal form of the text (`Wire.normal?`): it has no blanks, no name twice
and no escapes but the necessary ones, it says the same, and it is its own normal form.

The validators for numbers take decimal numbers only.  In a decoded value there are no others, and none that is
infinite or no number, so they take every number in it.
-/
namespace Intake

/-- A whole number, a binary or a decimal one; truth values are none. -/
def Value.IsNumber (v : Value) : Prop := v.kind = .int ∨ v.kind = .float ∨ v.kind = .decimal

/-- A plain number is accepted as it is. -/
theorem Value.Plain.number {v : Value} (h : v.Plain) (hv : v.IsNumber) (path : Path) :
    ∃ d, v = .decimal d ∧ Validator.number v path = .ok d := by
  cases h with
  | decimal x hx => exact ⟨.finite x hx, rfl, rfl⟩
  | object => simp [IsNumber, kind, Value.object] at hv
  | _ => simp [IsNumber, kind] at hv

namespace Wire

/-- The normal form of a text: what it says, written again. -/
def normal? (t : Text) : Option Text := (read t).toOption.bind fun v => (write v).toOption

theorem normal?_eq_some {t u : Text} {v : Value} (hread : read t = .ok v) (hwrite : write v = .ok u) :
    normal? t = some u := by
  rw [normal?, hread]
  show (write v).toOption = some u
  rw [hwrite]
  rfl

/-- **A decoded value is clean, and writing it is stable.**  It is plain, the number validator takes every number inside
it, and its text is a normal form: it is read as the same value, and normalising it again changes nothing. -/
theorem decoded_is_clean {t : Text} {v : Value} (h : read t = .ok v) :
    v.Plain ∧
    (∀ l y, v.At l y → y.IsNumber → ∀ path, ∃ d, y = .decimal d ∧ Validator.number y path = .ok d) ∧
    ∃ u, write v = .ok u ∧ read u = .ok v ∧ normal? t = some u ∧ normal? u = some u := by
  have hplain : v.Plain := Json.plain_of_read h
  refine ⟨hplain, fun l y hl hy path => (hplain.at hl).number hy path, ?_⟩
  obtain ⟨tree, htree, hvalue⟩ := hplain.exists_tree
  obtain ⟨u, hwrite, hread, -⟩ := exists_text_of_tree htree hvalue
  exact ⟨u, hwrite, hread, normal?_eq_some h hwrite, normal?_eq_some hread hwrite⟩

/-- Blanks, an escape that is not needed, a name that stands twice, and zeros with a sign and with an exponent. -/
theorem decoded_is_clean_object :
    let t : Text := " \x7b\"a\": 1.50e1,\n\"b\" :[-0, \"\\u00e9\"], \"a\":0E-8\x7d"
    let u : Text := "\x7b\"a\":0E-8,\"b\":[-0,\"é\"]\x7d"
    let v : Value := .object
      [("a", .decimal (.finite ⟨false, 0, -8⟩ (by decide))),
        ("b", .list [.decimal (.finite ⟨true, 0, 0⟩ (by decide)), .text "é"])]
    read t = .ok v ∧ v.Plain ∧
      (∀ l y, v.At l y → y.IsNumber → ∀ path, ∃ d, y = .decimal d ∧ Validator.number y path = .ok d) ∧
      write v = .ok u ∧ read u = .ok v ∧ normal? t = some u ∧ normal? u = some u := by
  intro t u v
  have hplain : v.Plain := by
    refine .object (by decide) fun f hf => ?_
    simp only [List.mem_cons, List.not_mem_nil, or_false] at hf
    rcases hf with rfl | rfl
    · exact .decimal _ _
    · refine .list fun x hx => ?_
      simp only [List.mem_cons, List.not_mem_nil, or_false] at hx
      rcases hx with rfl | rfl
      · exact .decimal _ _
      · exact .text _
  have hwrite : write v = .ok u := rfl
  have hnormal : normal? t = some u := by decide +kernel
  have hread : read t = .ok v := by
    -- What was read has the text of `v`, and a text is read in one way only.
    cases hread : read t with
    | error fault =>
      rw [normal?, hread] at hnormal
      cases hnormal
    | ok w =>
      obtain ⟨-, -, u', -, hw, hnormal', -⟩ := decoded_is_clean hread
      obtain rfl : u = u' := Option.some.inj (hnormal.symm.trans hnormal')
      obtain ⟨u', hwrite', hv, -⟩ := read_undoes_write hplain
      obtain rfl : u = u' := Except.ok.inj (hwrite.symm.trans hwrite')
      exact hw.symm.trans hv
  obtain ⟨hplain, hnumbers, u', hwrite', hagain, hnormal, hstable⟩ := decoded_is_clean hread
  obtain rfl : u = u' := Except.ok.inj (hwrite.symm.trans hwrite')
  exact ⟨hread, hplain, hnumbers, hwrite, hagain, hnormal, hstable⟩

end Wire
end Intake
