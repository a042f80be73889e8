import Intake.Proofs.Json.Plain
import Intake.Proofs.Json.Whole
import Intake.Proofs.Text.Utf8
import Intake.Wire

/-! # Values cross the wire unchanged

A tree that the encoder builds is laid out without blanks, and what is read from this text is the value of the
tree; so is what is read from its bytes, which it has when all texts in the value are whole (`exists_text_of_tree`).
A plain value is the value of its own tree.  So it comes back as it was (`read_undoes_write`): constructors, the order
of the entries, and of each decimal number the sign, all digits and the exponent.
-/
namespace Intake.Wire

/-- The text of a value is whole just when the value is. -/
theorem isWhole_of_write {v : Value} {text : Text} (h : write v = .ok text) : text.isWhole = v.isWhole := by
  obtain ⟨t, ht, rfl⟩ := Json.map_eq_ok h
  rw [Json.isWhole_render Json.whole_compact, Json.isWhole_of_ofValue v ht]

/-- The bytes of a text are read as the text is. -/
theorem readBytes_encode (cs : List Char) : readBytes (Utf8.encode cs) = read (.ofChars cs) := by
  rw [readBytes, Utf8.decode_encode, read]

/-- The tree's text is read as the tree's value, and so are the bytes of a whole one. -/
theorem exists_text_of_tree {v w : Value} {t : Json} (hwrite : Json.ofValue v = .ok t)
    (hvalue : t.value? = some w) :
    ∃ text, write v = .ok text ∧ read text = .ok w ∧
      (v.isWhole = true → ∃ cs, text = .ofChars cs ∧ readBytes (Utf8.encode cs) = .ok w) := by
  have hread : read (t.render .compact) = .ok w := Json.read_render Json.readable_compact hvalue
  have htext : write v = .ok (t.render .compact) := by rw [write, hwrite]; rfl
  refine ⟨t.render .compact, htext, hread, fun hwhole => ?_⟩
  obtain ⟨cs, hcs⟩ := Text.isWhole_iff.mp ((isWhole_of_write htext).trans hwhole)
  refine ⟨cs, hcs, ?_⟩
  rw [readBytes_encode, ← hcs, hread]

/-- **Reading undoes writing.**  A plain value has a text, and the text is read as this very value.  If the value has
whole texts only, its text has bytes, and these are read as this very value too. -/
theorem read_undoes_write {v : Value} (h : v.Plain) :
    ∃ text, write v = .ok text ∧ read text = .ok v ∧
      (v.isWhole = true → ∃ cs, text = .ofChars cs ∧ readBytes (Utf8.encode cs) = .ok v) := by
  obtain ⟨t, hwrite, hvalue⟩ := h.exists_tree
  exact exists_text_of_tree hwrite hvalue

/-- Zeros with a sign and with an exponent, zeros at the end, and both ends of the exponents, under a name that
has to be escaped. -/
theorem read_undoes_write_amounts :
    let v : Value := .object
      [("\"a\\b\"\n", .list
        [.decimal (.finite ⟨true, 0, 0⟩ (by decide)), .decimal (.finite ⟨false, 0, -8⟩ (by decide)),
          .decimal (.finite ⟨false, 1500, -2⟩ (by decide)),
          .decimal (.finite ⟨true, 12, 999999999999999998⟩ (by decide)),
          .decimal (.finite ⟨false, 1, -1999999999999999997⟩ (by decide))]),
        ("é", .null), ("", .object [])]
    v.Plain ∧ v.isWhole = true ∧ ∃ text, write v = .ok text ∧ read text = .ok v ∧
      ∃ cs, text = .ofChars cs ∧ readBytes (Utf8.encode cs) = .ok v := by
  intro v
  have hv : v.Plain := by
    refine .object (by decide) fun f hf => ?_
    simp only [List.mem_cons, List.not_mem_nil, or_false] at hf
    rcases hf with rfl | rfl | rfl
    · refine .list fun x hx => ?_
      simp only [List.mem_cons, List.not_mem_nil, or_false] at hx
      rcases hx with rfl | rfl | rfl | rfl | rfl <;> exact .decimal _ _
    · exact .null
    · exact .object List.nodup_nil (List.forall_mem_nil _)
  have hwhole : v.isWhole = true := by decide
  obtain ⟨text, hwrite, hread, hbytes⟩ := read_undoes_write hv
  exact ⟨hv, hwhole, text, hwrite, hread, hbytes hwhole⟩

end Intake.Wire
