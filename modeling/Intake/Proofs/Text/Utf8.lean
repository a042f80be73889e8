import Intake.Text.Utf8

/-! # UTF-8 is decoded as it is encoded

A character has one to four bytes, and the first of them tells how many (`lead?_one` and the three after it).
The bytes of a character are read as this character whatever comes behind them (`spells_utf8EncodeChar`), and
nothing else is read: what follows a first byte in its ranges are the other bytes of a character
(`exists_char_of_takeTail`).  So the decoder accepts exactly the bytes of texts, and gives the text
(`decode_eq_ok_iff`).
-/
namespace Intake.Utf8

/-! ## First bytes -/

section FirstByte
variable {byte : UInt8}

theorem lead?_one (h : byte.toNat < 0x80) : lead? byte = some ⟨byte.toNat, []⟩ := by
  unfold lead?
  dsimp only
  rw [if_pos h]

theorem lead?_two (hl : 0xC2 ≤ byte.toNat) (hh : byte.toNat < 0xE0) :
    lead? byte = some ⟨byte.toNat - 0xC0, [tail]⟩ := by
  unfold lead?
  dsimp only
  rw [if_neg (by omega), if_neg (by omega), if_pos hh]

/-- The second of three bytes: what two bytes can spell and the surrogates are left out. -/
def secondOfThree (byte : UInt8) : Nat × Nat :=
  if byte.toNat = 0xE0 then (0xA0, 0xBF) else if byte.toNat = 0xED then (0x80, 0x9F) else tail

/-- The second of four bytes: what three bytes can spell and what is behind the last character is left out. -/
def secondOfFour (byte : UInt8) : Nat × Nat :=
  if byte.toNat = 0xF0 then (0x90, 0xBF) else if byte.toNat = 0xF4 then (0x80, 0x8F) else tail

theorem lead?_three (hl : 0xE0 ≤ byte.toNat) (hh : byte.toNat < 0xF0) :
    lead? byte = some ⟨byte.toNat - 0xE0, [secondOfThree byte, tail]⟩ := by
  unfold lead?
  dsimp only
  rw [if_neg (by omega), if_neg (by omega), if_neg (by omega), if_pos hh]
  rfl

theorem lead?_four (hl : 0xF0 ≤ byte.toNat) (hh : byte.toNat < 0xF5) :
    lead? byte = some ⟨byte.toNat - 0xF0, [secondOfFour byte, tail, tail]⟩ := by
  unfold lead?
  dsimp only
  rw [if_neg (by omega), if_neg (by omega), if_neg (by omega), if_neg (by omega), if_pos hh]
  rfl

/-- Other bytes start no character. -/
theorem lead?_cases {lead : Lead} (h : lead? byte = some lead) :
    byte.toNat < 0x80 ∨ (0xC2 ≤ byte.toNat ∧ byte.toNat < 0xE0) ∨
      (0xE0 ≤ byte.toNat ∧ byte.toNat < 0xF0) ∨ (0xF0 ≤ byte.toNat ∧ byte.toNat < 0xF5) := by
  unfold lead? at h
  dsimp only at h
  split at h
  · exact Or.inl (by assumption)
  split at h
  · cases h
  split at h
  · exact Or.inr (Or.inl (by omega))
  split at h
  · exact Or.inr (Or.inr (Or.inl (by omega)))
  split at h
  · exact Or.inr (Or.inr (Or.inr (by omega)))
  · cases h

theorem tail_iff {n : Nat} : tail.1 ≤ n ∧ n ≤ tail.2 ↔ 0x80 ≤ n ∧ n ≤ 0xBF := Iff.rfl

theorem secondOfThree_iff {n : Nat} : (secondOfThree byte).1 ≤ n ∧ n ≤ (secondOfThree byte).2 ↔
    0x80 ≤ n ∧ n ≤ 0xBF ∧ (byte.toNat = 0xE0 → 0xA0 ≤ n) ∧ (byte.toNat = 0xED → n ≤ 0x9F) := by
  unfold secondOfThree tail
  split
  · dsimp only
    omega
  · split
    · dsimp only
      omega
    · dsimp only
      omega

theorem secondOfFour_iff {n : Nat} : (secondOfFour byte).1 ≤ n ∧ n ≤ (secondOfFour byte).2 ↔
    0x80 ≤ n ∧ n ≤ 0xBF ∧ (byte.toNat = 0xF0 → 0x90 ≤ n) ∧ (byte.toNat = 0xF4 → n ≤ 0x8F) := by
  unfold secondOfFour tail
  split
  · dsimp only
    omega
  · split
    · dsimp only
      omega
    · dsimp only
      omega

end FirstByte

/-! ## The bytes behind the first -/

section Tail
variable {code count n : Nat} {range : Nat × Nat} {ranges : List (Nat × Nat)} {bytes rest : List UInt8}

theorem takeTail_cons {byte : UInt8} (h : range.1 ≤ byte.toNat ∧ byte.toNat ≤ range.2) :
    takeTail code count (range :: ranges) (byte :: bytes) =
      takeTail (code * 64 + (byte.toNat - 0x80)) (count + 1) ranges bytes := by
  obtain ⟨low, high⟩ := range
  rw [takeTail, if_pos h]

theorem takeTail_cons_eq_ok (h : takeTail code count (range :: ranges) bytes = .ok (n, rest)) :
    ∃ byte bytes', bytes = byte :: bytes' ∧ (range.1 ≤ byte.toNat ∧ byte.toNat ≤ range.2) ∧
      takeTail (code * 64 + (byte.toNat - 0x80)) (count + 1) ranges bytes' = .ok (n, rest) := by
  obtain ⟨low, high⟩ := range
  cases bytes with
  | nil => cases h
  | cons byte bytes =>
    rw [takeTail] at h
    split at h
    · rename_i hrange
      exact ⟨byte, bytes, rfl, hrange, h⟩
    · cases h

theorem takeTail_nil_eq_ok (h : takeTail code count [] bytes = .ok (n, rest)) : code = n ∧ bytes = rest :=
  Prod.mk.inj (Except.ok.inj h)

/-! ## Reading a character's bytes -/

/-- The bytes are read as the code point, whatever comes behind them. -/
def Spells (bytes : List UInt8) (code : Nat) : Prop :=
  ∃ byte others lead, bytes = byte :: others ∧ lead? byte = some lead ∧
    ∀ count rest, takeTail lead.bits count lead.ranges (others ++ rest) = .ok (code, rest)

variable {a b c d : UInt8}

theorem spells_one (hh : n < 0x80) (ha : a.toNat = n) : Spells [a] n :=
  ⟨a, [], _, rfl, lead?_one (by omega), fun _ _ => by rw [← ha]; rfl⟩

theorem spells_two (hl : 0x80 ≤ n) (hh : n < 0x800) (ha : a.toNat = n / 64 + 0xC0)
    (hb : b.toNat = n % 64 + 0x80) : Spells [a, b] n := by
  refine ⟨a, [b], _, rfl, lead?_two (by omega) (by omega), fun count rest => ?_⟩
  have hcode : (a.toNat - 0xC0) * 64 + (b.toNat - 0x80) = n := by omega
  dsimp only
  rw [List.cons_append, takeTail_cons (tail_iff.mpr (by omega)), hcode]
  rfl

theorem spells_three (hl : 0x800 ≤ n) (hh : n < 0x10000) (hs : n < 0xD800 ∨ 0xDFFF < n)
    (ha : a.toNat = n / 4096 + 0xE0) (hb : b.toNat = n / 64 % 64 + 0x80)
    (hc : c.toNat = n % 64 + 0x80) : Spells [a, b, c] n := by
  refine ⟨a, [b, c], _, rfl, lead?_three (by omega) (by omega), fun count rest => ?_⟩
  have hcode : ((a.toNat - 0xE0) * 64 + (b.toNat - 0x80)) * 64 + (c.toNat - 0x80) = n := by omega
  dsimp only
  rw [List.cons_append, takeTail_cons (secondOfThree_iff.mpr (by omega)), List.cons_append,
    takeTail_cons (tail_iff.mpr (by omega)), hcode]
  rfl

theorem spells_four (hl : 0x10000 ≤ n) (hh : n < 0x110000) (ha : a.toNat = n / 262144 + 0xF0)
    (hb : b.toNat = n / 4096 % 64 + 0x80) (hc : c.toNat = n / 64 % 64 + 0x80)
    (hd : d.toNat = n % 64 + 0x80) : Spells [a, b, c, d] n := by
  refine ⟨a, [b, c, d], _, rfl, lead?_four (by omega) (by omega), fun count rest => ?_⟩
  have hcode : (((a.toNat - 0xF0) * 64 + (b.toNat - 0x80)) * 64 + (c.toNat - 0x80)) * 64 +
      (d.toNat - 0x80) = n := by omega
  dsimp only
  rw [List.cons_append, takeTail_cons (secondOfFour_iff.mpr (by omega)), List.cons_append,
    takeTail_cons (tail_iff.mpr (by omega)), List.cons_append,
    takeTail_cons (tail_iff.mpr (by omega)), hcode]
  rfl

end Tail

/-! ## A character's bytes -/

section Encoding
variable {ch : Char}

theorem utf8EncodeChar_one (hh : ch.toNat < 0x80) : String.utf8EncodeChar ch = [.ofNat ch.toNat] := by
  have h : ch.val.toNat ≤ 127 := Nat.le_of_lt_succ hh
  rw [String.utf8EncodeChar.eq_1, if_pos h]
  rfl

theorem utf8EncodeChar_two (hl : 0x80 ≤ ch.toNat) (hh : ch.toNat < 0x800) :
    String.utf8EncodeChar ch = [.ofNat (ch.toNat / 64 + 0xC0), .ofNat (ch.toNat % 64 + 0x80)] := by
  rw [String.utf8EncodeChar.eq_1, ← Char.toNat]
  have hfirst : ch.toNat / 64 % 32 = ch.toNat / 64 := by omega
  rw [if_neg (by omega), if_pos (by omega), hfirst]

theorem utf8EncodeChar_three (hl : 0x800 ≤ ch.toNat) (hh : ch.toNat < 0x10000) :
    String.utf8EncodeChar ch = [.ofNat (ch.toNat / 4096 + 0xE0), .ofNat (ch.toNat / 64 % 64 + 0x80),
      .ofNat (ch.toNat % 64 + 0x80)] := by
  rw [String.utf8EncodeChar.eq_1, ← Char.toNat]
  have hfirst : ch.toNat / 4096 % 16 = ch.toNat / 4096 := by omega
  rw [if_neg (by omega), if_neg (by omega), if_pos (by omega), hfirst]

theorem utf8EncodeChar_four (hl : 0x10000 ≤ ch.toNat) :
    String.utf8EncodeChar ch = [.ofNat (ch.toNat / 262144 + 0xF0), .ofNat (ch.toNat / 4096 % 64 + 0x80),
      .ofNat (ch.toNat / 64 % 64 + 0x80), .ofNat (ch.toNat % 64 + 0x80)] := by
  have hvalid : ch.toNat < 55296 ∨ 57343 < ch.toNat ∧ ch.toNat < 1114112 := ch.valid
  rw [String.utf8EncodeChar.eq_1, ← Char.toNat]
  have hfirst : ch.toNat / 262144 % 8 = ch.toNat / 262144 := by omega
  rw [if_neg (by omega), if_neg (by omega), if_neg (by omega), hfirst]

theorem toNat_byte {n : Nat} (h : n < 256) : (UInt8.ofNat n).toNat = n := UInt8.toNat_ofNat_of_lt h

/-- A character's bytes are read as this character. -/
theorem spells_utf8EncodeChar (ch : Char) : Spells (String.utf8EncodeChar ch) ch.toNat := by
  have hvalid : ch.toNat < 55296 ∨ 57343 < ch.toNat ∧ ch.toNat < 1114112 := ch.valid
  by_cases h1 : ch.toNat < 0x80
  · rw [utf8EncodeChar_one h1]
    exact spells_one h1 (toNat_byte (by omega))
  by_cases h2 : ch.toNat < 0x800
  · rw [utf8EncodeChar_two (by omega) h2]
    exact spells_two (by omega) h2 (toNat_byte (by omega)) (toNat_byte (by omega))
  by_cases h3 : ch.toNat < 0x10000
  · rw [utf8EncodeChar_three (by omega) h3]
    exact spells_three (by omega) h3 (by omega) (toNat_byte (by omega)) (toNat_byte (by omega))
      (toNat_byte (by omega))
  · rw [utf8EncodeChar_four (by omega)]
    exact spells_four (by omega) (by omega) (toNat_byte (by omega)) (toNat_byte (by omega))
      (toNat_byte (by omega)) (toNat_byte (by omega))

theorem exists_char {n : Nat} (h : n.isValidChar) : ∃ ch : Char, ch.toNat = n :=
  ⟨Char.ofNatAux n h, rfl⟩

theorem ofNat_eq (byte : UInt8) {n : Nat} (h : byte.toNat = n) : UInt8.ofNat n = byte := by
  rw [← h, UInt8.ofNat_toNat]

/-- What is read behind a first byte are the other bytes of a character. -/
theorem exists_char_of_takeTail {a : UInt8} {lead : Lead} {count code : Nat} {bytes rest : List UInt8}
    (hlead : lead? a = some lead) (h : takeTail lead.bits count lead.ranges bytes = .ok (code, rest)) :
    ∃ ch : Char, ch.toNat = code ∧ a :: bytes = String.utf8EncodeChar ch ++ rest := by
  rcases lead?_cases hlead with hone | htwo | hthree | hfour
  · rw [lead?_one hone] at hlead
    have hlead := Option.some.inj hlead
    subst hlead
    dsimp only at h
    obtain ⟨hcode, rfl⟩ := takeTail_nil_eq_ok h
    have hvalid : code.isValidChar := Or.inl (by omega)
    obtain ⟨ch, hch⟩ := exists_char hvalid
    refine ⟨ch, hch, ?_⟩
    rw [utf8EncodeChar_one (by omega), ofNat_eq a (by omega)]
    rfl
  · rw [lead?_two htwo.1 htwo.2] at hlead
    have hlead := Option.some.inj hlead
    subst hlead
    dsimp only at h
    obtain ⟨b, bytes, rfl, hb, h⟩ := takeTail_cons_eq_ok h
    obtain ⟨hcode, rfl⟩ := takeTail_nil_eq_ok h
    rw [tail_iff] at hb
    have hvalid : code.isValidChar := Or.inl (by omega)
    obtain ⟨ch, hch⟩ := exists_char hvalid
    refine ⟨ch, hch, ?_⟩
    rw [utf8EncodeChar_two (by omega) (by omega), ofNat_eq a (by omega), ofNat_eq b (by omega)]
    rfl
  · rw [lead?_three hthree.1 hthree.2] at hlead
    have hlead := Option.some.inj hlead
    subst hlead
    dsimp only at h
    obtain ⟨b, bytes, rfl, hb, h⟩ := takeTail_cons_eq_ok h
    obtain ⟨c, bytes, rfl, hc, h⟩ := takeTail_cons_eq_ok h
    obtain ⟨hcode, rfl⟩ := takeTail_nil_eq_ok h
    rw [secondOfThree_iff] at hb
    rw [tail_iff] at hc
    -- The range of the second byte keeps the surrogates out.
    have hvalid : code.isValidChar := by
      show code < 55296 ∨ 57343 < code ∧ code < 1114112
      omega
    obtain ⟨ch, hch⟩ := exists_char hvalid
    refine ⟨ch, hch, ?_⟩
    rw [utf8EncodeChar_three (by omega) (by omega), ofNat_eq a (by omega), ofNat_eq b (by omega),
      ofNat_eq c (by omega)]
    rfl
  · rw [lead?_four hfour.1 hfour.2] at hlead
    have hlead := Option.some.inj hlead
    subst hlead
    dsimp only at h
    obtain ⟨b, bytes, rfl, hb, h⟩ := takeTail_cons_eq_ok h
    obtain ⟨c, bytes, rfl, hc, h⟩ := takeTail_cons_eq_ok h
    obtain ⟨d, bytes, rfl, hd, h⟩ := takeTail_cons_eq_ok h
    obtain ⟨hcode, rfl⟩ := takeTail_nil_eq_ok h
    rw [secondOfFour_iff] at hb
    rw [tail_iff] at hc hd
    have hvalid : code.isValidChar := Or.inr (by omega)
    obtain ⟨ch, hch⟩ := exists_char hvalid
    refine ⟨ch, hch, ?_⟩
    rw [utf8EncodeChar_four (by omega), ofNat_eq a (by omega), ofNat_eq b (by omega),
      ofNat_eq c (by omega), ofNat_eq d (by omega)]
    rfl

end Encoding

/-! ## Whole texts -/

theorem decodeAt_cons {byte : UInt8} {bytes : List UInt8} {lead : Lead} {code : Nat} {rest : List UInt8}
    {cs : List Char} (position : Nat) (hlead : lead? byte = some lead)
    (htail : takeTail lead.bits 1 lead.ranges bytes = .ok (code, rest))
    (hrest : decodeAt (position + 1 + lead.ranges.length) rest = .ok cs) :
    decodeAt position (byte :: bytes) = .ok (Char.ofNat code :: cs) := by
  rw [decodeAt, hlead]
  dsimp only
  split
  · rename_i he
    rw [htail] at he
    cases he
  · rename_i he
    rw [htail] at he
    cases he
    rw [hrest]

theorem decodeAt_cons_eq_ok {byte : UInt8} {bytes : List UInt8} {position : Nat} {cs : List Char}
    (h : decodeAt position (byte :: bytes) = .ok cs) :
    ∃ lead code rest position' cs', lead? byte = some lead ∧
      takeTail lead.bits 1 lead.ranges bytes = .ok (code, rest) ∧ decodeAt position' rest = .ok cs' ∧
      cs = Char.ofNat code :: cs' := by
  rw [decodeAt] at h
  split at h
  · cases h
  · rename_i lead hlead
    split at h
    · cases h
    · rename_i code rest htail
      dsimp only at h
      split at h
      · cases h
      · rename_i cs' hrest
        exact ⟨lead, code, rest, _, cs', hlead, htail, hrest, (Except.ok.inj h).symm⟩

theorem encode_cons (ch : Char) (cs : List Char) : encode (ch :: cs) = String.utf8EncodeChar ch ++ encode cs :=
  List.flatMap_cons

/-- The bytes of a text are decoded as the text. -/
theorem decodeAt_encode (cs : List Char) (position : Nat) : decodeAt position (encode cs) = .ok cs := by
  induction cs generalizing position with
  | nil =>
    show decodeAt position [] = _
    rw [decodeAt]
  | cons ch cs ih =>
    obtain ⟨byte, others, lead, hbytes, hlead, htail⟩ := spells_utf8EncodeChar ch
    rw [encode_cons, hbytes, List.cons_append, decodeAt_cons position hlead (htail 1 _) (ih _),
      Char.ofNat_toNat]

/-- What is decoded as a text are the bytes of this text. -/
theorem eq_encode_of_decodeAt {bytes : List UInt8} {position : Nat} {cs : List Char}
    (h : decodeAt position bytes = .ok cs) : bytes = encode cs := by
  induction cs generalizing bytes position with
  | nil =>
    cases bytes with
    | nil => rfl
    | cons byte bytes =>
      obtain ⟨_, _, _, _, _, -, -, -, ⟨⟩⟩ := decodeAt_cons_eq_ok h
  | cons ch cs ih =>
    cases bytes with
    | nil =>
      rw [decodeAt] at h
      cases h
    | cons byte bytes =>
      obtain ⟨lead, code, rest, position', cs', hlead, htail, hrest, hcs⟩ := decodeAt_cons_eq_ok h
      obtain ⟨rfl, rfl⟩ := List.cons.inj hcs
      obtain ⟨ch, rfl, hbytes⟩ := exists_char_of_takeTail hlead htail
      rw [hbytes, ih hrest, Char.ofNat_toNat, encode_cons]

/-- **The decoder accepts the bytes of texts, and nothing else.** -/
theorem decode_eq_ok_iff {bytes : List UInt8} {cs : List Char} : decode bytes = .ok cs ↔ bytes = encode cs := by
  constructor
  · exact eq_encode_of_decodeAt
  · rintro rfl
    exact decodeAt_encode cs 0

theorem decode_encode (cs : List Char) : decode (encode cs) = .ok cs := decode_eq_ok_iff.mpr rfl

end Intake.Utf8
