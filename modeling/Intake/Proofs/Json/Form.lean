import Intake.Json.Encoder
import Intake.Proofs.Json.ReadBack
import Intake.Proofs.Number.Shortest
import Intake.Proofs.Text.Utf8

/-! # Values with a JSON form

Which values can be written is said of the value alone (`Value.HasForm`): infinities, what is no number, whole
numbers with too many digits, bytes that are no text, instants and documents have no form, nor has anything that
holds one of them, or a map with a key that has no name (`Value.HasName`).  The encoder gives a tree to the values
with a form and fails on all others (`exists_ofValue_iff`).

Each such tree has a value (`exists_value_of_ofValue`), since each of its number tokens is the text of a number:
a whole number's token is the text of a decimal number with exponent zero, and a binary number's token is read as
some decimal number within bounds.  Names do not matter here; that of two members with one name only one is kept
does not stop the reader.
-/
namespace Intake

namespace Value

/-- The keys that have a name: texts, bytes of a text, and numbers and constants that can be written. -/
inductive HasName : Value → Prop where
  | null : HasName .null
  | bool (b : Bool) : HasName (.bool b)
  | int {n : Int} (h : n.natAbs < 10 ^ Numeral.maxDigits) : HasName (.int n)
  | float (negative : Bool) (m : Nat) (e : Int) (h : Binary64.Fits m e) :
      HasName (.float (.finite negative m e h))
  | decimal (d : Decimal) : HasName (.decimal d)
  | text (t : Text) : HasName (.text t)
  | bytes (cs : List Char) : HasName (.bytes (Utf8.encode cs))

/-- The values that JSON can say: constants, finite numbers that are not too long, texts and bytes of a text, and
what holds only such values under keys that have a name. -/
inductive HasForm : Value → Prop where
  | null : HasForm .null
  | bool (b : Bool) : HasForm (.bool b)
  | int {n : Int} (h : n.natAbs < 10 ^ Numeral.maxDigits) : HasForm (.int n)
  | float (negative : Bool) (m : Nat) (e : Int) (h : Binary64.Fits m e) :
      HasForm (.float (.finite negative m e h))
  | decimal (x : Scientific) (hx : x.InRange) : HasForm (.decimal (.finite x hx))
  | text (t : Text) : HasForm (.text t)
  | bytes (cs : List Char) : HasForm (.bytes (Utf8.encode cs))
  | list {xs : List Value} (h : ∀ x ∈ xs, HasForm x) : HasForm (.list xs)
  | tuple {xs : List Value} (h : ∀ x ∈ xs, HasForm x) : HasForm (.tuple xs)
  | map {entries : List (Value × Value)} (hk : ∀ e ∈ entries, HasName e.1)
      (h : ∀ e ∈ entries, HasForm e.2) : HasForm (.map entries)

end Value

namespace Json

/-! ## Tokens and names -/

/-- The digits of a whole number are those of the decimal number with exponent zero. -/
theorem text_ofInt (n : Int) : (Scientific.ofInt n).text =
    if n < 0 then '-' :: Nat.toDigits 10 n.natAbs else Nat.toDigits 10 n.natAbs := by
  have hlength : 0 < (Nat.toDigits 10 n.natAbs).length := (Scientific.ofInt n).length_digits_pos
  have hplain : (Scientific.ofInt n).exponent ≤ 0 ∧ Scientific.plainLimit ≤ (Scientific.ofInt n).adjusted := by
    refine ⟨Int.le_refl 0, ?_⟩
    show (-6 : Int) ≤ 0 + (Nat.toDigits 10 n.natAbs).length - 1
    omega
  have hunsigned : (Scientific.ofInt n).unsignedText = Nat.toDigits 10 n.natAbs := by
    rw [Scientific.unsignedText, if_pos hplain]
    exact if_pos rfl
  rw [Scientific.text, hunsigned]
  by_cases hn : n < 0
  · rw [if_pos hn]
    exact if_pos (decide_eq_true hn)
  · rw [if_neg hn]
    exact if_neg fun h => hn (of_decide_eq_true h)

theorem toList_toString (n : Int) : (toString n).toList = (Scientific.ofInt n).text := by
  rw [text_ofInt, Int.toString_eq_repr]
  cases n with
  | ofNat m =>
    have hnonneg : ¬ Int.ofNat m < 0 := Int.not_lt.mpr (Int.natCast_nonneg m)
    rw [if_neg hnonneg]
    exact String.toList_ofList
  | negSucc m =>
    rw [if_pos (Int.negSucc_lt_zero m)]
    show ("-" ++ String.ofList (Nat.toDigits 10 (m + 1))).toList = _
    rw [String.toList_append, String.toList_ofList (l := Nat.toDigits 10 (m + 1))]
    rfl

theorem inRange_ofInt {n : Int} (h : n.natAbs < 10 ^ Numeral.maxDigits) : (Scientific.ofInt n).InRange := by
  have hlength := length_toDigits_le h
  have hmax : Numeral.maxDigits = 4300 := rfl
  refine ⟨(by decide : Scientific.minExponent ≤ 0), ?_⟩
  show 0 + ((Nat.toDigits 10 n.natAbs).length : Int) - 1 ≤ 999999999999999999
  omega

/-- A whole number that is not too long is written as the decimal number with exponent zero. -/
theorem ofInt?_eq_some_iff {n : Int} {token : List Char} : Numeral.ofInt? n = some token ↔
    n.natAbs < 10 ^ Numeral.maxDigits ∧ token = (Scientific.ofInt n).text := by
  rw [← Nat.length_toDigits_le_iff (by decide) (by decide), Numeral.ofInt?, toList_toString]
  split
  · rename_i hlength
    exact ⟨fun h => ⟨hlength, (Option.some.inj h).symm⟩, fun h => congrArg some h.2.symm⟩
  · rename_i hlength
    exact ⟨nofun, fun h => absurd h.1 hlength⟩

/-- Whatever is said of the others, these are the whole numbers that are written. -/
theorem written_eq_ok_iff {ε : Type} {long : ε} {n : Int} {token : List Char} :
    Numeral.written long n = .ok token ↔
      n.natAbs < 10 ^ Numeral.maxDigits ∧ token = (Scientific.ofInt n).text := by
  rw [← ofInt?_eq_some_iff, Numeral.written]
  cases Numeral.ofInt? n with
  | none => exact ⟨nofun, nofun⟩
  | some token' => exact ⟨fun h => congrArg some (Except.ok.inj h), fun h => congrArg Except.ok (Option.some.inj h)⟩

theorem floatToken_eq_ok_iff {x : Binary64} {token : List Char} : floatToken x = .ok token ↔
    ∃ negative m e h, x = .finite negative m e h ∧ token = x.text := by
  cases x with
  | finite negative m e h =>
    constructor
    · intro htoken
      exact ⟨negative, m, e, h, rfl, (Except.ok.inj htoken).symm⟩
    · rintro ⟨_, _, _, _, -, rfl⟩
      rfl
  | nan =>
    refine ⟨nofun, ?_⟩
    rintro ⟨_, _, _, _, hx, -⟩
    cases hx
  | infinity =>
    refine ⟨nofun, ?_⟩
    rintro ⟨_, _, _, _, hx, -⟩
    cases hx

theorem textOfBytes_eq_ok_iff {bs : List UInt8} {cs : List Char} :
    textOfBytes bs = .ok cs ↔ bs = Utf8.encode cs := by
  rw [← Utf8.decode_eq_ok_iff, textOfBytes]
  cases Utf8.decode bs with
  | error flaw => exact ⟨nofun, nofun⟩
  | ok cs' =>
    exact ⟨fun h => congrArg Except.ok (Except.ok.inj h), fun h => congrArg Except.ok (Except.ok.inj h)⟩

/-- The keys with a name are those that the encoder can name. -/
theorem exists_nameOfKey_iff {k : Value} : (∃ name, nameOfKey k = .ok name) ↔ k.HasName := by
  constructor
  · rintro ⟨name, h⟩
    cases k with
    | null => exact .null
    | bool b => exact .bool b
    | int n =>
      obtain ⟨token, htoken, -⟩ := map_eq_ok h
      exact .int (written_eq_ok_iff.mp htoken).1
    | float x =>
      obtain ⟨token, htoken, -⟩ := map_eq_ok h
      obtain ⟨negative, m, e, hfits, rfl, -⟩ := floatToken_eq_ok_iff.mp htoken
      exact .float negative m e hfits
    | decimal d => exact .decimal d
    | text s => exact .text s
    | bytes bs =>
      obtain ⟨cs, hcs, -⟩ := map_eq_ok h
      rw [textOfBytes_eq_ok_iff.mp hcs]
      exact .bytes cs
    | instant => cases h
    | list => cases h
    | tuple => cases h
    | map => cases h
    | document => cases h
  · intro h
    cases h with
    | null => exact ⟨_, rfl⟩
    | bool => exact ⟨_, rfl⟩
    | int h => exact ⟨_, congrArg (Except.map Text.ofChars) (written_eq_ok_iff.mpr ⟨h, rfl⟩)⟩
    | float => exact ⟨_, rfl⟩
    | decimal => exact ⟨_, rfl⟩
    | text => exact ⟨_, rfl⟩
    | bytes cs => exact ⟨.ofChars cs, congrArg (Except.map Text.ofChars) (textOfBytes_eq_ok_iff.mpr rfl)⟩

/-! ## What has a tree has a form -/

theorem ofValues_cons_eq_ok {x : Value} {xs : List Value} {items : List Json}
    (h : ofValues (x :: xs) = .ok items) :
    ∃ t ts, ofValue x = .ok t ∧ ofValues xs = .ok ts ∧ items = t :: ts := by
  rw [ofValues] at h
  split at h
  · cases h
  · rename_i t ht
    obtain ⟨ts, hts, rfl⟩ := map_eq_ok h
    exact ⟨t, ts, ht, hts, rfl⟩

theorem ofEntries_cons_eq_ok {k v : Value} {entries : List (Value × Value)}
    {members : List (Text × Json)} (h : ofEntries ((k, v) :: entries) = .ok members) :
    ∃ name t rest, nameOfKey k = .ok name ∧ ofValue v = .ok t ∧ ofEntries entries = .ok rest ∧
      members = (name, t) :: rest := by
  rw [ofEntries] at h
  split at h
  · cases h
  · rename_i name hname
    split at h
    · cases h
    · rename_i t ht
      obtain ⟨rest, hrest, rfl⟩ := map_eq_ok h
      exact ⟨name, t, rest, hname, ht, hrest, rfl⟩

mutual

theorem hasForm_of_ofValue : ∀ (v : Value) {t : Json}, ofValue v = .ok t → v.HasForm
  | .null, _, _ => .null
  | .bool b, _, _ => .bool b
  | .int n, t, h => by
      obtain ⟨token, htoken, -⟩ := map_eq_ok h
      exact .int (written_eq_ok_iff.mp htoken).1
  | .float x, t, h => by
      obtain ⟨token, htoken, -⟩ := map_eq_ok h
      obtain ⟨negative, m, e, hfits, rfl, -⟩ := floatToken_eq_ok_iff.mp htoken
      exact .float negative m e hfits
  | .decimal (.finite x hx), _, _ => .decimal x hx
  | .decimal (.infinity _), _, h => nomatch h
  | .decimal (.nan ..), _, h => nomatch h
  | .text s, _, _ => .text s
  | .bytes bs, t, h => by
      obtain ⟨cs, hcs, -⟩ := map_eq_ok h
      rw [textOfBytes_eq_ok_iff.mp hcs]
      exact .bytes cs
  | .instant _, _, h => nomatch h
  | .list xs, t, h => by
      obtain ⟨items, hitems, -⟩ := map_eq_ok h
      exact .list (hasForm_of_ofValues xs hitems)
  | .tuple xs, t, h => by
      obtain ⟨items, hitems, -⟩ := map_eq_ok h
      exact .tuple (hasForm_of_ofValues xs hitems)
  | .map entries, t, h => by
      obtain ⟨members, hmembers, -⟩ := map_eq_ok h
      have hentries := hasForm_of_ofEntries entries hmembers
      exact .map (fun e he => (hentries e he).1) (fun e he => (hentries e he).2)
  | .document _, _, h => nomatch h

theorem hasForm_of_ofValues : ∀ (xs : List Value) {items : List Json}, ofValues xs = .ok items →
    ∀ x ∈ xs, x.HasForm
  | [], _, _ => List.forall_mem_nil _
  | x :: xs, items, h => by
      obtain ⟨t, ts, ht, hts, -⟩ := ofValues_cons_eq_ok h
      exact List.forall_mem_cons.mpr ⟨hasForm_of_ofValue x ht, hasForm_of_ofValues xs hts⟩

theorem hasForm_of_ofEntries : ∀ (entries : List (Value × Value)) {members : List (Text × Json)},
    ofEntries entries = .ok members → ∀ e ∈ entries, e.1.HasName ∧ e.2.HasForm
  | [], _, _ => List.forall_mem_nil _
  | (k, v) :: entries, members, h => by
      obtain ⟨name, t, rest, hname, ht, hrest, -⟩ := ofEntries_cons_eq_ok h
      have hfirst : k.HasName ∧ v.HasForm := ⟨exists_nameOfKey_iff.mp ⟨name, hname⟩, hasForm_of_ofValue v ht⟩
      exact List.forall_mem_cons.mpr ⟨hfirst, hasForm_of_ofEntries entries hrest⟩

end

/-! ## What has a form has a tree, and the tree a value -/

/-- The value has a tree, and the tree has a value. -/
def Readable (v : Value) : Prop := ∃ t w, ofValue v = .ok t ∧ t.value? = some w

theorem readable_number {v : Value} {token : List Char} {n : Numeral} {d : Decimal}
    (hv : ofValue v = .ok (.number token)) (hn : Numeral.scan? token = some (n, []))
    (hd : Decimal.ofNumeral? n = some d) : Readable v :=
  ⟨.number token, .decimal d, hv, numberValue?_of_scan? hn hd⟩

theorem exists_items {xs : List Value} (h : ∀ x ∈ xs, Readable x) :
    ∃ items ws, ofValues xs = .ok items ∧ values? items = some ws := by
  induction xs with
  | nil => exact ⟨[], [], rfl, rfl⟩
  | cons x xs ih =>
    obtain ⟨⟨t, w, ht, hw⟩, hrest⟩ := List.forall_mem_cons.mp h
    obtain ⟨items, ws, hitems, hws⟩ := ih hrest
    refine ⟨t :: items, w :: ws, ?_, ?_⟩
    · rw [ofValues, ht]
      dsimp only
      rw [hitems]
      rfl
    · rw [values?, hw, hws]
      rfl

theorem exists_members {entries : List (Value × Value)} (hk : ∀ e ∈ entries, e.1.HasName)
    (h : ∀ e ∈ entries, Readable e.2) : ∃ members, ofEntries entries = .ok members ∧
      ∀ done, ∃ ws, membersAfter? done members = some ws := by
  -- What is read before a member varies: wherever the member goes, there is a value.
  induction entries with
  | nil => exact ⟨[], rfl, fun done => ⟨done, rfl⟩⟩
  | cons e entries ih =>
    obtain ⟨k, v⟩ := e
    obtain ⟨hname, hnames⟩ := List.forall_mem_cons.mp hk
    obtain ⟨⟨t, w, ht, hw⟩, hrest⟩ := List.forall_mem_cons.mp h
    obtain ⟨name, hname⟩ := exists_nameOfKey_iff.mpr hname
    obtain ⟨members, hmembers, hws⟩ := ih hnames hrest
    refine ⟨(name, t) :: members, ?_, fun done => ?_⟩
    · rw [ofEntries, hname]
      dsimp only
      rw [ht]
      dsimp only
      rw [hmembers]
      rfl
    · rw [membersAfter?, hw]
      exact hws _

end Json

/-- A value with a form has a tree, and the tree has a value. -/
theorem Value.HasForm.readable {v : Value} (h : v.HasForm) : Json.Readable v := by
  induction h with
  | null => exact ⟨.null, .null, rfl, rfl⟩
  | bool b => exact ⟨.bool b, .bool b, rfl, rfl⟩
  | @int n h =>
    obtain ⟨numeral, hn, hvalue⟩ := (Scientific.ofInt n).scan?_text
    have htoken : Numeral.written Json.WriteError.integerTooLong n = .ok (Scientific.ofInt n).text :=
      Json.written_eq_ok_iff.mpr ⟨h, rfl⟩
    refine Json.readable_number ?_ hn ((Json.inRange_ofInt h).ofNumeral? hvalue)
    rw [Json.ofValue, htoken]
    rfl
  | float negative m e h =>
    obtain ⟨n, d, hn, hd⟩ := Binary64.exists_decimal_of_text negative m e h
    exact Json.readable_number rfl hn hd
  | decimal x hx =>
    obtain ⟨n, hn, hvalue⟩ := x.scan?_text
    exact Json.readable_number rfl hn (hx.ofNumeral? hvalue)
  | text t => exact ⟨.text t, _, rfl, rfl⟩
  | bytes cs =>
    refine ⟨.text (.ofChars cs), .text (.ofChars cs), ?_, rfl⟩
    rw [Json.ofValue, Json.textOfBytes_eq_ok_iff.mpr rfl]
    rfl
  | list _ ih =>
    obtain ⟨items, ws, hitems, hws⟩ := Json.exists_items ih
    refine ⟨.array items, .list ws, ?_, ?_⟩
    · rw [Json.ofValue, hitems]
      rfl
    · rw [Json.value?, hws]
      rfl
  | tuple _ ih =>
    obtain ⟨items, ws, hitems, hws⟩ := Json.exists_items ih
    refine ⟨.array items, .list ws, ?_, ?_⟩
    · rw [Json.ofValue, hitems]
      rfl
    · rw [Json.value?, hws]
      rfl
  | map hk _ ih =>
    obtain ⟨members, hmembers, hws⟩ := Json.exists_members hk ih
    obtain ⟨ws, hws⟩ := hws []
    refine ⟨.object members, .map ws, ?_, ?_⟩
    · rw [Json.ofValue, hmembers]
      rfl
    · rw [Json.value?, hws]
      rfl

/-- **The encoder has a tree for a value with a form, and for no other.** -/
theorem Json.exists_ofValue_iff {v : Value} : (∃ t, Json.ofValue v = .ok t) ↔ v.HasForm := by
  constructor
  · rintro ⟨t, ht⟩
    exact Json.hasForm_of_ofValue v ht
  · intro h
    obtain ⟨t, w, ht, -⟩ := h.readable
    exact ⟨t, ht⟩

end Intake
