import Intake.Proofs.Json.Parse

/-! # A tree on one line

The text of a tree has no control characters other than those of its layout, so in a layout without any it is one
line, and no text or name inside the tree can end it (`noControl_render`).  Control characters of texts and names are
escaped (`noControl_quote`), and the token of a number has none (`IsToken.noControl`).
-/
namespace Intake.Json

/-- There is no control character in the text, and so no end of a line. -/
def NoControl (t : Text) : Prop := ∀ p ∈ t, 0x20 ≤ p.code

theorem noControl_nil : NoControl [] := List.forall_mem_nil _

theorem noControl_of_all {t : Text} (h : t.all (fun p => decide (0x20 ≤ p.code)) = true) : NoControl t :=
  fun p hp => of_decide_eq_true (List.all_eq_true.mp h p hp)

theorem noControl_ofChars {cs : List Char} (h : ∀ c ∈ cs, 0x20 ≤ c.toNat) : NoControl (.ofChars cs) :=
  List.forall_mem_map.mpr h

theorem noControl_cons {p : Point} {t : Text} (hp : 0x20 ≤ p.code) (h : NoControl t) : NoControl (p :: t) :=
  List.forall_mem_cons.mpr ⟨hp, h⟩

theorem NoControl.append {s t : Text} (h : NoControl s) (h' : NoControl t) : NoControl (s ++ t) :=
  List.forall_mem_append.mpr ⟨h, h'⟩

theorem noControl_intercalate {separator : Text} (hs : NoControl separator) {texts : List Text}
    (h : ∀ t ∈ texts, NoControl t) : NoControl (separator.intercalate texts) := by
  induction texts with
  | nil => exact noControl_nil
  | cons t texts ih =>
    obtain ⟨ht, htexts⟩ := List.forall_mem_cons.mp h
    cases texts with
    | nil => rwa [List.intercalate_singleton]
    | cons s texts =>
      rw [List.intercalate_cons_cons]
      exact (ht.append hs).append (ih htexts)

/-! ## Tokens -/

theorem le_toNat_of_isDigit {c : Char} (h : c.isDigit = true) : 0x20 ≤ c.toNat :=
  Nat.le_trans (by decide) (Char.isDigit_iff_toNat.mp h).1

theorem noControl_of_digits {ds : List Char} (h : Numeral.Digits ds) : NoControl (.ofChars ds) :=
  noControl_ofChars fun c hc => le_toNat_of_isDigit (h c hc)

theorem noControl_of_powerForm {mark : List Char} {power : Int} (h : Numeral.PowerForm mark power) :
    NoControl (.ofChars mark) := by
  have hletter : ∀ {c : Char}, c = 'e' ∨ c = 'E' → 0x20 ≤ c.toNat := by
    rintro c (rfl | rfl)
    · decide
    · decide
  cases h with
  | absent => exact noControl_nil
  | bare hm hd => exact noControl_cons (hletter hm) (noControl_of_digits hd)
  | plus hm hd => exact noControl_cons (hletter hm) (noControl_cons (by decide) (noControl_of_digits hd))
  | minus hm hd => exact noControl_cons (hletter hm) (noControl_cons (by decide) (noControl_of_digits hd))

theorem noControl_pointText {fraction : List Char} (h : Numeral.Digits fraction) :
    NoControl (.ofChars (Numeral.pointText fraction)) := by
  by_cases hne : fraction = []
  · rw [hne]
    exact noControl_nil
  · rw [Numeral.pointText_of_ne_nil hne]
    exact noControl_cons (by decide) (noControl_of_digits h)

theorem IsToken.noControl {token : List Char} (h : IsToken token) : NoControl (.ofChars token) := by
  cases h with
  | notFinite h =>
    simp only [notFiniteNames, List.mem_cons, List.not_mem_nil, or_false] at h
    rcases h with rfl | rfl | rfl
    · exact noControl_of_all (by decide)
    · exact noControl_of_all (by decide)
    · exact noControl_of_all (by decide)
  | numeral h =>
    obtain ⟨negative, hw, hf, hm⟩ := h
    have hsign : NoControl (.ofChars (Numeral.signText negative)) := by
      cases negative with
      | true => exact noControl_cons (by decide) noControl_nil
      | false => exact noControl_nil
    simp only [Text.ofChars_append]
    exact hsign.append ((noControl_of_digits hw.digits).append
      ((noControl_pointText hf).append (noControl_of_powerForm hm)))

/-! ## Quoted text -/

/-- No escape is written with a control character. -/
theorem le_toNat_of_shortEscape? {e c : Char} (h : shortEscape? e = some c) : 0x20 ≤ e.toNat := by
  refine Nat.le_of_not_lt fun he => ?_
  have hnone : ∀ n < 0x20, shortEscape? (Char.ofNat n) = none := by decide
  have hshort := hnone e.toNat he
  rw [Char.ofNat_toNat, h] at hshort
  cases hshort

theorem noControl_escapeChar (c : Char) : NoControl (.ofChars (escapeChar c)) := by
  rcases escapeChar_cases c with ⟨e, hescape, -, he⟩ | ⟨hc, hescape⟩ | ⟨-, -, hc, hescape⟩
  · rw [hescape]
    exact noControl_cons (by decide) (noControl_cons (le_toNat_of_shortEscape? he) noControl_nil)
  · have hdigits : ∀ n < 0x20, (Text.ofChars (Utf8.hexText 4 n)).all (fun p => decide (0x20 ≤ p.code)) = true := by
      decide
    rw [hescape]
    exact noControl_cons (by decide) (noControl_cons (by decide) (noControl_of_all (hdigits c.toNat hc)))
  · rw [hescape]
    exact noControl_cons (Nat.le_of_not_lt hc) noControl_nil

theorem noControl_escape (p : Point) : NoControl (escape p) := by
  cases p with
  | char c => exact noControl_escapeChar c
  | half h => exact noControl_cons (Nat.le_trans (by decide) h.isHalf.1) noControl_nil

theorem noControl_quote (t : Text) : NoControl (quote t) := by
  have hescaped : NoControl (t.flatMap escape) := by
    intro p hp
    obtain ⟨q, -, hmem⟩ := List.mem_flatMap.mp hp
    exact noControl_escape q p hmem
  exact noControl_cons (by decide) (hescaped.append (noControl_cons (by decide) noControl_nil))

/-! ## Trees -/

/-- The layout puts no control characters between things. -/
structure Layout.OnOneLine (layout : Layout) : Prop where
  betweenItems : NoControl layout.betweenItems
  afterName : NoControl layout.afterName

theorem onOneLine_spaced : Layout.spaced.OnOneLine :=
  ⟨noControl_of_all (by decide), noControl_of_all (by decide)⟩

/-- **Whatever the texts and names in it hold, the text of a tree has no control character** that is not one of
the layout. -/
theorem noControl_render {layout : Layout} (hl : layout.OnOneLine) {t : Json} (h : t.Legible) :
    NoControl (t.render layout) := by
  induction h with
  | null => exact noControl_of_all rfl
  | bool b =>
    cases b with
    | true => exact noControl_of_all rfl
    | false => exact noControl_of_all rfl
  | number h => exact h.noControl
  | text s => exact noControl_quote s
  | @array items h ih =>
    rw [render, renderItems_eq]
    have hitems : NoControl (layout.betweenItems.intercalate (items.map (render layout))) :=
      noControl_intercalate hl.betweenItems (List.forall_mem_map.mpr ih)
    exact noControl_cons (by decide) (hitems.append (noControl_cons (by decide) noControl_nil))
  | @object members h ih =>
    rw [render, renderMembers_eq]
    have hmember : ∀ m ∈ members, NoControl (renderMember layout m) := fun m hm =>
      ((noControl_quote m.1).append hl.afterName).append (ih m hm)
    have hmembers : NoControl (layout.betweenItems.intercalate (members.map (renderMember layout))) :=
      noControl_intercalate hl.betweenItems (List.forall_mem_map.mpr hmember)
    exact noControl_cons (by decide) (hmembers.append (noControl_cons (by decide) noControl_nil))

end Intake.Json
