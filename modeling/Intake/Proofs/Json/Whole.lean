import Intake.Proofs.Json.Form

/-! # Trees of whole texts

A text can only be encoded when it is whole.  Laying out a tree adds no halves and escapes none, so the text of a tree
is whole just when the texts and names inside the tree are (`isWhole_render`).  The encoder takes these from the value:
what it writes for numbers, constants and bytes is made of characters.  So whether the text of a value has bytes is
said of the value alone, namely that every text in it is whole (`isWhole_of_ofValue`).
-/
namespace Intake

namespace Value

mutual

/-- Whether every text in a value is whole, the keys of its maps included. -/
def isWhole : Value → Bool
  | text t => t.isWhole
  | list xs => allWhole xs
  | tuple xs => allWhole xs
  | map entries => entriesWhole entries
  | _ => true

/-- Whether every text in several values is whole. -/
def allWhole : List Value → Bool
  | [] => true
  | x :: xs => x.isWhole && allWhole xs

/-- Whether every text in a map's entries is whole. -/
def entriesWhole : List (Value × Value) → Bool
  | [] => true
  | (k, v) :: entries => k.isWhole && v.isWhole && entriesWhole entries

end

end Value

namespace Json

mutual

/-- Whether every text and every name in a tree is whole. -/
def isWhole : Json → Bool
  | text t => t.isWhole
  | array items => allWhole items
  | object members => membersWhole members
  | _ => true

/-- Whether every text in several trees is whole. -/
def allWhole : List Json → Bool
  | [] => true
  | t :: ts => t.isWhole && allWhole ts

/-- Whether every text in an object's members is whole. -/
def membersWhole : List (Text × Json) → Bool
  | [] => true
  | (name, t) :: members => name.isWhole && t.isWhole && membersWhole members

end

/-! ## The text of a tree -/

/-- The layout puts characters only between things. -/
structure Layout.Whole (layout : Layout) : Prop where
  betweenItems : layout.betweenItems.isWhole = true
  afterName : layout.afterName.isWhole = true

theorem whole_compact : Layout.compact.Whole := ⟨rfl, rfl⟩

theorem isWhole_cons (p : Point) (t : Text) : Text.isWhole (p :: t) = (p.isChar && t.isWhole) := rfl

theorem isWhole_escape (p : Point) : (escape p).isWhole = p.isChar := by
  cases p with
  | char c => exact Text.isWhole_ofChars _
  | half h => rfl

theorem isWhole_quote (t : Text) : (quote t).isWhole = t.isWhole := by
  have hescaped : Text.isWhole (t.flatMap escape) = t.isWhole := by
    induction t with
    | nil => rfl
    | cons p t ih => rw [List.flatMap_cons, Text.isWhole_append, isWhole_escape, ih, isWhole_cons]
  rw [quote, isWhole_cons, Text.isWhole_append, hescaped]
  exact Bool.and_true _

variable {layout : Layout}

mutual

/-- **The text of a tree is whole just when the texts in the tree are.** -/
theorem isWhole_render (hl : layout.Whole) : ∀ t : Json, (t.render layout).isWhole = t.isWhole
  | null => rfl
  | bool b => Text.isWhole_ofChars _
  | number token => Text.isWhole_ofChars _
  | text t => isWhole_quote t
  | array items => by
      rw [render, isWhole_cons, Text.isWhole_append, isWhole_renderItems hl items]
      exact Bool.and_true _
  | object members => by
      rw [render, isWhole_cons, Text.isWhole_append, isWhole_renderMembers hl members]
      exact Bool.and_true _

theorem isWhole_renderItems (hl : layout.Whole) : ∀ items : List Json,
    (renderItems layout items).isWhole = allWhole items
  | [] => rfl
  | [item] => by rw [renderItems, isWhole_render hl item, allWhole, allWhole, Bool.and_true]
  | item :: next :: items => by
      rw [renderItems, Text.isWhole_append, Text.isWhole_append, isWhole_render hl item, hl.betweenItems,
        isWhole_renderItems hl (next :: items), Bool.and_true]
      · rfl
      · exact List.cons_ne_nil _ _

theorem isWhole_renderMembers (hl : layout.Whole) : ∀ members : List (Text × Json),
    (renderMembers layout members).isWhole = membersWhole members
  | [] => rfl
  | [(name, t)] => by
      rw [renderMembers, Text.isWhole_append, Text.isWhole_append, isWhole_quote, hl.afterName, isWhole_render hl t,
        membersWhole, membersWhole, Bool.and_true, Bool.and_true]
  | (name, t) :: next :: members => by
      rw [renderMembers, Text.isWhole_append, Text.isWhole_append, Text.isWhole_append, Text.isWhole_append,
        isWhole_quote, hl.afterName, isWhole_render hl t, hl.betweenItems,
        isWhole_renderMembers hl (next :: members), Bool.and_true, Bool.and_true]
      · rfl
      · exact List.cons_ne_nil _ _

end

/-! ## The tree of a value -/

/-- A name is whole just when its key is. -/
theorem isWhole_nameOfKey {k : Value} {name : Text} (h : nameOfKey k = .ok name) : name.isWhole = k.isWhole := by
  have htoken : ∀ {a : Except WriteError (List Char)}, a.map Text.ofChars = .ok name → name.isWhole = true := by
    intro a ha
    obtain ⟨cs, -, rfl⟩ := map_eq_ok ha
    exact Text.isWhole_ofChars cs
  cases k with
  | text t => rw [← Except.ok.inj h, Value.isWhole]
  | null => rw [← Except.ok.inj h]; rfl
  | bool b => rw [← Except.ok.inj h]; exact Text.isWhole_ofChars _
  | decimal d => rw [← Except.ok.inj h]; exact Text.isWhole_ofChars _
  | int n => exact htoken h
  | float x => exact htoken h
  | bytes bs => exact htoken h
  | instant => cases h
  | list => cases h
  | tuple => cases h
  | map => cases h
  | document => cases h

mutual

/-- **The tree of a value is whole just when the value is.** -/
theorem isWhole_of_ofValue : ∀ (v : Value) {t : Json}, ofValue v = .ok t → t.isWhole = v.isWhole
  | .null, _, h => by cases h; rfl
  | .bool _, _, h => by cases h; rfl
  | .text _, _, h => by cases h; rfl
  | .int _, _, h => by obtain ⟨_, -, rfl⟩ := map_eq_ok h; rfl
  | .float _, _, h => by obtain ⟨_, -, rfl⟩ := map_eq_ok h; rfl
  | .decimal _, _, h => by obtain ⟨_, -, rfl⟩ := map_eq_ok h; rfl
  | .bytes _, _, h => by
      obtain ⟨cs, -, rfl⟩ := map_eq_ok h
      exact Text.isWhole_ofChars cs
  | .list xs, _, h => by
      obtain ⟨items, hitems, rfl⟩ := map_eq_ok h
      exact isWhole_of_ofValues xs hitems
  | .tuple xs, _, h => by
      obtain ⟨items, hitems, rfl⟩ := map_eq_ok h
      exact isWhole_of_ofValues xs hitems
  | .map entries, _, h => by
      obtain ⟨members, hmembers, rfl⟩ := map_eq_ok h
      exact isWhole_of_ofEntries entries hmembers
  | .instant _, _, h => nomatch h
  | .document _, _, h => nomatch h

theorem isWhole_of_ofValues : ∀ (xs : List Value) {items : List Json}, ofValues xs = .ok items →
    allWhole items = Value.allWhole xs
  | [], _, h => by cases h; rfl
  | x :: xs, _, h => by
      obtain ⟨t, ts, ht, hts, rfl⟩ := ofValues_cons_eq_ok h
      rw [allWhole, isWhole_of_ofValue x ht, isWhole_of_ofValues xs hts, Value.allWhole]

theorem isWhole_of_ofEntries : ∀ (entries : List (Value × Value)) {members : List (Text × Json)},
    ofEntries entries = .ok members → membersWhole members = Value.entriesWhole entries
  | [], _, h => by cases h; rfl
  | (k, v) :: entries, _, h => by
      obtain ⟨name, t, rest, hname, ht, hrest, rfl⟩ := ofEntries_cons_eq_ok h
      rw [membersWhole, isWhole_nameOfKey hname, isWhole_of_ofValue v ht, isWhole_of_ofEntries entries hrest,
        Value.entriesWhole]

end

end Json

end Intake
