import Intake.Proofs.Json.ReadBack
import Intake.Proofs.Number.Notation

/-! # The tree of a text

The reader of wire texts goes straight to values.  This one returns the tree (`parse`): tokens of numbers as they stand,
and all members of an object in their order, also those with a name that was there before.  It takes the names of the
numbers that are not finite, too, which a log may have and the wire may not.

A tree can be written and read if each token in it is a numeral or such a name (`Legible`).  Its text is read as this
very tree, in any layout with nothing but blanks behind commas and colons (`parse_render`).  Items and members are read
by one loop, so there is one induction for both (`takeList_intercalate`); it needs no more of an element than that it is
read in front of whatever ends a number.
-/
namespace Intake.Json

/-- Reads something off the front of a text, and returns the text after it. -/
abbrev Reads (α : Type) := Text → Option (α × Text)

/-! ## The reader -/

/-- The names of the numbers that are not finite. -/
def notFiniteNames : List (List Char) := ["NaN".toList, "Infinity".toList, "-Infinity".toList]

/-- Reads the token of a number. -/
def takeToken : Reads (List Char) := fun t =>
  let (cs, after) := t.leading
  match Numeral.scan? cs with
  | some (_, rest) => some (cs.take (cs.length - rest.length), .ofChars rest ++ after)
  | none =>
    (notFiniteNames.find? fun name => name.isPrefixOf cs).map fun name => (name, .ofChars (cs.drop name.length) ++ after)

/-- Reads what has neither brackets nor quotation marks. -/
def takeLeaf : Reads Json
  | 'n' :: 'u' :: 'l' :: 'l' :: rest => some (null, rest)
  | 't' :: 'r' :: 'u' :: 'e' :: rest => some (bool true, rest)
  | 'f' :: 'a' :: 'l' :: 's' :: 'e' :: rest => some (bool false, rest)
  | t => (takeToken t).map fun (token, rest) => (number token, rest)

/-- Reads a text in quotation marks. -/
def takeQuoted : Reads Text
  | '"' :: rest => (takeString [] none rest).toOption
  | _ => none

/-- Reads elements with commas between them, of which there is at least one, and the closing character.  Every element
takes a turn, so there are not more than the text has characters. -/
def takeList {α : Type} (take : Reads α) (closing : Char) : Nat → Reads (List α)
  | 0, _ => none
  | fuel + 1, t =>
    match take t with
    | none => none
    | some (a, rest) =>
      match skipBlanks rest with
      | [] => none
      | p :: rest =>
        if p = closing then some ([a], rest)
        else if p = ',' then
          (takeList take closing fuel (skipBlanks rest)).map fun (elements, rest) => (a :: elements, rest)
        else none

/-- Reads the elements after an opening character, of which there may be none, and the closing one. -/
def takeElements {α : Type} (take : Reads α) (closing : Char) : Reads (List α) := fun t =>
  match skipBlanks t with
  | [] => none
  | p :: rest => if p = closing then some ([], rest) else takeList take closing t.length (p :: rest)

/-- Reads a member of an object. -/
def takeMember (take : Reads Json) : Reads (Text × Json) := fun t =>
  match takeQuoted t with
  | none => none
  | some (name, rest) =>
    match skipBlanks rest with
    | ':' :: rest => (take (skipBlanks rest)).map fun (value, rest) => ((name, value), rest)
    | _ => none

/-- Reads a tree.  Its parts are read with less fuel, so the length of the text is enough. -/
def takeTree : Nat → Reads Json
  | 0, _ => none
  | _ + 1, '"' :: rest => (takeQuoted ('"' :: rest)).map fun (t, rest) => (text t, rest)
  | fuel + 1, '[' :: rest =>
    (takeElements (takeTree fuel) ']' rest).map fun (items, rest) => (array items, rest)
  | fuel + 1, '\x7b' :: rest =>
    (takeElements (takeMember (takeTree fuel)) '\x7d' rest).map fun (members, rest) => (object members, rest)
  | _ + 1, t => takeLeaf t

/-- Reads a text that is one tree, with blanks around it. -/
def parse (t : Text) : Option Json :=
  match takeTree (t.length + 1) (skipBlanks t) with
  | some (tree, rest) => if (skipBlanks rest).isEmpty then some tree else none
  | none => none

/-! ## Trees that can be read -/

/-- What is written for a number: a numeral, or the name of a number that is not finite. -/
inductive IsToken : List Char → Prop where
  | numeral {token : List Char} {n : Numeral} (h : Numeral.StrictForm token n) : IsToken token
  | notFinite {token : List Char} (h : token ∈ notFiniteNames) : IsToken token

/-- Every number in the tree has a token. -/
inductive Legible : Json → Prop where
  | null : Legible null
  | bool (b : Bool) : Legible (bool b)
  | number {token : List Char} (h : IsToken token) : Legible (number token)
  | text (t : Text) : Legible (text t)
  | array {items : List Json} (h : ∀ t ∈ items, Legible t) : Legible (array items)
  | object {members : List (Text × Json)} (h : ∀ m ∈ members, Legible m.2) : Legible (object members)

/-! ## Layouts -/

theorem renderItems_eq (layout : Layout) (items : List Json) :
    renderItems layout items = layout.betweenItems.intercalate (items.map (render layout)) := by
  induction items with
  | nil => rfl
  | cons item items ih =>
    cases items with
    | nil => rw [List.map_singleton, List.intercalate_singleton, renderItems]
    | cons next items =>
      rw [renderItems_cons_cons, ih]
      exact List.intercalate_cons_cons.symm

/-- The text of a member. -/
def renderMember (layout : Layout) (member : Text × Json) : Text :=
  quote member.1 ++ layout.afterName ++ render layout member.2

theorem renderMembers_eq (layout : Layout) (members : List (Text × Json)) :
    renderMembers layout members = layout.betweenItems.intercalate (members.map (renderMember layout)) := by
  induction members with
  | nil => rfl
  | cons member members ih =>
    cases members with
    | nil => rw [List.map_singleton, List.intercalate_singleton, renderMembers, renderMember]
    | cons next members =>
      rw [renderMembers_cons_cons, ih]
      exact List.intercalate_cons_cons.symm

theorem readable_spaced : Layout.spaced.Readable :=
  ⟨⟨[.char ' '], rfl, List.forall_mem_singleton.mpr rfl⟩, ⟨[.char ' '], rfl, List.forall_mem_singleton.mpr rfl⟩⟩

/-! ## Tokens are read back -/

theorem takeToken_append {token : List Char} {rest : Text} (h : IsToken token) (hr : Ends rest) :
    takeToken (.ofChars token ++ rest) = some (token, rest) := by
  rw [takeToken, Text.leading_ofChars_append]
  dsimp only
  cases h with
  | numeral h =>
    rw [Numeral.scan?_append hr h.scan?]
    simp [Text.leading_eq]
  | notFinite h =>
    have hrest : ∀ name : List Char, (name, Text.ofChars rest.leading.1 ++ rest.leading.2) = (name, rest) :=
      fun name => congrArg (Prod.mk name) (Text.leading_eq rest)
    simp only [notFiniteNames, List.mem_cons, List.not_mem_nil, or_false] at h
    rcases h with rfl | rfl | rfl <;> exact congrArg some (hrest _)

theorem IsToken.start {token : List Char} (h : IsToken token) : ∃ c rest, token = c :: rest ∧
    (c = '-' ∨ c.isDigit = true ∨ c = 'N' ∨ c = 'I') := by
  cases h with
  | numeral h =>
    obtain ⟨c, rest, rfl, hc | hc⟩ := start_of_scan? h.scan?
    · exact ⟨c, rest, rfl, Or.inl hc⟩
    · exact ⟨c, rest, rfl, Or.inr (Or.inl hc)⟩
  | notFinite h =>
    simp only [notFiniteNames, List.mem_cons, List.not_mem_nil, or_false] at h
    rcases h with rfl | rfl | rfl
    · exact ⟨'N', _, rfl, by decide⟩
    · exact ⟨'I', _, rfl, by decide⟩
    · exact ⟨'-', _, rfl, by decide⟩

/-- What a token does not start with: blanks, and what something else starts or ends with. -/
def otherStarts : List Char := [' ', '\t', '\n', '\r', '"', '[', ']', '\x7b', '\x7d', 'n', 't', 'f']

theorem IsToken.start_not_mem {c : Char} {rest : List Char} (h : IsToken (c :: rest)) : c ∉ otherStarts := by
  obtain ⟨c, rest, hcons, hc⟩ := h.start
  obtain ⟨rfl, rfl⟩ := List.cons.inj hcons
  intro hmem
  have hother : ∀ d ∈ otherStarts, d ≠ '-' ∧ d.isDigit = false ∧ d ≠ 'N' ∧ d ≠ 'I' := by simp [otherStarts]
  obtain ⟨hminus, hdigit, hnan, hinfinity⟩ := hother c hmem
  rcases hc with hc | hc | hc | hc
  · exact hminus hc
  · rw [hdigit] at hc
    cases hc
  · exact hnan hc
  · exact hinfinity hc

/-- The text starts with a character that is neither a blank nor the closing one. -/
def Begins (closing : Char) (t : Text) : Prop :=
  ∃ (c : Char) (rest : Text), t = .char c :: rest ∧ isBlank c = false ∧ c ≠ closing

theorem Begins.append {closing : Char} {t : Text} (h : Begins closing t) (rest : Text) :
    Begins closing (t ++ rest) := by
  obtain ⟨c, t, rfl, hc⟩ := h
  exact ⟨c, t ++ rest, rfl, hc⟩

theorem Begins.skipBlanks {closing : Char} {t : Text} (h : Begins closing t) : skipBlanks t = t := by
  obtain ⟨c, t, rfl, hc, -⟩ := h
  exact skipBlanks_cons hc t

theorem Legible.begins {t : Json} (h : t.Legible) (layout : Layout) : Begins ']' (t.render layout) := by
  cases h with
  | null => exact ⟨'n', _, rfl, by decide⟩
  | bool b =>
    cases b with
    | true => exact ⟨'t', _, rfl, by decide⟩
    | false => exact ⟨'f', _, rfl, by decide⟩
  | number h =>
    obtain ⟨c, rest, rfl, -⟩ := h.start
    have hc := h.start_not_mem
    simp only [otherStarts, List.mem_cons, List.not_mem_nil, or_false, not_or] at hc
    exact ⟨c, .ofChars rest, rfl, by simp [isBlank, hc], by simp [hc]⟩
  | text s => exact ⟨'"', _, rfl, by decide⟩
  | array => exact ⟨'[', _, rfl, by decide⟩
  | object => exact ⟨'\x7b', _, rfl, by decide⟩

/-! ## Elements between commas -/

section Elements
variable {α : Type} {take : Reads α} {write : α → Text} {gap rest : Text} {closing : Char}

/-- Every element is read in front of whatever ends a number, and can be told from the closing character. -/
structure ReadBack (take : Reads α) (write : α → Text) (closing : Char) (a : α) : Prop where
  begins : Begins closing (write a)
  take_write : ∀ rest, Ends rest → take (write a ++ rest) = some (a, rest)

theorem begins_intercalate (separator : Text) {a : α} (h : Begins closing (write a)) (elements : List α) :
    Begins closing (separator.intercalate ((a :: elements).map write)) := by
  cases elements with
  | nil => rwa [List.map_singleton, List.intercalate_singleton]
  | cons b elements =>
    rw [List.map_cons, List.map_cons, List.intercalate_cons_cons, List.append_assoc]
    exact h.append _

theorem length_le_intercalate (separator : Text) (elements : List α)
    (h : ∀ a ∈ elements, Begins closing (write a)) :
    elements.length ≤ (separator.intercalate (elements.map write)).length := by
  induction elements with
  | nil => exact Nat.zero_le _
  | cons a elements ih =>
    obtain ⟨ha, helements⟩ := List.forall_mem_cons.mp h
    obtain ⟨c, cs, hwrite, -⟩ := ha
    cases elements with
    | nil => simp [hwrite]
    | cons b elements =>
      have hrest := ih helements
      rw [List.map_cons] at hrest
      simp only [List.map_cons, List.intercalate_cons_cons, hwrite, List.length_append, List.length_cons] at hrest ⊢
      omega

theorem length_write_le_intercalate (separator : Text) {a : α} {elements : List α} (h : a ∈ elements) :
    (write a).length ≤ (separator.intercalate (elements.map write)).length := by
  induction elements with
  | nil => cases h
  | cons b elements ih =>
    cases elements with
    | nil =>
      rw [List.mem_singleton.mp h]
      simp
    | cons next elements =>
      simp only [List.map_cons, List.intercalate_cons_cons, List.length_append] at ih ⊢
      rcases List.mem_cons.mp h with rfl | h
      · omega
      · have hrest := ih h
        omega

/-- Elements with commas between them are read back, up to the closing character. -/
theorem takeList_intercalate (hgap : ∀ p ∈ gap, isBlank p = true) (hclosing : closing ∈ [']', '\x7d'])
    (elements : List α) (a : α) (h : ∀ b ∈ a :: elements, ReadBack take write closing b) {fuel : Nat}
    (hfuel : (a :: elements).length ≤ fuel) :
    takeList take closing fuel ((.char ',' :: gap).intercalate ((a :: elements).map write) ++ .char closing :: rest) =
      some (a :: elements, rest) := by
  have hends : ∀ rest, Ends (.char closing :: rest) := ends_delimiter closing (List.mem_cons_of_mem _ hclosing)
  have hplain : isBlank closing = false ∧ closing ≠ ',' := by
    simp only [List.mem_cons, List.not_mem_nil, or_false] at hclosing
    rcases hclosing with rfl | rfl <;> decide
  induction elements generalizing a fuel with
  | nil =>
    obtain ⟨fuel, rfl⟩ : ∃ n, fuel = n + 1 := Nat.exists_eq_add_one_of_ne_zero (by
      rintro rfl
      simp at hfuel)
    rw [List.map_singleton, List.intercalate_singleton, takeList,
      (h a List.mem_cons_self).take_write _ (hends rest)]
    simp only [skipBlanks_cons hplain.1, if_true]
  | cons b elements ih =>
    obtain ⟨fuel, rfl⟩ : ∃ n, fuel = n + 1 := Nat.exists_eq_add_one_of_ne_zero (by
      rintro rfl
      simp at hfuel)
    obtain ⟨ha, helements⟩ := List.forall_mem_cons.mp h
    have hnext := ih b helements (Nat.le_of_succ_le_succ hfuel)
    have hbegins := (begins_intercalate (.char ',' :: gap) (h b (by simp)).begins elements).append (.char closing :: rest)
    have hcomma : Ends (.char ',' :: (gap ++ ((.char ',' :: gap).intercalate ((b :: elements).map write) ++
      .char closing :: rest))) := ends_delimiter ',' List.mem_cons_self _
    rw [List.map_cons, List.map_cons, List.intercalate_cons_cons, ← List.map_cons, List.append_assoc, List.append_assoc,
      List.cons_append, takeList, ha.take_write _ hcomma]
    dsimp only
    rw [skipBlanks_cons rfl]
    dsimp only
    rw [if_neg (fun h => hplain.2 (Point.char.inj h).symm), if_pos rfl, skipBlanks_append hgap, hbegins.skipBlanks, hnext]
    rfl

theorem takeElements_intercalate (hgap : ∀ p ∈ gap, isBlank p = true) (hclosing : closing ∈ [']', '\x7d'])
    {elements : List α} (h : ∀ a ∈ elements, ReadBack take write closing a) :
    takeElements take closing ((.char ',' :: gap).intercalate (elements.map write) ++ .char closing :: rest) =
      some (elements, rest) := by
  cases elements with
  | nil =>
    have hblank : isBlank closing = false := by
      simp only [List.mem_cons, List.not_mem_nil, or_false] at hclosing
      rcases hclosing with rfl | rfl <;> rfl
    rw [List.map_nil, List.intercalate_nil, List.nil_append, takeElements, skipBlanks_cons hblank]
    exact if_pos rfl
  | cons a elements =>
    have hfuel : (a :: elements).length ≤
        ((.char ',' :: gap).intercalate ((a :: elements).map write) ++ .char closing :: rest).length := by
      have hlength := length_le_intercalate (.char ',' :: gap) (a :: elements) fun b hb => (h b hb).begins
      rw [List.length_append]
      omega
    have hread : takeList take closing _ _ = some (a :: elements, rest) :=
      takeList_intercalate hgap hclosing elements a h hfuel
    obtain ⟨c, cs, hcons, hblank, hne⟩ :=
      (begins_intercalate (.char ',' :: gap) (h a List.mem_cons_self).begins elements).append (.char closing :: rest)
    rw [hcons] at hread ⊢
    rw [takeElements, skipBlanks_cons hblank]
    dsimp only
    rw [if_neg fun h => hne (Point.char.inj h)]
    exact hread

end Elements

/-! ## Trees are read back -/

theorem takeQuoted_quote (t rest : Text) : takeQuoted (quote t ++ rest) = some (t, rest) := by
  rw [quote, List.cons_append, List.append_assoc, takeQuoted]
  show (takeString [] none (t.flatMap escape ++ .char '"' :: rest)).toOption = _
  rw [takeString_quoted]
  rfl

theorem ReadBack.member {take : Reads Json} {layout : Layout} (hl : layout.Readable) {name : Text} {t : Json}
    (ht : ReadBack take (render layout) ']' t) :
    ReadBack (takeMember take) (renderMember layout) '\x7d' (name, t) where
  begins := ⟨'"', _, rfl, by decide⟩
  take_write rest hr := by
    obtain ⟨gap, hafter, hgap⟩ := hl.afterName
    rw [renderMember, hafter, List.append_assoc, List.append_assoc, takeMember, takeQuoted_quote]
    dsimp only
    rw [List.cons_append, skipBlanks_cons rfl]
    show (take (skipBlanks (gap ++ (render layout t ++ rest)))).map _ = _
    rw [skipBlanks_append hgap, (ht.begins.append rest).skipBlanks, ht.take_write rest hr]
    rfl

theorem takeTree_leaf {fuel : Nat} {c : Char} {cs : Text} (hq : c ≠ '"') (hb : c ≠ '[') (ho : c ≠ '\x7b') :
    takeTree (fuel + 1) (c :: cs) = takeLeaf (c :: cs) := by
  rw [takeTree]
  · rintro rest h
    exact hq (Point.char.inj (List.cons.inj h).1)
  · rintro rest h
    exact hb (Point.char.inj (List.cons.inj h).1)
  · rintro rest h
    exact ho (Point.char.inj (List.cons.inj h).1)

theorem takeTree_token {fuel : Nat} {token : List Char} {rest : Text} (h : IsToken token) (hr : Ends rest) :
    takeTree (fuel + 1) (.ofChars token ++ rest) = some (number token, rest) := by
  have htoken := takeToken_append h hr
  obtain ⟨c, cs, rfl, -⟩ := h.start
  have hc := h.start_not_mem
  simp only [otherStarts, List.mem_cons, List.not_mem_nil, or_false, not_or] at hc
  obtain ⟨-, -, -, -, hquote, hbracket, -, hbrace, -, hn, ht, hf⟩ := hc
  rw [Text.ofChars_cons, List.cons_append] at htoken ⊢
  rw [takeTree_leaf hquote hbracket hbrace, takeLeaf.eq_def]
  split
  · rename_i h
    exact absurd (Point.char.inj (List.cons.inj h).1) hn
  · rename_i h
    exact absurd (Point.char.inj (List.cons.inj h).1) ht
  · rename_i h
    exact absurd (Point.char.inj (List.cons.inj h).1) hf
  · rw [htoken]
    rfl

/-- The text of a tree is read back in front of whatever ends a number. -/
theorem takeTree_render {layout : Layout} (hl : layout.Readable) {t : Json} (h : t.Legible) {fuel : Nat}
    {rest : Text} (hfuel : (t.render layout).length < fuel) (hr : Ends rest) :
    takeTree fuel (t.render layout ++ rest) = some (t, rest) := by
  -- An item is shorter than its array, so the array's fuel but one is enough for it.
  induction h generalizing fuel rest with
  | null =>
    obtain ⟨fuel, rfl⟩ := Nat.exists_eq_add_of_lt hfuel
    rfl
  | bool b =>
    obtain ⟨fuel, rfl⟩ := Nat.exists_eq_add_of_lt hfuel
    cases b with
    | true => rfl
    | false => rfl
  | number h =>
    obtain ⟨fuel, rfl⟩ := Nat.exists_eq_add_of_lt hfuel
    exact takeTree_token h hr
  | text s =>
    obtain ⟨fuel, rfl⟩ := Nat.exists_eq_add_of_lt hfuel
    show (takeQuoted (quote s ++ rest)).map _ = _
    rw [takeQuoted_quote]
    rfl
  | @array items h ih =>
    obtain ⟨gap, hbetween, hgap⟩ := hl.betweenItems
    obtain ⟨fuel, rfl⟩ : ∃ n, fuel = n + 1 := Nat.exists_eq_add_one_of_ne_zero (by omega)
    rw [render, renderItems_eq, hbetween] at hfuel ⊢
    have hitems : ∀ t ∈ items, ReadBack (takeTree fuel) (render layout) ']' t := by
      intro t ht
      refine ⟨(h t ht).begins layout, fun rest hr => ih t ht ?_ hr⟩
      have hlength : (render layout t).length ≤ _ := length_write_le_intercalate (.char ',' :: gap) ht
      simp only [List.length_cons, List.length_append] at hfuel
      omega
    rw [List.cons_append, List.append_assoc, takeTree, List.singleton_append,
      takeElements_intercalate hgap List.mem_cons_self hitems]
    rfl
  | @object members h ih =>
    obtain ⟨gap, hbetween, hgap⟩ := hl.betweenItems
    obtain ⟨fuel, rfl⟩ : ∃ n, fuel = n + 1 := Nat.exists_eq_add_one_of_ne_zero (by omega)
    rw [render, renderMembers_eq, hbetween] at hfuel ⊢
    have hmembers : ∀ m ∈ members, ReadBack (takeMember (takeTree fuel)) (renderMember layout) '\x7d' m := by
      intro m hm
      refine ReadBack.member hl ⟨(h m hm).begins layout, fun rest hr => ih m hm ?_ hr⟩
      have hlength : (renderMember layout m).length ≤ _ := length_write_le_intercalate (.char ',' :: gap) hm
      simp only [renderMember, List.length_cons, List.length_append] at hfuel hlength
      omega
    rw [List.cons_append, List.append_assoc, takeTree, List.singleton_append,
      takeElements_intercalate hgap (List.mem_cons_of_mem _ List.mem_cons_self) hmembers]
    rfl

/-- **The text of a tree is read as this tree.** -/
theorem parse_render {layout : Layout} (hl : layout.Readable) {t : Json} (h : t.Legible) :
    parse (t.render layout) = some t := by
  have htree := takeTree_render hl h (Nat.lt_succ_self _) ends_nil
  rw [List.append_nil] at htree
  rw [parse, (h.begins layout).skipBlanks, htree]
  rfl

/-- Members with one name are both kept, and blanks do not matter. -/
example : parse "\x7b \"a\" : [1e2, NaN],\n\"a\":null \x7d" = some (.object
    [("a", .array [.number "1e2".toList, .number "NaN".toList]), ("a", .null)]) := rfl

/-- Behind a comma there is an item. -/
example : parse "[1,]" = none := rfl

end Intake.Json
