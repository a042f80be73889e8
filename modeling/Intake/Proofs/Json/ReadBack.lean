import Intake.Proofs.Json.Quote
import Intake.Proofs.Number.Scan

/-! # Written trees are read back

A tree has a value (`Json.value?`) when each of its number tokens is one numeral within bounds; of two members
with one name the later gives the value and the earlier the position, as for the reader.  The text of such a
tree is read as this value (`Json.read_render`), in any layout that puts nothing but blanks behind its commas
and colons.

The reader goes over the text with fuel.  Inside an array or an object it spends two for a level and two for
an item, and what it has is twice the length of the text, so the lengths below carry the induction
(`takeValue_render`).  An item is followed by a comma or a closing bracket, which ends a number before it
(`Numeral.Ends`), and it starts with a character that is no blank and no bracket (`Opens`).
-/
namespace Intake.Json

/-! ## The value of a tree -/

/-- The value of a number's token. -/
def numberValue? (token : List Char) : Option Value :=
  match Numeral.scan? token with
  | some (n, []) => (Decimal.ofNumeral? n).map .decimal
  | _ => none

mutual

/-- The value that a tree writes. -/
def value? : Json → Option Value
  | null => some .null
  | bool b => some (.bool b)
  | number token => numberValue? token
  | text t => some (.text t)
  | array items => (values? items).map .list
  | object members => (membersAfter? [] members).map .map

/-- The values of an array's items. -/
def values? : List Json → Option (List Value)
  | [] => some []
  | item :: items => (value? item).bind fun v => (values? items).map (v :: ·)

/-- The entries of an object's members, put after those before them. -/
def membersAfter? (done : List (Value × Value)) : List (Text × Json) → Option (List (Value × Value))
  | [] => some done
  | (name, value) :: members =>
    (value? value).bind fun v => membersAfter? (setMember name v done) members

end

theorem numberValue?_of_scan? {token : List Char} {n : Numeral} {d : Decimal}
    (hn : Numeral.scan? token = some (n, [])) (hd : Decimal.ofNumeral? n = some d) :
    numberValue? token = some (.decimal d) := by
  rw [numberValue?, hn]
  dsimp only
  rw [hd]
  rfl

theorem numberValue?_eq_some {token : List Char} {v : Value} (h : numberValue? token = some v) :
    ∃ n d, Numeral.scan? token = some (n, []) ∧ Decimal.ofNumeral? n = some d ∧ v = .decimal d := by
  unfold numberValue? at h
  split at h
  · rename_i n hn
    obtain ⟨d, hd, rfl⟩ := Option.map_eq_some_iff.mp h
    exact ⟨n, d, hn, hd, rfl⟩
  · cases h

theorem values?_cons_eq_some {item : Json} {items : List Json} {vs : List Value}
    (h : values? (item :: items) = some vs) :
    ∃ v ws, item.value? = some v ∧ values? items = some ws ∧ vs = v :: ws := by
  obtain ⟨v, hv, h⟩ := Option.bind_eq_some_iff.mp h
  obtain ⟨ws, hws, rfl⟩ := Option.map_eq_some_iff.mp h
  exact ⟨v, ws, hv, hws, rfl⟩

theorem membersAfter?_cons_eq_some {done entries : List (Value × Value)} {name : Text} {t : Json}
    {members : List (Text × Json)} (h : membersAfter? done ((name, t) :: members) = some entries) :
    ∃ v, t.value? = some v ∧ membersAfter? (setMember name v done) members = some entries :=
  Option.bind_eq_some_iff.mp h

/-! ## Blanks and first characters -/

/-- Commas and colons have nothing but blanks behind them. -/
structure Layout.Readable (layout : Layout) : Prop where
  betweenItems : ∃ gap, layout.betweenItems = .char ',' :: gap ∧ ∀ p ∈ gap, isBlank p = true
  afterName : ∃ gap, layout.afterName = .char ':' :: gap ∧ ∀ p ∈ gap, isBlank p = true

theorem readable_compact : Layout.compact.Readable :=
  ⟨⟨[], rfl, nofun⟩, ⟨[], rfl, nofun⟩⟩

/-- The text starts with an ASCII character that is neither a blank nor a closing bracket. -/
def Opens (t : Text) : Prop :=
  ∃ (c : Char) (rest : Text), t = .char c :: rest ∧ isBlank c = false ∧ c ≠ ']' ∧ c.toNat < 0x80

theorem Opens.append {t : Text} (h : Opens t) (rest : Text) : Opens (t ++ rest) := by
  obtain ⟨c, t, rfl, hc⟩ := h
  exact ⟨c, t ++ rest, rfl, hc⟩

theorem skipBlanks_append {gap : Text} (hg : ∀ p ∈ gap, isBlank p = true) (t : Text) :
    skipBlanks (gap ++ t) = skipBlanks t := List.dropWhile_append_of_pos hg

theorem skipBlanks_cons {p : Point} (hp : isBlank p = false) (t : Text) :
    skipBlanks (p :: t) = p :: t := List.dropWhile_cons_of_neg (Bool.not_eq_true _ ▸ hp)

theorem Opens.skipBlanks {t : Text} (h : Opens t) : skipBlanks t = t := by
  obtain ⟨c, t, rfl, hb, -, -⟩ := h
  exact skipBlanks_cons hb t

/-- There is no byte order mark in front of it. -/
theorem Opens.dropMark {t : Text} (h : Opens t) : dropMark t = t := by
  obtain ⟨c, t, rfl, -, -, hc⟩ := h
  rw [Json.dropMark.eq_def]
  split
  · rename_i he
    rw [Point.char.inj (List.cons.inj he).1] at hc
    exact absurd hc (by decide)
  · rename_i he
    rw [Point.char.inj (List.cons.inj he).1] at hc
    exact absurd hc (by decide)
  · rfl

/-- A number starts with a minus sign or a digit. -/
theorem start_of_scan? {cs rest : List Char} {n : Numeral} (h : Numeral.scan? cs = some (n, rest)) :
    ∃ c cs', cs = c :: cs' ∧ (c = '-' ∨ c.isDigit = true) := by
  obtain ⟨whole, after, hw⟩ := Numeral.exists_whole_of_scan? h
  cases cs with
  | nil => cases hw
  | cons c cs =>
    refine ⟨c, cs, rfl, ?_⟩
    by_cases hc : c = '-'
    · exact Or.inl hc
    · rw [Numeral.takeMinus_of_ne hc, Numeral.takeWhole?] at hw
      split at hw
      · rename_i hz
        exact Or.inr (by rw [hz]; rfl)
      · split at hw
        · rename_i hd
          exact Or.inr hd
        · cases hw

/-- A character that starts a number is none that means something else. -/
theorem ne_of_start {c d : Char} (hc : c = '-' ∨ c.isDigit = true) (hm : d ≠ '-')
    (hd : d.isDigit = false) : c ≠ d := by
  rintro rfl
  rcases hc with hc | hc
  · exact hm hc
  · rw [hd] at hc
    cases hc

theorem opens_of_scan? {cs rest : List Char} {n : Numeral} (h : Numeral.scan? cs = some (n, rest)) :
    Opens (.ofChars cs) := by
  obtain ⟨c, cs, rfl, hc⟩ := start_of_scan? h
  refine ⟨c, .ofChars cs, rfl, ?_, ne_of_start hc (by decide) (by decide), ?_⟩
  · simp only [isBlank, Bool.or_eq_false_iff, beq_eq_false_iff_ne, ne_eq, Point.char.injEq]
    exact ⟨⟨⟨ne_of_start hc (by decide) (by decide), ne_of_start hc (by decide) (by decide)⟩,
      ne_of_start hc (by decide) (by decide)⟩, ne_of_start hc (by decide) (by decide)⟩
  · rcases hc with rfl | hc
    · decide
    · have h9 := (Char.isDigit_iff_toNat.mp hc).2
      have : '9'.toNat = 57 := rfl
      omega

theorem opens_render (layout : Layout) {t : Json} {v : Value} (h : t.value? = some v) :
    Opens (t.render layout) := by
  cases t with
  | null => exact ⟨'n', _, rfl, rfl, by decide, by decide⟩
  | bool b =>
    cases b with
    | true => exact ⟨'t', _, rfl, rfl, by decide, by decide⟩
    | false => exact ⟨'f', _, rfl, rfl, by decide, by decide⟩
  | number token =>
    obtain ⟨n, d, hn, -⟩ := numberValue?_eq_some h
    exact opens_of_scan? hn
  | text s => exact ⟨'"', _, rfl, rfl, by decide, by decide⟩
  | array items => exact ⟨'[', _, rfl, rfl, by decide, by decide⟩
  | object members => exact ⟨'\x7b', _, rfl, rfl, by decide, by decide⟩

theorem renderItems_cons_cons (layout : Layout) (item next : Json) (items : List Json) :
    renderItems layout (item :: next :: items) =
      render layout item ++ layout.betweenItems ++ renderItems layout (next :: items) := by
  rw [renderItems]
  exact nofun

theorem renderMembers_cons_cons (layout : Layout) (name : Text) (t : Json) (next : Text × Json)
    (members : List (Text × Json)) :
    renderMembers layout ((name, t) :: next :: members) =
      quote name ++ layout.afterName ++ render layout t ++ layout.betweenItems ++
        renderMembers layout (next :: members) := by
  rw [renderMembers]
  exact nofun

theorem opens_renderItems (layout : Layout) {item : Json} {items : List Json} {vs : List Value}
    (h : values? (item :: items) = some vs) : Opens (renderItems layout (item :: items)) := by
  obtain ⟨v, ws, hv, -, -⟩ := values?_cons_eq_some h
  cases items with
  | nil => exact opens_render layout hv
  | cons next items =>
    rw [renderItems_cons_cons, List.append_assoc]
    exact (opens_render layout hv).append _

theorem renderMembers_cons (layout : Layout) (member : Text × Json) (members : List (Text × Json)) :
    ∃ tail, renderMembers layout (member :: members) = .char '"' :: tail := by
  cases members with
  | nil => exact ⟨_, rfl⟩
  | cons => exact ⟨_, rfl⟩

/-- A number does not go on in a text: it does not in the characters in front of it. -/
def Ends (t : Text) : Prop := Numeral.Ends t.leading.1

theorem ends_nil : Ends [] := Numeral.ends_nil

/-- What follows a value inside an array or an object ends a number. -/
theorem ends_delimiter : ∀ c ∈ [',', ']', '\x7d'], ∀ rest, Ends (.char c :: rest) := by
  intro c hc rest
  simp only [List.mem_cons, List.not_mem_nil, or_false] at hc
  rcases hc with rfl | rfl | rfl
  · exact Numeral.ends_cons (by decide) (by decide) (by decide) (by decide)
  · exact Numeral.ends_cons (by decide) (by decide) (by decide) (by decide)
  · exact Numeral.ends_cons (by decide) (by decide) (by decide) (by decide)

/-! ## Steps of the reader -/

section Steps
variable {fuel : Nat} {cs rest after : Text} {v : Value} {vs : List Value}
  {done entries : List (Value × Value)}

/-- A text that starts with a number is read as the number, if it has a value. -/
theorem takeBare_of_scan? {n : Numeral} {left : List Char} (hn : Numeral.scan? cs.leading.1 = some (n, left)) :
    takeBare cs = match Decimal.ofNumeral? n with
      | none => .error .numberOutOfBounds
      | some d => .ok (.decimal d, .ofChars left ++ cs.leading.2) := by
  obtain ⟨c, cs', hcs, hc⟩ := start_of_scan? hn
  have hfirst : cs = .char c :: (Text.ofChars cs' ++ cs.leading.2) := by
    rw [← List.cons_append, ← Text.ofChars_cons, ← hcs, Text.leading_eq]
  have ne_of_head {d : Char} {rest : Text} (hm : d ≠ '-') (hd : d.isDigit = false) : cs ≠ .char d :: rest := by
    intro he
    rw [hfirst] at he
    exact ne_of_start hc hm hd (Point.char.inj (List.cons.inj he).1)
  rw [takeBare.eq_def]
  split
  · exact absurd rfl (ne_of_head (by decide) (by decide))
  · exact absurd rfl (ne_of_head (by decide) (by decide))
  · exact absurd rfl (ne_of_head (by decide) (by decide))
  · rewrite [hn]
    rfl

theorem takeBare_number {token : List Char} (hv : numberValue? token = some v) (hr : Ends rest) :
    takeBare (.ofChars token ++ rest) = .ok (v, rest) := by
  obtain ⟨n, d, hn, hd, rfl⟩ := numberValue?_eq_some hv
  have hscan : Numeral.scan? (Text.leading (.ofChars token ++ rest)).1 = some (n, rest.leading.1) := by
    rw [Text.leading_ofChars_append]
    exact Numeral.scan?_append hr hn
  rw [takeBare_of_scan? hscan, hd, Text.leading_ofChars_append]
  exact congrArg (fun rest => Except.ok (Value.decimal d, rest)) (Text.leading_eq rest)

theorem takeValue_bare {c : Char} (hq : c ≠ '"') (hb : c ≠ '[') (ho : c ≠ '\x7b') :
    takeValue (fuel + 1) (c :: cs) = takeBare (c :: cs) := by
  rw [takeValue.eq_def]
  dsimp only
  split
  · rename_i h
    exact absurd (Point.char.inj (List.cons.inj h).1) hq
  · rename_i h
    exact absurd (Point.char.inj (List.cons.inj h).1) hb
  · rename_i h
    exact absurd (Point.char.inj (List.cons.inj h).1) ho
  · rfl

theorem takeValue_quote (t rest : Text) : takeValue (fuel + 1) (quote t ++ rest) = .ok (.text t, rest) := by
  rw [quote, List.cons_append, List.append_assoc, takeValue]
  show (takeString _ none (t.flatMap escape ++ .char '"' :: rest)).map _ = _
  rw [takeString_quoted]
  rfl

theorem takeValue_array (hcs : Opens cs) (h : takeItems fuel cs = .ok (vs, rest)) :
    takeValue (fuel + 1) ('[' :: cs) = .ok (.list vs, rest) := by
  rw [takeValue, hcs.skipBlanks]
  obtain ⟨c, cs, rfl, -, hc, -⟩ := hcs
  split
  · contradiction
  · rename_i he
    exact absurd (Point.char.inj (List.cons.inj he).1) hc
  · rw [h]
    rfl

theorem takeValue_object (h : takeMembers fuel [] (.char '"' :: cs) = .ok (entries, rest)) :
    takeValue (fuel + 1) ('\x7b' :: '"' :: cs) = .ok (.map entries, rest) := by
  rw [takeValue, skipBlanks_cons rfl]
  show (takeMembers fuel [] (.char '"' :: cs)).map _ = _
  rw [h]
  rfl

theorem takeItems_last (h : takeValue fuel cs = .ok (v, .char ']' :: rest)) :
    takeItems (fuel + 1) cs = .ok ([v], rest) := by
  rw [takeItems, h]
  rfl

theorem takeItems_next {gap next : Text} (hg : ∀ p ∈ gap, isBlank p = true) (hn : Opens next)
    (h : takeValue fuel cs = .ok (v, .char ',' :: (gap ++ next)))
    (hvs : takeItems fuel next = .ok (vs, rest)) :
    takeItems (fuel + 1) cs = .ok (v :: vs, rest) := by
  have hcomma : skipBlanks (.char ',' :: (gap ++ next)) = .char ',' :: (gap ++ next) := skipBlanks_cons rfl _
  rw [takeItems, h]
  simp only [hcomma, skipBlanks_append hg, hn.skipBlanks]
  obtain ⟨c, next, rfl, -, hc, -⟩ := hn
  split
  · rename_i he
    exact absurd (Point.char.inj (List.cons.inj he).1) hc
  · rw [hvs]
    rfl

/-- What is read after a member. -/
def takeMore (fuel : Nat) (members : List (Value × Value)) (after : Text) :
    Taken (List (Value × Value)) :=
  match skipBlanks after with
  | '\x7d' :: rest => .ok (members, rest)
  | ',' :: afterComma =>
    match skipBlanks afterComma with
    | '\x7d' :: _ => stuckAt .trailingCommaInObject (',' :: afterComma)
    | next => takeMembers fuel members next
  | rest => stuckAt .expectingCommaOrBrace rest

/-- A member is read up to the text after its value. -/
theorem takeMembers_member {gap text : Text} (name : Text)
    (hg : ∀ p ∈ gap, isBlank p = true) (ht : Opens text) (h : takeValue fuel text = .ok (v, after)) :
    takeMembers (fuel + 1) done (quote name ++ .char ':' :: (gap ++ text)) =
      takeMore fuel (setMember name v done) after := by
  have hvalue : takeValue fuel (skipBlanks (gap ++ text)) = .ok (v, after) := by
    rw [skipBlanks_append hg, ht.skipBlanks, h]
  rw [quote, List.cons_append, List.append_assoc, List.singleton_append, takeMembers,
    takeString_quoted]
  have hcolon : skipBlanks (.char ':' :: (gap ++ text)) = .char ':' :: (gap ++ text) := skipBlanks_cons rfl _
  simp only [hcolon, hvalue]
  rfl

theorem takeMembers_last {gap text : Text} (name : Text)
    (hg : ∀ p ∈ gap, isBlank p = true) (ht : Opens text)
    (h : takeValue fuel text = .ok (v, .char '\x7d' :: rest)) :
    takeMembers (fuel + 1) done (quote name ++ .char ':' :: (gap ++ text)) =
      .ok (setMember name v done, rest) := by
  rw [takeMembers_member name hg ht h]
  rfl

theorem takeMembers_next {gap gap' text next : Text} (name : Text)
    (hg : ∀ p ∈ gap, isBlank p = true) (hg' : ∀ p ∈ gap', isBlank p = true) (ht : Opens text)
    (h : takeValue fuel text = .ok (v, .char ',' :: (gap' ++ .char '"' :: next))) :
    takeMembers (fuel + 1) done (quote name ++ .char ':' :: (gap ++ text)) =
      takeMembers fuel (setMember name v done) (.char '"' :: next) := by
  have hcomma : skipBlanks (.char ',' :: (gap' ++ .char '"' :: next)) = .char ',' :: (gap' ++ .char '"' :: next) :=
    skipBlanks_cons rfl _
  have hquote : skipBlanks (.char '"' :: next) = .char '"' :: next := skipBlanks_cons rfl _
  rw [takeMembers_member name hg ht h, takeMore]
  simp only [hcomma, skipBlanks_append hg', hquote]
  rfl

end Steps

/-! ## Reading a written tree -/

section Render
variable {layout : Layout}

mutual

/-- **A written tree is read as its value**, whatever comes after it. -/
theorem takeValue_render (hl : layout.Readable) : ∀ (t : Json) (fuel : Nat) (rest : Text)
    {v : Value}, t.value? = some v → 2 * (t.render layout).length ≤ fuel + 1 → Ends rest →
    takeValue fuel (t.render layout ++ rest) = .ok (v, rest)
  | t, 0, rest, v, hv, hf, _ => by
      -- Without fuel there would have to be no text, and no text is empty.
      obtain ⟨c, cs, hc, -⟩ := opens_render layout hv
      rw [hc, List.length_cons] at hf
      omega
  | null, fuel + 1, rest, v, hv, _, _ => by
      cases hv
      rfl
  | bool b, fuel + 1, rest, v, hv, _, _ => by
      cases hv
      cases b <;> rfl
  | number token, fuel + 1, rest, v, hv, _, hr => by
      obtain ⟨n, d, hn, -⟩ := numberValue?_eq_some hv
      obtain ⟨c, cs, hc, hs⟩ := start_of_scan? hn
      have hbare : takeBare (.ofChars token ++ rest) = .ok (v, rest) := takeBare_number hv hr
      rw [render]
      rw [hc, Text.ofChars_cons, List.cons_append] at hbare ⊢
      rw [takeValue_bare (ne_of_start hs (by decide) (by decide))
        (ne_of_start hs (by decide) (by decide)) (ne_of_start hs (by decide) (by decide))]
      exact hbare
  | text s, fuel + 1, rest, v, hv, _, _ => by
      cases hv
      exact takeValue_quote s rest
  | array items, fuel + 1, rest, v, hv, hf, _ => by
      obtain ⟨vs, hvs, rfl⟩ := Option.map_eq_some_iff.mp hv
      rw [render, List.length_cons, List.length_append, List.length_singleton] at hf
      rw [render, List.cons_append, List.append_assoc, List.singleton_append]
      cases items with
      | nil =>
        cases hvs
        rfl
      | cons item items =>
        have hitems := takeItems_render hl item items fuel rest hvs (by omega)
        exact takeValue_array ((opens_renderItems layout hvs).append _) hitems
  | object members, fuel + 1, rest, v, hv, hf, _ => by
      obtain ⟨entries, hentries, rfl⟩ := Option.map_eq_some_iff.mp hv
      rw [render, List.length_cons, List.length_append, List.length_singleton] at hf
      rw [render, List.cons_append, List.append_assoc, List.singleton_append]
      cases members with
      | nil =>
        cases hentries
        rfl
      | cons member members =>
        have hmembers := takeMembers_render hl member members [] fuel rest hentries (by omega)
        obtain ⟨tail, htail⟩ := renderMembers_cons layout member members
        rw [htail] at hmembers ⊢
        exact takeValue_object hmembers

theorem takeItems_render (hl : layout.Readable) : ∀ (item : Json) (items : List Json) (fuel : Nat)
    (rest : Text) {vs : List Value}, values? (item :: items) = some vs →
    2 * (renderItems layout (item :: items)).length ≤ fuel →
    takeItems fuel (renderItems layout (item :: items) ++ .char ']' :: rest) = .ok (vs, rest)
  | item, items, 0, rest, vs, hvs, hf => by
      obtain ⟨c, cs, hc, -⟩ := opens_renderItems layout hvs
      rw [hc, List.length_cons] at hf
      omega
  | item, [], fuel + 1, rest, vs, hvs, hf => by
      obtain ⟨v, ws, hv, hws, rfl⟩ := values?_cons_eq_some hvs
      cases hws
      rw [renderItems] at hf ⊢
      have hitem := takeValue_render hl item fuel (.char ']' :: rest) hv (by omega)
        (ends_delimiter _ (by decide) _)
      exact takeItems_last hitem
  | item, next :: items, fuel + 1, rest, vs, hvs, hf => by
      obtain ⟨v, ws, hv, hws, rfl⟩ := values?_cons_eq_some hvs
      obtain ⟨gap, hcomma, hgap⟩ := hl.betweenItems
      rw [renderItems_cons_cons, hcomma] at hf ⊢
      rw [List.length_append, List.length_append, List.length_cons] at hf
      rw [List.append_assoc, List.append_assoc, List.cons_append]
      have hitem := takeValue_render hl item fuel
        (.char ',' :: (gap ++ (renderItems layout (next :: items) ++ .char ']' :: rest))) hv (by omega)
        (ends_delimiter _ (by decide) _)
      have hitems := takeItems_render hl next items fuel rest hws (by omega)
      exact takeItems_next hgap ((opens_renderItems layout hws).append _) hitem hitems

theorem takeMembers_render (hl : layout.Readable) : ∀ (member : Text × Json)
    (members : List (Text × Json)) (done : List (Value × Value)) (fuel : Nat) (rest : Text)
    {entries : List (Value × Value)}, membersAfter? done (member :: members) = some entries →
    2 * (renderMembers layout (member :: members)).length ≤ fuel →
    takeMembers fuel done (renderMembers layout (member :: members) ++ .char '\x7d' :: rest) =
      .ok (entries, rest)
  | member, members, done, 0, rest, entries, hentries, hf => by
      obtain ⟨tail, htail⟩ := renderMembers_cons layout member members
      rw [htail, List.length_cons] at hf
      omega
  | (name, t), [], done, fuel + 1, rest, entries, hentries, hf => by
      obtain ⟨v, hv, hrest⟩ := membersAfter?_cons_eq_some hentries
      cases hrest
      obtain ⟨gap, hcolon, hgap⟩ := hl.afterName
      rw [renderMembers, hcolon] at hf ⊢
      rw [List.length_append, List.length_append, List.length_cons] at hf
      rw [List.append_assoc, List.append_assoc, List.cons_append]
      have hvalue := takeValue_render hl t fuel (.char '\x7d' :: rest) hv (by omega)
        (ends_delimiter _ (by decide) _)
      exact takeMembers_last name hgap ((opens_render layout hv).append _) hvalue
  | (name, t), next :: members, done, fuel + 1, rest, entries, hentries, hf => by
      obtain ⟨v, hv, hrest⟩ := membersAfter?_cons_eq_some hentries
      obtain ⟨gap, hcolon, hgap⟩ := hl.afterName
      obtain ⟨gap', hcomma, hgap'⟩ := hl.betweenItems
      have hmembers := takeMembers_render hl next members (setMember name v done) fuel rest hrest
      -- The reader looks for the next name behind the comma; the quotation mark has to be in sight.
      obtain ⟨tail, htail⟩ := renderMembers_cons layout next members
      rw [renderMembers_cons_cons, hcolon, hcomma] at hf ⊢
      rw [htail] at hmembers hf ⊢
      simp only [List.length_append, List.length_cons] at hf hmembers
      simp only [List.append_assoc, List.cons_append] at hmembers ⊢
      have hvalue := takeValue_render hl t fuel
        (.char ',' :: (gap' ++ .char '"' :: (tail ++ .char '\x7d' :: rest))) hv (by omega)
        (ends_delimiter _ (by decide) _)
      rw [takeMembers_next name hgap hgap' ((opens_render layout hv).append _) hvalue]
      exact hmembers (by omega)

end

end Render

/-! ## Reading a whole text -/

/-- **The text of a tree is read as the tree's value.** -/
theorem read_render {layout : Layout} (hl : layout.Readable) {t : Json} {v : Value}
    (h : t.value? = some v) : read (t.render layout) = .ok v := by
  have hvalue := takeValue_render hl t (2 * (t.render layout).length + 1) [] h (by omega) ends_nil
  rw [List.append_nil] at hvalue
  unfold read
  dsimp only
  rw [(opens_render layout h).dropMark, (opens_render layout h).skipBlanks, hvalue]
  rfl

/-- A text that is one number is read as this number; a number without a value stops the reader. -/
theorem read_of_scan? {cs : List Char} {n : Numeral} (hn : Numeral.scan? cs = some (n, [])) :
    read (.ofChars cs) = match Decimal.ofNumeral? n with
      | none => .error .numberOutOfBounds
      | some d => .ok (.decimal d) := by
  have hwhole : Text.leading (.ofChars cs) = (cs, []) := by
    simpa [Text.leading] using Text.leading_ofChars_append cs []
  have hscan : Numeral.scan? (Text.leading (.ofChars cs)).1 = some (n, []) := by rw [hwhole, hn]
  have hvalue : takeValue (2 * List.length (Text.ofChars cs) + 1) (.ofChars cs) = takeBare (.ofChars cs) := by
    obtain ⟨c, cs, rfl, hc⟩ := start_of_scan? hn
    exact takeValue_bare (ne_of_start hc (by decide) (by decide)) (ne_of_start hc (by decide) (by decide))
      (ne_of_start hc (by decide) (by decide))
  unfold read
  dsimp only
  rw [(opens_of_scan? hn).dropMark, (opens_of_scan? hn).skipBlanks, hvalue, takeBare_of_scan? hscan, hwhole]
  cases Decimal.ofNumeral? n <;> rfl

end Intake.Json
