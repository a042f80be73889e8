import Intake.Proofs.Document.Conformance
import Intake.Proofs.Number.Scan
import Intake.Proofs.Value.PathText
import Mathlib.Data.Set.Function

/-! # The path of a failure identifies its place

In general a path does not say where it leads: a field may be called `a.b` or `a[0]`, and a key may be any text.
The places of a document are plainer than that.  All its fields are words of letters (`Segment.Plain`), and what
is written around them, points and brackets, is neither letter nor digit.  So the text that a location adds to a
path is read step by step: a label goes on as long as there are letters and digits, the mark in front of it tells
a field from an index, and the rest is what the other steps add (`Location.suffix_inj`).

Where no label stands in front, the first step is written without its marks.  It is still known, since a word is no
index (`Segment.Plain.label_inj`).  Thus no two places that a document's schema reaches are rendered alike, behind
any path, and the path of a rejection is the path of one of them (`path_identifies_place`).
-/
namespace Intake

/-- Letters, and at least one. -/
def IsWord (name : String) : Prop := name ≠ "" ∧ ∀ c ∈ name.toList, c.isAlpha = true

instance (name : String) : Decidable (IsWord name) :=
  have : Decidable (∀ c ∈ name.toList, c.isAlpha = true) := List.decidableBAll _ _
  inferInstanceAs (Decidable (name ≠ "" ∧ ∀ c ∈ name.toList, c.isAlpha = true))

/-- A field whose name is a word, or an element of an array. -/
def Segment.Plain : Segment → Prop
  | .field name => IsWord name
  | .element _ => True
  | .key _ => False

/-- All steps are plain. -/
def Location.Plain (l : Location) : Prop := ∀ segment ∈ l, segment.Plain

/-! ## Reading a label off the front -/

/-- Letters and digits, which make up a label. -/
def Point.isAlphanum : Point → Bool
  | char c => c.isAlphanum
  | half _ => false

/-- A run of points of one class is found again in front of a rest that does not start with one of them. -/
theorem run_inj {q : Point → Bool} {as bs rest rest' : Text} (has : ∀ p ∈ as, q p = true)
    (hbs : ∀ p ∈ bs, q p = true) (hrest : ∀ p ∈ rest.head?, q p = false)
    (hrest' : ∀ p ∈ rest'.head?, q p = false) (h : as ++ rest = bs ++ rest') : as = bs ∧ rest = rest' := by
  have hnone : ∀ t : Text, (∀ p ∈ t.head?, q p = false) → t.takeWhile q = [] := by
    intro t ht
    cases t with
    | nil => rfl
    | cons p t => simp [ht p rfl]
  have hrun : as = bs := by
    have htake := congrArg (List.takeWhile q) h
    rwa [List.takeWhile_append_of_pos has, List.takeWhile_append_of_pos hbs, hnone _ hrest, hnone _ hrest',
      List.append_nil, List.append_nil] at htake
  subst hrun
  exact ⟨rfl, List.append_cancel_left h⟩

namespace Segment

/-- The mark in front of a step. -/
def opening : Segment → Point
  | .field _ => '.'
  | _ => '['

/-- What is written after a step's label. -/
def closing : Segment → Text
  | .field _ => []
  | _ => [.char ']']

theorem suffix_eq (s : Segment) : s.suffix = s.opening :: (s.label ++ s.closing) := by
  cases s <;> simp [suffix, label, opening, closing, Text.ofString]

theorem isAlphanum_opening (s : Segment) : s.opening.isAlphanum = false := by
  cases s <;> rfl

variable {s t : Segment}

theorem label_element (i : Nat) : (Segment.element i).label = .ofChars (Nat.toDigits 10 i) := by
  simp [label, Text.ofString]

/-- The label of a plain step is made of letters and digits, and not empty. -/
theorem Plain.label_points (h : s.Plain) : s.label ≠ [] ∧ ∀ p ∈ s.label, p.isAlphanum = true := by
  cases s with
  | field name =>
    obtain ⟨hne, hname⟩ := h
    refine ⟨fun hnil => hne (String.toList_eq_nil_iff.mp (List.map_eq_nil_iff.mp hnil)), ?_⟩
    refine List.forall_mem_map.mpr fun c hc => ?_
    simp [Point.isAlphanum, Char.isAlphanum, hname c hc]
  | element i =>
    rw [label_element]
    refine ⟨fun hnil => Nat.toDigits_ne_nil (List.map_eq_nil_iff.mp hnil), ?_⟩
    refine List.forall_mem_map.mpr fun c hc => ?_
    simp [Point.isAlphanum, Char.isAlphanum, Numeral.digits_toDigits i c hc]
  | key k => exact h.elim

theorem le_toNat_of_isAlpha {c : Char} (h : c.isAlpha = true) : 'A'.toNat ≤ c.toNat := by
  rcases (Bool.or_eq_true _ _).mp h with hupper | hlower
  · exact UInt32.le_iff_toNat_le.mp (of_decide_eq_true hupper).1
  · have ha : 'a'.toNat ≤ c.toNat :=
      UInt32.le_iff_toNat_le.mp (of_decide_eq_true ((Bool.and_eq_true _ _).mp hlower).1)
    exact Nat.le_trans (by decide) ha

/-- A word is no index. -/
theorem label_field_ne {name : String} (h : IsWord name) (i : Nat) :
    (field name).label ≠ (element i).label := by
  intro heq
  obtain ⟨c, cs, hc⟩ := List.exists_cons_of_ne_nil (Nat.toDigits_ne_nil (b := 10) (n := i))
  have hmem : c ∈ Nat.toDigits 10 i := hc ▸ List.mem_cons_self
  have hdigit : c.isDigit = true := Numeral.digits_toDigits i c hmem
  have hchars : name.toList = Nat.toDigits 10 i := Text.ofChars_inj.mp (heq.trans (label_element i))
  rw [← hchars] at hmem
  have hletter : 'A'.toNat ≤ c.toNat := le_toNat_of_isAlpha (h.2 c hmem)
  exact absurd (Nat.le_trans hletter (Char.isDigit_iff_toNat.mp hdigit).2) (by decide)

/-- Plain steps with one label are one step. -/
theorem Plain.label_inj (hs : s.Plain) (ht : t.Plain) (h : s.label = t.label) : s = t := by
  cases s with
  | key k => exact hs.elim
  | field name =>
    cases t with
    | field name' => exact congrArg field (Text.ofString_inj.mp h)
    | element i => exact absurd h (label_field_ne hs i)
    | key k => exact ht.elim
  | element i =>
    cases t with
    | field name => exact absurd h.symm (label_field_ne ht i)
    | element j => exact congrArg element (Numeral.eq_of_toString_eq (Text.ofString_inj.mp h))
    | key k => exact ht.elim

end Segment

/-! ## Reading a location -/

namespace Location
variable {l l' : Location}

theorem suffix_cons (s : Segment) (l : Location) :
    suffix (s :: l) = s.opening :: (s.label ++ (s.closing ++ suffix l)) := by
  rw [suffix, s.suffix_eq, List.cons_append, List.append_assoc]

/-- What comes after a label does not go on with it. -/
theorem head_suffix (l : Location) : ∀ p ∈ (suffix l).head?, p.isAlphanum = false := by
  cases l with
  | nil => exact nofun
  | cons s l =>
    rw [suffix_cons]
    rintro p ⟨⟩
    exact s.isAlphanum_opening

theorem head_closing_suffix (s : Segment) (l : Location) :
    ∀ p ∈ (s.closing ++ suffix l).head?, p.isAlphanum = false := by
  cases s with
  | field => exact head_suffix l
  | element =>
    rintro p ⟨⟩
    rfl
  | key =>
    rintro p ⟨⟩
    rfl

/-- **What plain locations add to a path differs.** -/
theorem suffix_inj (hl : l.Plain) (hl' : l'.Plain) (h : suffix l = suffix l') : l = l' := by
  induction l generalizing l' with
  | nil =>
    cases l' with
    | nil => rfl
    | cons t l' =>
      rw [suffix_cons] at h
      cases h
  | cons s l ih =>
    obtain ⟨hs, hl⟩ := List.forall_mem_cons.mp hl
    cases l' with
    | nil =>
      rw [suffix_cons] at h
      cases h
    | cons t l' =>
      obtain ⟨ht, htail⟩ := List.forall_mem_cons.mp hl'
      rw [suffix_cons, suffix_cons] at h
      obtain ⟨hlabel, hrest⟩ := run_inj hs.label_points.2 ht.label_points.2 (head_closing_suffix s l)
        (head_closing_suffix t l') (List.cons.inj h).2
      obtain rfl := hs.label_inj ht hlabel
      rw [ih hl htail (List.append_cancel_left hrest)]

/-- The same where no label stands in front. -/
theorem text_inj (hl : l.Plain) (hl' : l'.Plain) (h : text l = text l') : l = l' := by
  have hne : ∀ {s : Segment} {l : Location}, s.Plain → text (s :: l) ≠ text [] := by
    intro s l hs heq
    exact hs.label_points.1 (List.append_eq_nil_iff.mp heq).1
  cases l with
  | nil =>
    cases l' with
    | nil => rfl
    | cons t l' => exact absurd h.symm (hne (List.forall_mem_cons.mp hl').1)
  | cons s l =>
    obtain ⟨hs, hl⟩ := List.forall_mem_cons.mp hl
    cases l' with
    | nil => exact absurd h (hne hs)
    | cons t l' =>
      obtain ⟨ht, hl'⟩ := List.forall_mem_cons.mp hl'
      obtain ⟨hlabel, hrest⟩ := run_inj hs.label_points.2 ht.label_points.2 (head_suffix l) (head_suffix l') h
      rw [hs.label_inj ht hlabel, suffix_inj hl hl' hrest]

end Location

/-- **Behind any path, plain locations are rendered differently.** -/
theorem Path.text_along_injOn (p : Path) : Set.InjOn (fun l => (p.along l).text) {l | Location.Plain l} := by
  intro l hl l' hl' h
  by_cases hp : p.labels = []
  · simp only [p.text_along_of_nil hp] at h
    exact Location.text_inj hl hl' h
  · simp only [p.text_along hp] at h
    exact Location.suffix_inj hl hl' (List.append_cancel_left h)

/-! ## The places of a document -/

namespace Schema
variable {s : Schema}

/-- Whatever the schema reaches is reached by plain steps. -/
def ReachesPlain (s : Schema) : Prop := ∀ l, s.Reaches l → Location.Plain l

theorem reachesPlain_text : text.ReachesPlain := by
  intro l h
  cases h
  exact List.forall_mem_nil _

theorem ReachesPlain.array (hs : s.ReachesPlain) : (array s).ReachesPlain := by
  intro l h
  cases h with
  | here => exact List.forall_mem_nil _
  | element i h => exact List.forall_mem_cons.mpr ⟨trivial, hs _ h⟩

theorem ReachesPlain.textOr (hs : s.ReachesPlain) (expected : String) : (textOr expected s).ReachesPlain := by
  intro l h
  cases h with
  | here => exact List.forall_mem_nil _
  | other h => exact hs l h

theorem ReachesPlain.byField {present absent : Schema} (hp : present.ReachesPlain)
    (ha : absent.ReachesPlain) (name : String) : (byField name present absent).ReachesPlain := by
  intro l h
  cases h with
  | here => exact List.forall_mem_nil _
  | present h => exact hp l h
  | absent h => exact ha l h

theorem reachesPlain_object {fields : List (String × Need × Schema)}
    (hnames : ∀ name ∈ fields.map Prod.fst, IsWord name) (hs : ∀ f ∈ fields, f.2.2.ReachesPlain) :
    (object fields).ReachesPlain := by
  intro l hl
  cases hl with
  | here => exact List.forall_mem_nil _
  | field hf hl => exact List.forall_mem_cons.mpr ⟨hnames _ (List.mem_map_of_mem hf), hs _ hf _ hl⟩

end Schema

/-- The places of a document are plain, whatever part of it they belong to. -/
theorem Part.reachesPlain_schema (p : Part) : p.schema.ReachesPlain := by
  have htext : Schema.text.ReachesPlain := Schema.reachesPlain_text
  have htexts : Schema.texts.ReachesPlain := htext.array
  have hrows : Schema.rows.ReachesPlain := htexts.array
  have htable : Schema.dataTable.ReachesPlain := Schema.reachesPlain_object (by decide) (by simp [htexts, hrows])
  have hargument : Schema.stepArgument.ReachesPlain := htable.textOr _
  have hstep : Schema.step.ReachesPlain := Schema.reachesPlain_object (by decide) (by simp [htext, hargument])
  have hsteps : Schema.steps.ReachesPlain := hstep.array
  have hexamples : Schema.examples.ReachesPlain :=
    Schema.reachesPlain_object (by decide) (by simp [htext, htexts, hrows])
  have hbackground : Schema.background.ReachesPlain :=
    Schema.reachesPlain_object (by decide) (by simp [htext, hsteps])
  have hscenario : Schema.scenario.ReachesPlain :=
    Schema.reachesPlain_object (by decide) (by simp [htext, htexts, hsteps, hexamples])
  have hgroup : ∀ child : Schema, child.ReachesPlain → (Schema.group child).ReachesPlain := by
    intro child hchild
    refine Schema.reachesPlain_object ?_ (by simp [htext, htexts, hbackground, hchild.array])
    show ∀ name ∈ ["tags", "name", "description", "background", "children"], IsWord name
    decide
  have hrule : Schema.rule.ReachesPlain := hgroup _ hscenario
  have hchild : Schema.featureChild.ReachesPlain := hrule.byField hscenario _
  cases p with
  | dataTable => exact htable
  | stepArgument => exact hargument
  | step => exact hstep
  | examples => exact hexamples
  | background => exact hbackground
  | scenario => exact hscenario
  | rule => exact hrule
  | featureChild => exact hchild
  | feature => exact hgroup _ hchild

/-- **The path of a failure identifies its place.**  Behind any path, the places that a part's schema reaches have
different texts.  What the decoder rejects stands at one of them, and no other has the path that is reported. -/
theorem path_identifies_place (p : Part) (path : Path) :
    Set.InjOn (fun l => (path.along l).text) {l | p.schema.Reaches l} ∧
      ∀ x r, p.decode x path = .error (.rejected r) →
        ∃ l, x.At l r.found ∧ ∀ l', (p.schema.Reaches l' ∧ (path.along l').text = r.path.text) ↔ l' = l := by
  have hinj : Set.InjOn (fun l => (path.along l).text) {l | p.schema.Reaches l} :=
    path.text_along_injOn.mono fun l hl => p.reachesPlain_schema l hl
  refine ⟨hinj, fun x r h => ?_⟩
  have hmeets := p.decode_meets x path
  rw [h, Checked.verdict_error] at hmeets
  obtain ⟨_, hr, ⟨⟩⟩ := (Schema.firstFault_eq_error_iff _ _).mp hmeets.symm
  obtain ⟨l, hl, hat, hp⟩ := p.schema.located_of_mem_violations (List.mem_of_mem_head? hr)
  refine ⟨l, hat, fun l' => ⟨?_, ?_⟩⟩
  · rintro ⟨hl', htext⟩
    exact hinj hl' hl (htext.trans (congrArg Path.text hp))
  · rintro rfl
    exact ⟨hl, (congrArg Path.text hp).symm⟩

/-- A step without a text, in a feature that is read without a path: its place is the only one of this name. -/
theorem path_identifies_place_step :
    let step : Value := .object [("text", .null)]
    let scenario (given : List Value) : Value :=
      .object [("name", .text "s"), ("given", .list given), ("when", .list []), ("then", .list [])]
    let x : Value := .object [("name", .text "f"), ("children", .list [scenario [], scenario [step]])]
    let r : Rejection := ⟨⟨["children[1]", "given[0]", "text"]⟩, "a string", .null, true⟩
    Part.feature.decode x ⟨[]⟩ = .error (.rejected r) ∧
      ∃ l, x.At l r.found ∧ ∀ l', (Part.feature.schema.Reaches l' ∧
        (Path.along ⟨[]⟩ l').text = Text.ofString "children[1].given[0].text") ↔ l' = l := by
  intro step scenario x r
  have h : Part.feature.decode x ⟨[]⟩ = .error (.rejected r) := by rfl
  exact ⟨h, (path_identifies_place Part.feature ⟨[]⟩).2 x r h⟩

end Intake
