import Intake.Logging.Record
import Intake.Proofs.Json.Form
import Intake.Proofs.Json.OneLine
import Mathlib.Data.List.Forall2

/-! # The line of a record

The line of a record is one JSON object and nothing else (`line_is_one_object`).  Whatever is logged, the line has no end
of a line in it, so what comes from outside cannot make a line of its own.  And it is read as the object that was
written, so it cannot make a member of its own either: the names of the members follow from which fields the record has
(`Record.memberNames`), none comes twice, and the texts of the record are what their members say (`Record.SaidBy`).

The further fields may hold anything.  What JSON has no form for is shown as its text, so almost every value has a tree:
all but those with a whole number that is too long, or a map with a key that is no name (`Value.Showable`).  These trees
can all be read, since a number's token is a numeral or the name of a number that is not finite (`shown_eq_ok`).
-/
namespace Intake

namespace Value

/-- The keys under which a line shows an entry: texts, constants, and numbers that are not too long. -/
inductive NamesMember : Value → Prop where
  | null : NamesMember .null
  | bool (b : Bool) : NamesMember (.bool b)
  | int {n : Int} (h : n.natAbs < 10 ^ Numeral.maxDigits) : NamesMember (.int n)
  | float (x : Binary64) : NamesMember (.float x)
  | text (t : Text) : NamesMember (.text t)

/-- The values that a line can show.  Numbers may be anything but too long, and what has no form is a text. -/
inductive Showable : Value → Prop where
  | null : Showable .null
  | bool (b : Bool) : Showable (.bool b)
  | int {n : Int} (h : n.natAbs < 10 ^ Numeral.maxDigits) : Showable (.int n)
  | float (x : Binary64) : Showable (.float x)
  | decimal (d : Decimal) : Showable (.decimal d)
  | text (t : Text) : Showable (.text t)
  | bytes (bs : List UInt8) : Showable (.bytes bs)
  | instant (t : Instant) : Showable (.instant t)
  | list {xs : List Value} (h : ∀ x ∈ xs, Showable x) : Showable (.list xs)
  | tuple {xs : List Value} (h : ∀ x ∈ xs, Showable x) : Showable (.tuple xs)
  | map {entries : List (Value × Value)} (hk : ∀ e ∈ entries, NamesMember e.1)
      (h : ∀ e ∈ entries, Showable e.2) : Showable (.map entries)
  | document (d : Document) : Showable (.document d)

end Value

namespace Logging
open Json (map_eq_ok)

/-! ## Tokens and names -/

theorem isToken_text (x : Scientific) : Json.IsToken x.text := by
  obtain ⟨n, hform, -⟩ := x.exists_strictForm_text
  exact .numeral hform

theorem isToken_binaryToken (x : Binary64) : Json.IsToken (binaryToken x) := by
  cases x with
  | nan => exact .notFinite (by decide)
  | infinity negative =>
    cases negative with
    | true => exact .notFinite (by decide)
    | false => exact .notFinite (by decide)
  | finite negative m e h =>
    obtain ⟨n, d, hn, -⟩ := Binary64.exists_decimal_of_text negative m e h
    exact .numeral (Numeral.scan?_eq_some_iff.mp hn)

theorem exists_nameOfKey_iff {k : Value} : (∃ name, nameOfKey k = .ok name) ↔ k.NamesMember := by
  constructor
  · rintro ⟨name, h⟩
    cases k with
    | null => exact .null
    | bool b => exact .bool b
    | int n =>
      obtain ⟨token, htoken, -⟩ := map_eq_ok h
      exact .int (Json.written_eq_ok_iff.mp htoken).1
    | float x => exact .float x
    | text t => exact .text t
    | decimal => cases h
    | bytes => cases h
    | instant => cases h
    | list => cases h
    | tuple => cases h
    | map => cases h
    | document => cases h
  · intro h
    cases h with
    | null => exact ⟨_, rfl⟩
    | bool => exact ⟨_, rfl⟩
    | int h => exact ⟨_, congrArg (Except.map Text.ofChars) (Json.written_eq_ok_iff.mpr ⟨h, rfl⟩)⟩
    | float => exact ⟨_, rfl⟩
    | text => exact ⟨_, rfl⟩

/-! ## What is shown -/

theorem shownItems_cons_eq_ok {x : Value} {xs : List Value} {items : List Json}
    (h : shownItems (x :: xs) = .ok items) :
    ∃ t ts, shown x = .ok t ∧ shownItems xs = .ok ts ∧ items = t :: ts := by
  rw [shownItems] at h
  split at h
  · cases h
  · rename_i t ht
    obtain ⟨ts, hts, rfl⟩ := map_eq_ok h
    exact ⟨t, ts, ht, hts, rfl⟩

theorem shownEntries_cons_eq_ok {k v : Value} {entries : List (Value × Value)}
    {members : List (Text × Json)} (h : shownEntries ((k, v) :: entries) = .ok members) :
    ∃ name t rest, nameOfKey k = .ok name ∧ shown v = .ok t ∧ shownEntries entries = .ok rest ∧
      members = (name, t) :: rest := by
  rw [shownEntries] at h
  split at h
  · cases h
  · rename_i name hname
    split at h
    · cases h
    · rename_i t ht
      obtain ⟨rest, hrest, rfl⟩ := map_eq_ok h
      exact ⟨name, t, rest, hname, ht, hrest, rfl⟩

mutual

/-- What is shown can be read, and only a showable value is shown. -/
theorem shown_eq_ok : ∀ (v : Value) {t : Json}, shown v = .ok t → v.Showable ∧ t.Legible
  | .null, _, rfl => ⟨.null, .null⟩
  | .bool b, _, rfl => ⟨.bool b, .bool b⟩
  | .int n, t, h => by
      obtain ⟨token, htoken, rfl⟩ := map_eq_ok h
      obtain ⟨hn, rfl⟩ := Json.written_eq_ok_iff.mp htoken
      exact ⟨.int hn, .number (isToken_text _)⟩
  | .float x, _, rfl => ⟨.float x, .number (isToken_binaryToken x)⟩
  | .decimal d, _, rfl => ⟨.decimal d, .text _⟩
  | .text t, _, rfl => ⟨.text t, .text _⟩
  | .bytes bs, _, rfl => ⟨.bytes bs, .text _⟩
  | .instant i, _, rfl => ⟨.instant i, .text _⟩
  | .list xs, t, h => by
      obtain ⟨items, hitems, rfl⟩ := map_eq_ok h
      obtain ⟨hxs, hlegible⟩ := shownItems_eq_ok xs hitems
      exact ⟨.list hxs, .array hlegible⟩
  | .tuple xs, t, h => by
      obtain ⟨items, hitems, rfl⟩ := map_eq_ok h
      obtain ⟨hxs, hlegible⟩ := shownItems_eq_ok xs hitems
      exact ⟨.tuple hxs, .array hlegible⟩
  | .map entries, t, h => by
      obtain ⟨members, hmembers, rfl⟩ := map_eq_ok h
      obtain ⟨hentries, hlegible⟩ := shownEntries_eq_ok entries hmembers
      exact ⟨.map (fun e he => (hentries e he).1) (fun e he => (hentries e he).2), .object hlegible⟩
  | .document d, _, rfl => ⟨.document d, .text _⟩

theorem shownItems_eq_ok : ∀ (xs : List Value) {items : List Json}, shownItems xs = .ok items →
    (∀ x ∈ xs, x.Showable) ∧ ∀ t ∈ items, t.Legible
  | [], _, rfl => ⟨List.forall_mem_nil _, List.forall_mem_nil _⟩
  | x :: xs, items, h => by
      obtain ⟨t, ts, ht, hts, rfl⟩ := shownItems_cons_eq_ok h
      obtain ⟨hx, hlegible⟩ := shown_eq_ok x ht
      obtain ⟨hxs, hrest⟩ := shownItems_eq_ok xs hts
      exact ⟨List.forall_mem_cons.mpr ⟨hx, hxs⟩, List.forall_mem_cons.mpr ⟨hlegible, hrest⟩⟩

theorem shownEntries_eq_ok : ∀ (entries : List (Value × Value)) {members : List (Text × Json)},
    shownEntries entries = .ok members →
    (∀ e ∈ entries, e.1.NamesMember ∧ e.2.Showable) ∧ ∀ m ∈ members, m.2.Legible
  | [], _, rfl => ⟨List.forall_mem_nil _, List.forall_mem_nil _⟩
  | (k, v) :: entries, members, h => by
      obtain ⟨name, t, rest, hname, ht, hrest, rfl⟩ := shownEntries_cons_eq_ok h
      obtain ⟨hv, hlegible⟩ := shown_eq_ok v ht
      obtain ⟨hentries, hlegibles⟩ := shownEntries_eq_ok entries hrest
      have hfirst : k.NamesMember ∧ v.Showable := ⟨exists_nameOfKey_iff.mp ⟨name, hname⟩, hv⟩
      exact ⟨List.forall_mem_cons.mpr ⟨hfirst, hentries⟩, List.forall_mem_cons.mpr ⟨hlegible, hlegibles⟩⟩

end

theorem exists_shownItems {xs : List Value} (h : ∀ x ∈ xs, ∃ t, shown x = .ok t) :
    ∃ items, shownItems xs = .ok items := by
  induction xs with
  | nil => exact ⟨[], rfl⟩
  | cons x xs ih =>
    obtain ⟨⟨t, ht⟩, hrest⟩ := List.forall_mem_cons.mp h
    obtain ⟨items, hitems⟩ := ih hrest
    refine ⟨t :: items, ?_⟩
    rw [shownItems, ht]
    dsimp only
    rw [hitems]
    rfl

theorem exists_shownEntries {entries : List (Value × Value)} (hk : ∀ e ∈ entries, e.1.NamesMember)
    (h : ∀ e ∈ entries, ∃ t, shown e.2 = .ok t) : ∃ members, shownEntries entries = .ok members := by
  induction entries with
  | nil => exact ⟨[], rfl⟩
  | cons e entries ih =>
    obtain ⟨k, v⟩ := e
    obtain ⟨hname, hnames⟩ := List.forall_mem_cons.mp hk
    obtain ⟨⟨t, ht⟩, hrest⟩ := List.forall_mem_cons.mp h
    obtain ⟨name, hname⟩ := exists_nameOfKey_iff.mpr hname
    obtain ⟨members, hmembers⟩ := ih hnames hrest
    refine ⟨(name, t) :: members, ?_⟩
    rw [shownEntries, hname]
    dsimp only
    rw [ht]
    dsimp only
    rw [hmembers]
    rfl

theorem exists_shown {v : Value} (h : v.Showable) : ∃ t, shown v = .ok t := by
  induction h with
  | int h => exact ⟨_, by rw [shown, Json.written_eq_ok_iff.mpr ⟨h, rfl⟩]; rfl⟩
  | list _ ih =>
    obtain ⟨items, hitems⟩ := exists_shownItems ih
    exact ⟨.array items, by rw [shown, hitems]; rfl⟩
  | tuple _ ih =>
    obtain ⟨items, hitems⟩ := exists_shownItems ih
    exact ⟨.array items, by rw [shown, hitems]; rfl⟩
  | map hk _ ih =>
    obtain ⟨members, hmembers⟩ := exists_shownEntries hk ih
    exact ⟨.object members, by rw [shown, hmembers]; rfl⟩
  | _ => exact ⟨_, rfl⟩

/-- A value is shown just when it is showable. -/
theorem exists_shown_iff {v : Value} : (∃ t, shown v = .ok t) ↔ v.Showable :=
  ⟨fun ⟨_, ht⟩ => (shown_eq_ok v ht).1, exists_shown⟩

/-! ## Further fields -/

section Fields
variable (r : Record)

/-- The record has this field, and it is not null. -/
def Record.Has (name : String) (v : Value) : Prop := r.extra.lookup (name : Text) = some v ∧ v.isNull = false

/-- The record has a field with this name that is not null. -/
def Record.shows (name : String) : Bool := (r.extra.lookup (name : Text)).any fun v => !v.isNull

theorem find?_eq_lookup (name : Text) (extra : List (Text × Value)) :
    (extra.find? fun (key, _) => key = name).map Prod.snd = extra.lookup name := by
  induction extra with
  | nil => rfl
  | cons field extra ih =>
    obtain ⟨key, v⟩ := field
    by_cases hkey : key = name
    · subst hkey
      simp
    · have hbeq : (name == key) = false := beq_eq_false_iff_ne.mpr (Ne.symm hkey)
      rw [List.find?_cons_of_neg (by simpa using hkey), List.lookup_cons, hbeq]
      exact ih

theorem field?_eq (name : String) : r.field? name = (r.extra.lookup (name : Text)).filter fun v => !v.isNull := by
  rw [← find?_eq_lookup, Record.field?]
  cases r.extra.find? fun (key, _) => key = name with
  | none => rfl
  | some field =>
    obtain ⟨key, v⟩ := field
    cases v <;> rfl

theorem field?_eq_some_iff {name : String} {v : Value} : r.field? name = some v ↔ r.Has name v := by
  rw [field?_eq, Option.filter_eq_some_iff, Bool.not_eq_true', Record.Has]

theorem isSome_field? (name : String) : (r.field? name).isSome = r.shows name := by
  rw [field?_eq, Option.isSome_filter, Record.shows]

/-- The member for a field: its name, and its value as it is shown. -/
def Record.ShownAs (name : String) (member : Text × Json) : Prop :=
  member.1 = name ∧ ∃ v, r.Has name v ∧ shown v = .ok member.2

/-- The fields that are there have a member each, in their order. -/
theorem fieldMembers_eq_ok {names : List String} {members : List (Text × Json)}
    (h : r.fieldMembers names = .ok members) : List.Forall₂ r.ShownAs (names.filter r.shows) members := by
  induction names generalizing members with
  | nil =>
    obtain rfl := Except.ok.inj h
    exact .nil
  | cons name names ih =>
    have hisSome := isSome_field? r name
    rw [Record.fieldMembers] at h
    split at h
    · rename_i hnone
      rw [List.filter_cons_of_neg (by rw [← hisSome, hnone]; decide)]
      exact ih h
    · rename_i v hv
      rw [List.filter_cons_of_pos (by rw [← hisSome, hv]; rfl)]
      split at h
      · cases h
      · rename_i t ht
        obtain ⟨rest, hrest, rfl⟩ := map_eq_ok h
        exact .cons ⟨rfl, v, (field?_eq_some_iff r).mp hv, ht⟩ (ih hrest)

theorem exists_shownAs {names : List String} {members : List (Text × Json)}
    (h : List.Forall₂ r.ShownAs names members) {name : String} (hname : name ∈ names) :
    ∃ member ∈ members, r.ShownAs name member := by
  induction h with
  | nil => cases hname
  | @cons _ member _ members hfirst _ ih =>
    rcases List.mem_cons.mp hname with rfl | hname
    · exact ⟨member, List.mem_cons_self, hfirst⟩
    · obtain ⟨other, hother, hshown⟩ := ih hname
      exact ⟨other, List.mem_cons_of_mem _ hother, hshown⟩

theorem map_fst_of_shownAs {names : List String} {members : List (Text × Json)}
    (h : List.Forall₂ r.ShownAs names members) : members.map Prod.fst = names.map Text.ofString := by
  have hnames : List.Forall₂ (· = ·) (members.map Prod.fst) (names.map Text.ofString) :=
    List.forall₂_map_left_iff.mpr (List.forall₂_map_right_iff.mpr (h.imp fun _ _ hshown => hshown.1).flip)
  rwa [List.forall₂_eq_eq_eq] at hnames

theorem legible_of_shownAs {names : List String} {members : List (Text × Json)}
    (h : List.Forall₂ r.ShownAs names members) : ∀ member ∈ members, member.2.Legible := by
  induction h with
  | nil => exact List.forall_mem_nil _
  | cons hfirst _ ih =>
    obtain ⟨-, v, -, ht⟩ := hfirst
    exact List.forall_mem_cons.mpr ⟨(shown_eq_ok v ht).2, ih⟩

theorem exists_fieldMembers {names : List String} (h : ∀ name ∈ names, ∀ v, r.Has name v → v.Showable) :
    ∃ members, r.fieldMembers names = .ok members := by
  induction names with
  | nil => exact ⟨[], rfl⟩
  | cons name names ih =>
    obtain ⟨hname, hnames⟩ := List.forall_mem_cons.mp h
    obtain ⟨members, hmembers⟩ := ih hnames
    rw [Record.fieldMembers]
    cases hfield : r.field? name with
    | none => exact ⟨members, hmembers⟩
    | some v =>
      obtain ⟨t, ht⟩ := exists_shown (hname v ((field?_eq_some_iff r).mp hfield))
      refine ⟨(Text.ofString name, t) :: members, ?_⟩
      dsimp only
      rw [ht]
      dsimp only
      rw [hmembers]
      rfl

end Fields

/-! ## The line -/

/-- The names in the line of a record, in their order: four that are always there, those of the further fields that are
there and not null, and one for the exception. -/
def Record.memberNames (r : Record) : List String :=
  ["timestamp", "level", "logger", "message"] ++ ["path", "error_code", "status"].filter r.shows ++
    if r.exception.isSome then ["exception"] else []

/-- The members say what the record has. -/
structure Record.SaidBy (r : Record) (timestamp : String) (members : List (Text × Json)) : Prop where
  timestamp : textMember "timestamp" timestamp ∈ members
  level : textMember "level" r.level ∈ members
  logger : textMember "logger" r.logger ∈ members
  message : ∃ message, r.message = .ok message ∧ textMember "message" message ∈ members
  field : ∀ name ∈ ["path", "error_code", "status"], ∀ v, r.Has name v →
    ∃ t, shown v = .ok t ∧ (Text.ofString name, t) ∈ members
  exception : ∀ report, r.exception = some report → textMember "exception" report ∈ members

theorem nodup_memberNames (r : Record) : (r.memberNames.map Text.ofString).Nodup := by
  have hfront : (["timestamp", "level", "logger", "message"] ++ ["path", "error_code", "status"].filter r.shows).Sublist
      (["timestamp", "level", "logger", "message"] ++ ["path", "error_code", "status"]) :=
    (List.Sublist.refl _).append List.filter_sublist
  have hend : (if r.exception.isSome then ["exception"] else []).Sublist ["exception"] := by
    split
    · exact List.Sublist.refl _
    · exact List.nil_sublist _
  exact ((hfront.append hend).map Text.ofString).nodup (by decide)

section Members
variable {r : Record} (timestamp : String) (message : Text) {fields : List (Text × Json)}

/-- The members of a record's line, from its message and the members for the further fields. -/
def Record.lineMembers (r : Record) (timestamp : String) (message : Text) (fields : List (Text × Json)) :
    List (Text × Json) :=
  [textMember "timestamp" timestamp, textMember "level" r.level, textMember "logger" r.logger,
    textMember "message" message] ++ fields ++ r.exceptionMembers

/-- A record has a line if its message is filled and its further fields can be shown. -/
theorem jsonLine_eq_ok_iff {r : Record} {timestamp : String} {text : Text} : r.jsonLine timestamp = .ok text ↔
    ∃ message fields, r.message = .ok message ∧ r.fieldMembers shownFields = .ok fields ∧
      text = (Json.object (r.lineMembers timestamp message fields)).render .spaced := by
  unfold Record.jsonLine Record.toJson
  constructor
  · intro h
    obtain ⟨tree, htree, rfl⟩ := map_eq_ok h
    split at htree
    · cases htree
    · rename_i message hmessage
      obtain ⟨fields, hfields, rfl⟩ := map_eq_ok htree
      exact ⟨message, fields, hmessage, hfields, rfl⟩
  · rintro ⟨message, fields, hmessage, hfields, rfl⟩
    rw [hmessage]
    dsimp only
    rw [hfields]
    rfl

theorem map_fst_lineMembers (h : List.Forall₂ r.ShownAs (shownFields.filter r.shows) fields) :
    (r.lineMembers timestamp message fields).map Prod.fst = r.memberNames.map Text.ofString := by
  have hexception : r.exceptionMembers.map Prod.fst =
      (if r.exception.isSome then ["exception"] else []).map Text.ofString := by
    unfold Record.exceptionMembers
    cases r.exception with
    | none => rfl
    | some report => rfl
  rw [Record.lineMembers, Record.memberNames, List.map_append, List.map_append, List.map_append, List.map_append,
    map_fst_of_shownAs r h, hexception]
  rfl

theorem saidBy_lineMembers (hmessage : r.message = .ok message)
    (h : List.Forall₂ r.ShownAs (shownFields.filter r.shows) fields) :
    r.SaidBy timestamp (r.lineMembers timestamp message fields) where
  timestamp := by simp [Record.lineMembers]
  level := by simp [Record.lineMembers]
  logger := by simp [Record.lineMembers]
  message := ⟨message, hmessage, by simp [Record.lineMembers]⟩
  field name hname v hv := by
    have hshows : r.shows name = true := by
      rw [← isSome_field?, (field?_eq_some_iff r).mpr hv]
      rfl
    obtain ⟨⟨key, t⟩, hmem, rfl, w, hw, ht⟩ := exists_shownAs r h (List.mem_filter.mpr ⟨hname, hshows⟩)
    obtain rfl : v = w := Option.some.inj (hv.1.symm.trans hw.1)
    exact ⟨t, ht, List.mem_append_left _ (List.mem_append_right _ hmem)⟩
  exception report hreport := by simp [Record.lineMembers, Record.exceptionMembers, hreport]

theorem legible_lineMembers (h : List.Forall₂ r.ShownAs (shownFields.filter r.shows) fields) :
    (Json.object (r.lineMembers timestamp message fields)).Legible := by
  refine .object ?_
  have hexception : ∀ member ∈ r.exceptionMembers, member.2.Legible := by
    unfold Record.exceptionMembers
    cases r.exception with
    | none => exact List.forall_mem_nil _
    | some report => exact List.forall_mem_singleton.mpr (.text _)
  refine List.forall_mem_append.mpr ⟨List.forall_mem_append.mpr ⟨?_, legible_of_shownAs r h⟩, hexception⟩
  intro member hmember
  simp only [List.mem_cons, List.not_mem_nil, or_false] at hmember
  rcases hmember with rfl | rfl | rfl | rfl
  · exact .text _
  · exact .text _
  · exact .text _
  · exact .text _

end Members

/-- **The line of a record is one object that says what the record says.** -/
theorem line_is_one_object (r : Record) (timestamp : String) :
    ((∃ text, r.jsonLine timestamp = .ok text) ↔ (∃ message, r.message = .ok message) ∧
      ∀ name ∈ ["path", "error_code", "status"], ∀ v, r.Has name v → v.Showable) ∧
    ∀ text, r.jsonLine timestamp = .ok text → Json.NoControl text ∧
      ∃ members, Json.parse text = some (.object members) ∧
        members.map Prod.fst = r.memberNames.map Text.ofString ∧ (members.map Prod.fst).Nodup ∧
        r.SaidBy timestamp members := by
  refine ⟨⟨?_, ?_⟩, fun text h => ?_⟩
  · rintro ⟨text, h⟩
    obtain ⟨message, fields, hmessage, hfields, -⟩ := jsonLine_eq_ok_iff.mp h
    have hsaid := saidBy_lineMembers timestamp message hmessage (fieldMembers_eq_ok r hfields)
    refine ⟨⟨message, hmessage⟩, fun name hname v hv => ?_⟩
    obtain ⟨t, ht, -⟩ := hsaid.field name hname v hv
    exact exists_shown_iff.mp ⟨t, ht⟩
  · rintro ⟨⟨message, hmessage⟩, hshowable⟩
    obtain ⟨fields, hfields⟩ := exists_fieldMembers r hshowable
    exact ⟨_, jsonLine_eq_ok_iff.mpr ⟨message, fields, hmessage, hfields, rfl⟩⟩
  · obtain ⟨message, fields, hmessage, hfields, rfl⟩ := jsonLine_eq_ok_iff.mp h
    have hshown := fieldMembers_eq_ok r hfields
    have hlegible := legible_lineMembers timestamp message hshown
    have hnames := map_fst_lineMembers timestamp message hshown
    exact ⟨Json.noControl_render Json.onOneLine_spaced hlegible, _, Json.parse_render Json.readable_spaced hlegible,
      hnames, hnames ▸ nodup_memberNames r, saidBy_lineMembers timestamp message hmessage hshown⟩

/-- Neither the value of a message nor a field nor an exception's trace can end the line or add a member. -/
theorem line_is_one_object_hostile :
    let hostile : Text := "\"\x7d\n\x7b\"level\": \"INFO"
    let trace : Text := "Traceback (most recent call last):\n  File \"pay.py\", line 3\nValueError: " ++ hostile
    let r : Record := {
      logger := "api\r", level := "AUDIT\n", template := "paid %s", values := [.text hostile],
      extra := [("path", .null), ("status", .float .nan), ("error_code", .map [(.null, .list [.text hostile])])],
      exception := some trace }
    ∃ text members, r.jsonLine "now" = .ok text ∧ Json.NoControl text ∧
      Json.parse text = some (.object members) ∧
      members.map Prod.fst =
        ["timestamp", "level", "logger", "message", "error_code", "status", "exception"].map Text.ofString ∧
      textMember "level" "AUDIT\n" ∈ members ∧ textMember "message" ("paid " ++ hostile) ∈ members ∧
      textMember "exception" trace ∈ members := by
  intro hostile trace r
  have hmessage : r.message = .ok ("paid " ++ hostile) := by decide +kernel
  have hshowable : ∀ name ∈ ["path", "error_code", "status"], ∀ v, r.Has name v → v.Showable := by
    have hcode : Value.Showable (.map [(.null, .list [.text hostile])]) :=
      .map (List.forall_mem_singleton.mpr .null)
        (List.forall_mem_singleton.mpr (.list (List.forall_mem_singleton.mpr (.text hostile))))
    rintro name hname v ⟨hv, hnull⟩
    simp only [List.mem_cons, List.not_mem_nil, or_false] at hname
    rcases hname with rfl | rfl | rfl
    · obtain rfl : Value.null = v := Option.some.inj hv
      exact .null
    · obtain rfl := Option.some.inj hv
      exact hcode
    · obtain rfl := Option.some.inj hv
      exact .float _
  obtain ⟨hexists, hline⟩ := line_is_one_object r "now"
  obtain ⟨text, htext⟩ := hexists.mpr ⟨⟨_, hmessage⟩, hshowable⟩
  obtain ⟨hcontrol, members, hparse, hnames, -, hsaid⟩ := hline text htext
  obtain ⟨message, hmessage', hmember⟩ := hsaid.message
  obtain rfl : Text.ofString "paid " ++ hostile = message := Except.ok.inj (hmessage.symm.trans hmessage')
  exact ⟨text, members, htext, hcontrol, hparse, hnames.trans (by decide +kernel), hsaid.level, hmember,
    hsaid.exception _ rfl⟩

end Logging
end Intake
