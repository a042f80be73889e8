import Intake.Settings.Loading

/-! # What settings depend on

A setting has up to three sources, and only one of them counts: an argument that is meant for it, or else the last
variable that is, or else the standard value (`given?_cases`).  Everything about loading can be said of one setting at a
time, whatever its type is: `Name.read` is how a value is read for it, `setting` is what comes of its source, and
`load_cases` says that settings are loaded with these values, or are refused with the complaints about these and about
arguments that are no setting.

So a variable matters only if it is meant for a setting that no argument is meant for (`Environment.relevant`).  Without
all other variables the source of every setting is the same (`given?_relevant`).
-/
namespace Intake.Settings

/-- A setting's value. -/
def value (s : Settings) : Name → Value
  | .logLevel => .text s.logLevel
  | .logFormat => .text s.logFormat
  | .rejectionsAreClientErrors => .bool s.rejectionsAreClientErrors
  | .rejectionStatus => .int s.rejectionStatus

/-- A value as it is read for a setting. -/
def Name.read (n : Name) (v : Value) : Except Problem Value :=
  match n with
  | logLevel | logFormat => (readText v).map .text
  | rejectionsAreClientErrors => (readBoolean v).map .bool
  | rejectionStatus => (readStatus v).map fun status : ClientStatus => .int status

/-- An argument is meant for the setting, in letters of either case. -/
def Arguments.names (arguments : Arguments) (n : Name) : Bool :=
  arguments.any fun (name, _) => fold name = n.text

/-- A variable is meant for the setting, in letters of either case. -/
def Environment.names (environment : Environment) (n : Name) : Bool :=
  environment.any fun (name, _) => fold name = "featurekit_" ++ n.text

/-- The variables that are meant for a setting for which no argument is. -/
def Environment.relevant (arguments : Arguments) (environment : Environment) : Environment :=
  environment.filter fun (name, _) =>
    Name.all.any fun n => fold name = "featurekit_" ++ n.text && !arguments.names n

/-- What comes of a setting's source. -/
def setting (environment : Environment) (arguments : Arguments) (n : Name) : Except Problem Value :=
  readGiven n.read (standard.value n) (given? environment arguments n)

/-- All that there is to complain about. -/
def complaints (environment : Environment) (arguments : Arguments) : List Complaint :=
  (Name.all.flatMap fun n => complaint n (setting environment arguments n)) ++ strangers arguments

variable {environment : Environment} {arguments : Arguments} {n : Name}

/-! ## Where a setting comes from -/

theorem Name.fold_text (n : Name) : fold n.text = n.text := by
  cases n <;> decide

theorem Arguments.value?_eq_none_iff : arguments.value? n = none ↔ arguments.names n = false := by
  have hnone : arguments.names n = false ↔ ∀ argument ∈ arguments, fold argument.1 ≠ n.text := by
    simp [names]
  rw [hnone]
  unfold value?
  constructor
  · intro h argument hargument
    split at h
    · cases h
    · have hfold := List.find?_eq_none.mp (Option.map_eq_none_iff.mp h) argument hargument
      simpa using hfold
  · intro h
    -- The very name is one of those in either case.
    have hexact : arguments.find? (fun (name, _) => name = n.text) = none :=
      List.find?_eq_none.mpr fun argument hargument => by
        have hne : argument.1 ≠ n.text := fun heq => h argument hargument (by rw [heq, n.fold_text])
        simpa using hne
    rw [hexact]
    refine Option.map_eq_none_iff.mpr (List.find?_eq_none.mpr fun argument hargument => ?_)
    simpa using h argument hargument

theorem Environment.value?_eq_none_iff : environment.value? n = none ↔ environment.names n = false := by
  rw [value?, Option.map_eq_none_iff, List.findRev?_eq_find?_reverse, List.find?_eq_none, names, List.any_eq_false]
  simp only [List.mem_reverse, Name.variableName, Text.ofString_append]

/-- The source of a setting: an argument, or else a variable, or else none. -/
theorem given?_cases (environment : Environment) (arguments : Arguments) (n : Name) :
    (∃ v, arguments.value? n = some v ∧ given? environment arguments n = some v) ∨
    (arguments.names n = false ∧ given? environment arguments n = (environment.value? n).map .text) := by
  unfold given?
  cases h : arguments.value? n with
  | some v => exact Or.inl ⟨v, rfl, rfl⟩
  | none => exact Or.inr ⟨Arguments.value?_eq_none_iff.mp h, rfl⟩

theorem Environment.value?_relevant (environment : Environment) (h : arguments.names n = false) :
    (environment.relevant arguments).value? n = environment.value? n := by
  have hkept : ∀ name : Text, fold name = n.variableName →
      (Name.all.any fun n => fold name = "featurekit_" ++ n.text && !arguments.names n) = true := by
    intro name hname
    refine List.any_eq_true.mpr ⟨n, by cases n <;> decide, ?_⟩
    simp [hname, h, Name.variableName]
  rw [value?, value?, relevant, List.findRev?_eq_find?_reverse, List.findRev?_eq_find?_reverse, ← List.filter_reverse,
    List.find?_filter]
  congr 2
  funext ⟨name, _⟩
  exact decide_eq_decide.mpr ⟨fun hboth => of_decide_eq_true hboth.2, fun hname => ⟨hkept name hname, decide_eq_true hname⟩⟩

theorem given?_relevant (environment : Environment) (arguments : Arguments) :
    given? (environment.relevant arguments) arguments = given? environment arguments := by
  funext n
  rcases given?_cases environment arguments n with ⟨v, hv, hgiven⟩ | ⟨hnames, hgiven⟩
  · rw [hgiven, given?, hv]
  · rw [hgiven, given?, Arguments.value?_eq_none_iff.mpr hnames]
    dsimp only
    rw [environment.value?_relevant hnames]

/-! ## Loading, one setting at a time -/

theorem readGiven_map {α : Type} (read : Value → Except Problem α) (standard : α) (given : Option Value)
    (f : α → Value) : readGiven (fun v => (read v).map f) (f standard) given = (readGiven read standard given).map f := by
  cases given <;> rfl

theorem complaint_map {α β : Type} (n : Name) (f : α → β) (read : Except Problem α) :
    complaint n (read.map f) = complaint n read := by
  cases read <;> rfl

theorem complaint_eq_nil_iff {α : Type} {read : Except Problem α} : complaint n read = [] ↔ ∃ a, read = .ok a := by
  cases read with
  | ok a => exact ⟨fun _ => ⟨a, rfl⟩, fun _ => rfl⟩
  | error problem => exact ⟨nofun, nofun⟩

theorem setting_logLevel : setting environment arguments .logLevel =
    (readGiven readText standard.logLevel (given? environment arguments .logLevel)).map .text :=
  readGiven_map readText _ _ .text

theorem setting_logFormat : setting environment arguments .logFormat =
    (readGiven readText standard.logFormat (given? environment arguments .logFormat)).map .text :=
  readGiven_map readText _ _ .text

theorem setting_rejectionsAreClientErrors : setting environment arguments .rejectionsAreClientErrors =
    (readGiven readBoolean standard.rejectionsAreClientErrors
      (given? environment arguments .rejectionsAreClientErrors)).map .bool :=
  readGiven_map readBoolean _ _ .bool

theorem setting_rejectionStatus : setting environment arguments .rejectionStatus =
    (readGiven readStatus ⟨standard.rejectionStatus, standard.isClientStatus⟩
      (given? environment arguments .rejectionStatus)).map fun status : ClientStatus => .int status :=
  readGiven_map readStatus ⟨standard.rejectionStatus, standard.isClientStatus⟩ _ fun status => .int status

/-- Settings are loaded with the value of each, or they are refused with all complaints. -/
theorem load_cases (environment : Environment) (arguments : Arguments) :
    (∃ s, load environment arguments = .ok s ∧ ∀ n, setting environment arguments n = .ok (s.value n)) ∨
    (load environment arguments = .error (complaints environment arguments) ∧ complaints environment arguments ≠ []) := by
  have hcomplaints : complaints environment arguments =
      complaint .logLevel (readGiven readText standard.logLevel (given? environment arguments .logLevel)) ++
      complaint .logFormat (readGiven readText standard.logFormat (given? environment arguments .logFormat)) ++
      complaint .rejectionsAreClientErrors (readGiven readBoolean standard.rejectionsAreClientErrors
        (given? environment arguments .rejectionsAreClientErrors)) ++
      complaint .rejectionStatus (readGiven readStatus ⟨standard.rejectionStatus, standard.isClientStatus⟩
        (given? environment arguments .rejectionStatus)) ++ strangers arguments := by
    simp only [complaints, Name.all, List.flatMap_cons, List.flatMap_nil, List.append_nil, setting_logLevel,
      setting_logFormat, setting_rejectionsAreClientErrors, setting_rejectionStatus, complaint_map, List.append_assoc]
  rw [hcomplaints]
  unfold load
  dsimp only
  split
  · rename_i logLevel logFormat clientErrors status isClientStatus hlevel hformat hclient hstatus hstrangers
    refine Or.inl ⟨_, rfl, fun n => ?_⟩
    cases n with
    | logLevel => rw [setting_logLevel, hlevel]; rfl
    | logFormat => rw [setting_logFormat, hformat]; rfl
    | rejectionsAreClientErrors => rw [setting_rejectionsAreClientErrors, hclient]; rfl
    | rejectionStatus => rw [setting_rejectionStatus, hstatus]; rfl
  · rename_i hnot
    refine Or.inr ⟨rfl, fun hnil => ?_⟩
    simp only [List.append_eq_nil_iff, complaint_eq_nil_iff] at hnil
    obtain ⟨⟨⟨⟨⟨_, hlevel⟩, _, hformat⟩, _, hclient⟩, status, hstatus⟩, hstrangers⟩ := hnil
    exact hnot _ _ _ _ status.property hlevel hformat hclient hstatus hstrangers

/-- **Settings depend on what is given for them, and on nothing else.**  Without all variables that are meant for no
setting, or for one that an argument is meant for, the same settings are loaded, or the same complaints are made.  A
setting that is loaded is what the argument for it means; or where there is none, what the last variable for it means;
or where there is none either, the standard one. -/
theorem load_depends_on_relevant (environment : Environment) (arguments : Arguments) :
    load environment arguments = load (environment.relevant arguments) arguments ∧
    ∀ s, load environment arguments = .ok s → ∀ n,
      (∃ v, arguments.value? n = some v ∧ n.read v = .ok (s.value n)) ∨
      (arguments.names n = false ∧ ∃ t, environment.value? n = some t ∧ n.read (.text t) = .ok (s.value n)) ∨
      (arguments.names n = false ∧ environment.names n = false ∧ s.value n = standard.value n) := by
  constructor
  · rw [load, load, given?_relevant]
  · intro s hs n
    have hsetting : readGiven n.read (standard.value n) (given? environment arguments n) = .ok (s.value n) := by
      rcases load_cases environment arguments with ⟨s', hs', hvalue⟩ | ⟨herror, -⟩
      · rw [hs] at hs'
        rw [Except.ok.inj hs']
        exact hvalue n
      · rw [hs] at herror
        cases herror
    rcases given?_cases environment arguments n with ⟨v, hv, hgiven⟩ | ⟨hnames, hgiven⟩
    · rw [hgiven] at hsetting
      exact Or.inl ⟨v, hv, hsetting⟩
    · rw [hgiven] at hsetting
      cases ht : environment.value? n with
      | some t =>
        rw [ht] at hsetting
        exact Or.inr (Or.inl ⟨hnames, t, rfl, hsetting⟩)
      | none =>
        rw [ht] at hsetting
        exact Or.inr (Or.inr ⟨hnames, Environment.value?_eq_none_iff.mp ht, (Except.ok.inj hsetting).symm⟩)

/-- An argument in another case stands in front of a variable that is no status; of two variables for one setting the
later counts; and a variable without the program's name does not matter. -/
theorem load_depends_on_relevant_status :
    let environment : Environment := [("featurekit_log_level", "DEBUG"), ("LOG_FORMAT", "text"),
      ("FEATUREKIT_VALIDATION_ERROR_STATUS", "teapot"), ("Featurekit_Log_Level", "ERROR")]
    let arguments : Arguments := [("Validation_Error_Status", .text "0_418.0")]
    let s : Settings :=
      { Settings.standard with logLevel := "ERROR", rejectionStatus := 418, isClientStatus := by decide }
    environment.relevant arguments = ([("featurekit_log_level", "DEBUG"), ("Featurekit_Log_Level", "ERROR")] : Environment) ∧
      load environment arguments = .ok s ∧ load (environment.relevant arguments) arguments = .ok s ∧
      s.value .logFormat = standard.value .logFormat := by
  intro environment arguments s
  have hsome : (load environment arguments).toOption = some s := by decide +kernel
  have hload : load environment arguments = .ok s := by
    cases hcases : load environment arguments with
    | error complaints => rw [hcases] at hsome; cases hsome
    | ok loaded => rw [hcases] at hsome; exact congrArg Except.ok (Option.some.inj hsome)
  obtain ⟨hsame, hvalues⟩ := load_depends_on_relevant environment arguments
  refine ⟨by decide +kernel, hload, hsame.symm.trans hload, ?_⟩
  have hargument : arguments.value? .logFormat = none := by decide +kernel
  have hvariable : environment.value? .logFormat = none := by decide +kernel
  obtain ⟨v, hv, -⟩ | ⟨-, t, ht, -⟩ | ⟨-, -, hvalue⟩ := hvalues s hload .logFormat
  · rw [hargument] at hv
    cases hv
  · rw [hvariable] at ht
    cases ht
  · exact hvalue

end Intake.Settings
