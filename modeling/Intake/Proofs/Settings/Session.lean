import Intake.Proofs.Settings.Status
import Intake.Settings.Session

/-! # What a session keeps

A session is watched from outside: there are its steps, and an answer to each of them.  `reached` is the session before
the step of an index, and every answer is the one that this step has there (`getElem?_run`).

`Transition` says once what each step can do; everything else is read off its cases.  A step either answers with
settings that were in the cache, or loads new ones, with a serial number that none before had.  Only clearing empties
the cache, only asking fills it, and only setting variables changes the environment.

What each step of a run keeps, the run keeps (`reached_keeps`): the cache holds what it held until it is cleared
(`kept`), and stays empty until somebody asks (`empty`).  By induction on the time, it holds nothing that a step has not
loaded (`loadedBefore_of_cache`).
-/
namespace Intake.Settings

/-- The arguments with which a step loads settings, if it does. -/
def Session.Step.arguments? : Step → Option Arguments
  | .get => some []
  | .make arguments => some arguments
  | .set _ | .clear => none

/-- The environment after some steps.  What else happens does not matter to it. -/
def Environment.after (environment : Environment) : List Session.Step → Environment
  | [] => environment
  | .set changes :: steps => after (environment.change changes) steps
  | _ :: steps => after environment steps

/-- The settings or the complaints that an answer comes with, apart from which object they are. -/
def Session.Answer.outcome? : Answer → Option (Except (List Complaint) Settings)
  | .done => none
  | .loaded l => some (.ok l.settings)
  | .refused complaints => some (.error complaints)

namespace Session

/-! ## One step -/

/-- What a step does to a session, and what it answers. -/
inductive Transition (s : Session) : Step → Session → Answer → Prop where
  | set (changes : List (Text × Option Text)) :
      Transition s (.set changes) ⟨s.environment.change changes, s.cache, s.count⟩ .done
  | clear : Transition s .clear ⟨s.environment, none, s.count⟩ .done
  | found {l : Loaded} (hcache : s.cache = some l) : Transition s .get s (.loaded l)
  | filled {settings : Settings} (hcache : s.cache = none) (hload : load s.environment [] = .ok settings) :
      Transition s .get ⟨s.environment, some ⟨s.count, settings⟩, s.count + 1⟩ (.loaded ⟨s.count, settings⟩)
  | failed {complaints : List Complaint} (hcache : s.cache = none) (hload : load s.environment [] = .error complaints) :
      Transition s .get s (.refused complaints)
  | made {arguments : Arguments} {settings : Settings} (hload : load s.environment arguments = .ok settings) :
      Transition s (.make arguments) ⟨s.environment, s.cache, s.count + 1⟩ (.loaded ⟨s.count, settings⟩)
  | refused {arguments : Arguments} {complaints : List Complaint}
      (hload : load s.environment arguments = .error complaints) :
      Transition s (.make arguments) s (.refused complaints)

theorem transition (s : Session) (step : Step) : Transition s step (s.step step).1 (s.step step).2 := by
  cases step with
  | set changes => exact .set changes
  | clear => exact .clear
  | get =>
    show Transition s .get s.get.1 s.get.2
    cases hcache : s.cache with
    | some l =>
      have hget : s.get = (s, .loaded l) := by rw [get, hcache]
      rw [hget]
      exact .found hcache
    | none =>
      cases hload : load s.environment [] with
      | ok settings =>
        have hget : s.get = (⟨s.environment, some ⟨s.count, settings⟩, s.count + 1⟩, .loaded ⟨s.count, settings⟩) := by
          rw [get, hcache, make, hload]
        rw [hget]
        exact .filled hcache hload
      | error complaints =>
        have hget : s.get = (s, .refused complaints) := by rw [get, hcache, make, hload]
        rw [hget]
        exact .failed hcache hload
  | make arguments =>
    show Transition s (.make arguments) (s.make arguments).1 (s.make arguments).2
    cases hload : load s.environment arguments with
    | ok settings =>
      rw [make, hload]
      exact .made hload
    | error complaints =>
      rw [make, hload]
      exact .refused hload

namespace Transition
variable {s next : Session} {step : Step} {answer : Answer} {l : Loaded}

theorem environment_eq (h : Transition s step next answer) : next.environment = s.environment.after [step] := by
  cases h <;> rfl

theorem count_le (h : Transition s step next answer) : s.count ≤ next.count := by
  cases h with
  | filled | made => exact Nat.le_succ s.count
  | _ => exact Nat.le_refl s.count

/-- The cache is filled by asking only. -/
theorem cache_cases (h : Transition s step next answer) (hl : next.cache = some l) :
    s.cache = some l ∨ (step = .get ∧ answer = .loaded l) := by
  cases h with
  | set | found | failed | made | refused => exact Or.inl hl
  | clear => cases hl
  | filled => exact Or.inr ⟨rfl, congrArg Answer.loaded (Option.some.inj hl)⟩

/-- Settings come from the cache, or they are new. -/
theorem loaded_cases (h : Transition s step next (.loaded l)) : s.cache = some l ∨
    ∃ arguments, step.arguments? = some arguments ∧ load s.environment arguments = .ok l.settings ∧
      l.serial = s.count ∧ next.count = s.count + 1 := by
  cases h with
  | found hcache => exact Or.inl hcache
  | filled hcache hload => exact Or.inr ⟨[], rfl, hload, rfl, rfl⟩
  | made hload => exact Or.inr ⟨_, rfl, hload, rfl, rfl⟩

/-- Settings that are made are new. -/
theorem serial_of_make {arguments : Arguments} (h : Transition s (.make arguments) next (.loaded l)) :
    l.serial = s.count := by
  cases h
  rfl

theorem cache_of_get (h : Transition s .get next (.loaded l)) : next.cache = some l := by
  cases h with
  | found hcache => exact hcache
  | filled => rfl

theorem cache_of_refused {complaints : List Complaint} (h : Transition s .get next (.refused complaints)) :
    next.cache = none := by
  cases h with
  | failed hcache => exact hcache

theorem kept (h : Transition s step next answer) (hl : s.cache = some l) (hclear : step ≠ .clear) :
    next.cache = some l := by
  cases h with
  | set | made => exact hl
  | clear => exact absurd rfl hclear
  | filled hcache => rw [hcache] at hl; cases hl
  | _ => exact hl

theorem empty (h : Transition s step next answer) (hs : s.cache = none) (hget : step ≠ .get) :
    next.cache = none := by
  cases h with
  | set | made => exact hs
  | clear => rfl
  | filled => exact absurd rfl hget
  | _ => exact hs

theorem answer_of_kept (h : Transition s .get next answer) (hl : s.cache = some l) : answer = .loaded l := by
  cases h with
  | found hcache => rw [hcache] at hl; rw [Option.some.inj hl]
  | filled hcache | failed hcache => rw [hcache] at hl; cases hl

/-- With an empty cache the environment decides alone. -/
theorem outcome_of_empty (h : Transition s .get next answer) (hs : s.cache = none) :
    answer.outcome? = some (load s.environment []) := by
  cases h with
  | found hcache => rw [hcache] at hs; cases hs
  | filled _ hload | failed _ hload => rw [hload]; rfl

end Transition

/-! ## A run -/

/-- The session before the step of an index. -/
def reached (s : Session) (steps : List Step) (i : Nat) : Session :=
  (steps.take i).foldl (fun s step => (s.step step).1) s

section Run
variable {s : Session} {steps : List Step} {i j : Nat} {step : Step} {l : Loaded}

theorem reached_succ (h : steps[i]? = some step) :
    s.reached steps (i + 1) = ((s.reached steps i).step step).1 := by
  rw [reached, List.take_add_one, h, List.foldl_append]
  rfl

theorem reached_succ_of_none (h : steps[i]? = none) : s.reached steps (i + 1) = s.reached steps i := by
  rw [reached, List.take_add_one, h, Option.toList_none, List.append_nil]
  rfl

/-- Every answer is that of its step in the session reached before. -/
theorem getElem?_run (s : Session) (steps : List Step) (i : Nat) :
    (s.run steps)[i]? = steps[i]?.map fun step => ((s.reached steps i).step step).2 := by
  induction steps generalizing s i with
  | nil => rfl
  | cons step steps ih =>
    cases i with
    | zero => rfl
    | succ i => exact ih (s.step step).1 i

theorem transition_at {answer : Answer} (h : (s.run steps)[i]? = some answer) :
    ∃ step, steps[i]? = some step ∧ Transition (s.reached steps i) step (s.reached steps (i + 1)) answer := by
  rw [getElem?_run, Option.map_eq_some_iff] at h
  obtain ⟨step, hstep, rfl⟩ := h
  refine ⟨step, hstep, ?_⟩
  rw [reached_succ hstep]
  exact transition _ step

theorem answer_at (h : steps[i]? = some step) : ∃ answer, (s.run steps)[i]? = some answer ∧
    Transition (s.reached steps i) step (s.reached steps (i + 1)) answer := by
  refine ⟨((s.reached steps i).step step).2, ?_, ?_⟩
  · rw [getElem?_run, h, Option.map_some]
  · rw [reached_succ h]
    exact transition _ step

/-- At every index a step is taken, or the run is over. -/
theorem next (s : Session) (steps : List Step) (i : Nat) :
    (steps[i]? = none ∧ s.reached steps (i + 1) = s.reached steps i) ∨
      ∃ step answer, steps[i]? = some step ∧ (s.run steps)[i]? = some answer ∧
        Transition (s.reached steps i) step (s.reached steps (i + 1)) answer := by
  cases hstep : steps[i]? with
  | none => exact Or.inl ⟨rfl, reached_succ_of_none hstep⟩
  | some step =>
    obtain ⟨answer, hanswer, ht⟩ := answer_at hstep
    exact Or.inr ⟨step, answer, rfl, hanswer, ht⟩

theorem environment_after_append (environment : Environment) (steps : List Step) (step : Step) :
    environment.after (steps ++ [step]) = (environment.after steps).after [step] := by
  induction steps generalizing environment with
  | nil => rfl
  | cons first steps ih =>
    cases first with
    | set changes => exact ih (environment.change changes)
    | _ => exact ih environment

theorem environment_reached (s : Session) (steps : List Step) (i : Nat) :
    (s.reached steps i).environment = s.environment.after (steps.take i) := by
  induction i with
  | zero => rfl
  | succ i ih =>
    rw [List.take_add_one]
    rcases next s steps i with ⟨hstep, h⟩ | ⟨step, answer, hstep, -, ht⟩
    · rw [hstep, h, ih, Option.toList_none, List.append_nil]
    · rw [hstep, ht.environment_eq, ih, Option.toList_some, environment_after_append]

/-- What each step keeps from some index on holds later. -/
theorem reached_keeps {P : Session → Prop} (h : P (s.reached steps i)) (hij : i ≤ j)
    (hkeeps : ∀ k step next answer, i ≤ k → k < j → steps[k]? = some step →
      Transition (s.reached steps k) step next answer → P (s.reached steps k) → P next) :
    P (s.reached steps j) := by
  induction hij with
  | refl => exact h
  | step hij ih =>
    rename_i j
    have hprev := ih fun k step next answer hik hkj => hkeeps k step next answer hik (Nat.lt_succ_of_lt hkj)
    rcases next s steps j with ⟨-, hsame⟩ | ⟨step, answer, hstep, -, ht⟩
    · rw [hsame]
      exact hprev
    · exact hkeeps j step _ answer hij (Nat.lt_succ_self j) hstep ht hprev

theorem count_reached_le (s : Session) (steps : List Step) (h : i ≤ j) :
    (s.reached steps i).count ≤ (s.reached steps j).count := by
  refine reached_keeps (P := fun later => (s.reached steps i).count ≤ later.count) (Nat.le_refl _) h ?_
  intro k step next answer _ _ _ ht hle
  exact Nat.le_trans hle ht.count_le

/-- The step is not taken between two others. -/
def NoneBetween (steps : List Step) (step : Step) (i j : Nat) : Prop :=
  ∀ k, i < k → k < j → steps[k]? ≠ some step

/-- What is in the cache stays there until it is cleared. -/
theorem kept (h : (s.reached steps (i + 1)).cache = some l) (hij : i + 1 ≤ j) (hclear : NoneBetween steps .clear i j) :
    (s.reached steps j).cache = some l := by
  refine reached_keeps (P := fun later => later.cache = some l) h hij ?_
  intro k step next answer hik hkj hstep ht hcache
  refine ht.kept hcache ?_
  rintro rfl
  exact hclear k hik hkj hstep

/-- An empty cache stays empty until somebody asks. -/
theorem empty (h : (s.reached steps (i + 1)).cache = none) (hij : i + 1 ≤ j) (hget : NoneBetween steps .get i j) :
    (s.reached steps j).cache = none := by
  refine reached_keeps (P := fun later => later.cache = none) h hij ?_
  intro k step next answer hik hkj hstep ht hcache
  refine ht.empty hcache ?_
  rintro rfl
  exact hget k hik hkj hstep

end Run

/-! ## Where settings come from -/

section Origin
variable {environment : Environment} {steps : List Step} {i j : Nat} {l : Loaded}

/-- The step of an index loads these settings, from the environment of that moment. -/
def LoadsAt (environment : Environment) (steps : List Step) (i : Nat) (settings : Settings) : Prop :=
  ∃ step arguments, steps[i]? = some step ∧ step.arguments? = some arguments ∧
    load (environment.after (steps.take i)) arguments = .ok settings ∧
    ChosenStatus (environment.after (steps.take i)) arguments settings.rejectionStatus

theorem loadsAt_of_answer (h : ((start environment).run steps)[i]? = some (.loaded l)) :
    ((start environment).reached steps i).cache = some l ∨
      (LoadsAt environment steps i l.settings ∧ l.serial < ((start environment).reached steps (i + 1)).count) := by
  obtain ⟨step, hstep, ht⟩ := transition_at h
  rcases ht.loaded_cases with hcache | ⟨arguments, harguments, hload, hserial, hcount⟩
  · exact Or.inl hcache
  · rw [environment_reached] at hload
    refine Or.inr ⟨⟨step, arguments, hstep, harguments, hload, chosenStatus_of_load hload⟩, ?_⟩
    omega

/-- What is in the cache was loaded by an earlier step, and counted. -/
theorem loadedBefore_of_cache (h : ((start environment).reached steps i).cache = some l) :
    (∃ k, k < i ∧ LoadsAt environment steps k l.settings) ∧
      l.serial < ((start environment).reached steps i).count := by
  induction i with
  | zero => cases h
  | succ i ih =>
    have earlier : ((start environment).reached steps i).cache = some l →
        (∃ k, k < i + 1 ∧ LoadsAt environment steps k l.settings) ∧
          l.serial < ((start environment).reached steps (i + 1)).count := by
      intro hcache
      obtain ⟨⟨k, hk, hloads⟩, hserial⟩ := ih hcache
      exact ⟨⟨k, by omega, hloads⟩, Nat.lt_of_lt_of_le hserial (count_reached_le _ _ (Nat.le_succ i))⟩
    rcases next (start environment) steps i with ⟨-, hsame⟩ | ⟨step, answer, -, hanswer, ht⟩
    · rw [hsame] at h
      exact earlier h
    · -- The cache is as before, or was filled by this answer, which may itself come from there.
      rcases ht.cache_cases h with hcache | ⟨-, rfl⟩
      · exact earlier hcache
      · rcases loadsAt_of_answer hanswer with hcache | ⟨hloads, hserial⟩
        · exact earlier hcache
        · exact ⟨⟨i, Nat.lt_succ_self i, hloads⟩, hserial⟩

/-- What is answered was loaded by then, and counted. -/
theorem loadedBy_of_answer (h : ((start environment).run steps)[i]? = some (.loaded l)) :
    (∃ k, k ≤ i ∧ LoadsAt environment steps k l.settings) ∧
      l.serial < ((start environment).reached steps (i + 1)).count := by
  rcases loadsAt_of_answer h with hcache | ⟨hloads, hserial⟩
  · obtain ⟨⟨k, hk, hloads⟩, hserial⟩ := loadedBefore_of_cache hcache
    exact ⟨⟨k, by omega, hloads⟩, Nat.lt_of_lt_of_le hserial (count_reached_le _ _ (Nat.le_succ i))⟩
  · exact ⟨⟨i, Nat.le_refl i, hloads⟩, hserial⟩

end Origin

/-- The step of an index, and its answer. -/
def AnsweredAt (environment : Environment) (steps : List Step) (i : Nat) (step : Step) (answer : Answer) : Prop :=
  steps[i]? = some step ∧ ((start environment).run steps)[i]? = some answer

theorem AnsweredAt.transition {environment : Environment} {steps : List Step} {i : Nat} {step : Step} {answer : Answer}
    (h : AnsweredAt environment steps i step answer) : Transition ((start environment).reached steps i) step
      ((start environment).reached steps (i + 1)) answer := by
  obtain ⟨hstep, hanswer⟩ := h
  obtain ⟨_, hstep', ht⟩ := transition_at hanswer
  obtain rfl := Option.some.inj (hstep.symm.trans hstep')
  exact ht

/-- **What a session keeps.**  Whatever settings are answered were loaded by a step so far, and their status is the one
chosen at that moment, between 400 and 499.  Whoever asks is answered with the settings that were answered before, until
the cache is cleared.  A failure leaves the cache empty, and the environment alone decides when somebody asks the next
time.  Settings that are made with arguments of their own are none of those answered before. -/
theorem session_keeps (environment : Environment) (steps : List Step) :
    (∀ i step l, AnsweredAt environment steps i step (.loaded l) →
      400 ≤ l.settings.rejectionStatus ∧ l.settings.rejectionStatus ≤ 499 ∧
        ∃ k, k ≤ i ∧ LoadsAt environment steps k l.settings) ∧
    (∀ i j l, i < j → AnsweredAt environment steps i .get (.loaded l) → NoneBetween steps .clear i j →
      steps[j]? = some .get → AnsweredAt environment steps j .get (.loaded l)) ∧
    (∀ i complaints, AnsweredAt environment steps i .get (.refused complaints) →
      ((start environment).reached steps (i + 1)).cache = none ∧
        ∀ j, i < j → NoneBetween steps .get i j → steps[j]? = some .get →
          ∃ answer, AnsweredAt environment steps j .get answer ∧
            answer.outcome? = some (load (environment.after (steps.take j)) [])) ∧
    ∀ i j step l arguments l', i < j → AnsweredAt environment steps i step (.loaded l) →
      AnsweredAt environment steps j (.make arguments) (.loaded l') → l'.serial ≠ l.serial := by
  refine ⟨fun i step l h => ?_, fun i j l hij hi hclear hj => ?_, fun i complaints hi => ?_,
    fun i j step l arguments l' hij hi hj => ?_⟩
  · obtain ⟨hloads, -⟩ := loadedBy_of_answer h.2
    exact ⟨l.settings.isClientStatus.1, l.settings.isClientStatus.2, hloads⟩
  · have hcache := kept hi.transition.cache_of_get hij hclear
    obtain ⟨answer, hanswer, ht⟩ := answer_at (s := start environment) hj
    obtain rfl := ht.answer_of_kept hcache
    exact ⟨hj, hanswer⟩
  · refine ⟨hi.transition.cache_of_refused, fun j hij hnone hj => ?_⟩
    have hcache := empty hi.transition.cache_of_refused hij hnone
    obtain ⟨answer, hanswer, ht⟩ := answer_at (s := start environment) hj
    refine ⟨answer, ⟨hj, hanswer⟩, ?_⟩
    rw [ht.outcome_of_empty hcache, environment_reached]
    rfl
  · -- What is made is numbered by how much was made before, and the earlier answer is counted there.
    obtain ⟨-, hserial⟩ := loadedBy_of_answer hi.2
    have hcount : ((start environment).reached steps (i + 1)).count ≤ ((start environment).reached steps j).count :=
      count_reached_le (start environment) steps hij
    have hnew := hj.transition.serial_of_make
    omega

deriving instance DecidableEq for Answer

/-- A status that is none is refused at first.  What is answered then stays when it is no longer what the environment
says, and after other settings were made. -/
theorem session_keeps_first_answer :
    let name := "FEATUREKIT_VALIDATION_ERROR_STATUS"
    let arguments : Arguments := [("validation_error_status", .decimal (.finite ⟨false, 404, 0⟩ (by decide)))]
    let steps : List Step := [.set [(name, some "500")], .get, .set [(name, some " +422.0 ")], .get,
      .set [(name, none)], .make arguments, .get]
    let complaints : List Complaint := [⟨"validation_error_status", .status 500⟩]
    let first : Loaded := ⟨0, { Settings.standard with rejectionStatus := 422, isClientStatus := by decide }⟩
    let other : Loaded := ⟨1, { Settings.standard with rejectionStatus := 404, isClientStatus := by decide }⟩
    AnsweredAt [] steps 1 .get (.refused complaints) ∧ AnsweredAt [] steps 3 .get (.loaded first) ∧
      AnsweredAt [] steps 5 (.make arguments) (.loaded other) ∧
      (∃ k, k ≤ 5 ∧ LoadsAt [] steps k other.settings) ∧ AnsweredAt [] steps 6 .get (.loaded first) ∧
      (∃ answer, AnsweredAt [] steps 3 .get answer ∧
        answer.outcome? = some (load (Environment.after [] (steps.take 3)) [])) ∧
      other.serial ≠ first.serial := by
  intro name arguments steps complaints first other
  have hrun : (start []).run steps = [.done, .refused complaints, .done, .loaded first, .done, .loaded other,
      .loaded first] := by
    decide +kernel
  have hrefused : AnsweredAt [] steps 1 .get (.refused complaints) := ⟨rfl, congrArg (·[1]?) hrun⟩
  have hfirst : AnsweredAt [] steps 3 .get (.loaded first) := ⟨rfl, congrArg (·[3]?) hrun⟩
  have hother : AnsweredAt [] steps 5 (.make arguments) (.loaded other) := ⟨rfl, congrArg (·[5]?) hrun⟩
  have hclear : NoneBetween steps .clear 3 6 := by
    intro k hk hk'
    obtain rfl | rfl : k = 4 ∨ k = 5 := by omega
    · exact nofun
    · exact nofun
  have hget : NoneBetween steps .get 1 3 := by
    intro k hk hk'
    obtain rfl : k = 2 := by omega
    exact nofun
  obtain ⟨hstatus, hkept, hfailed, hnew⟩ := session_keeps [] steps
  exact ⟨hrefused, hfirst, hother, (hstatus 5 _ other hother).2.2, hkept 3 6 first (by decide) hfirst hclear rfl,
    (hfailed 1 complaints hrefused).2 3 (by decide) hget rfl,
    hnew 3 5 _ first arguments other (by decide) hfirst hother⟩

end Session

end Intake.Settings
