import Intake.Calendar.Zone

/-! # What a local reading means

A change of offset connects two readings of the local clock, the last one before it and the first one after it.
Between the two lie the readings that it skips, or the ones that it repeats.  When these stretches follow one
another without touching (`Zone.Spaced`), a reading is skipped by one change at most and repeated by one at most,
and `Zone.resolve` finds the right instant for each (`Zone.resolve_means`): the earliest one at which the clock
shows the reading, or, where there is none, the one that the offset from before the gap gives.  This determines
the instant (`Zone.Means.unique`).

The search for the offset goes by readings while the meaning is one of instants.  What joins them is that the
clock never falls back behind a change that has passed (`Zone.le_localTime`).  The inductions run over the
changes; what is left of a zone after its first change is the zone with the offset of that change and the changes
after it.
-/
namespace Intake.Zone

/-! ## Changes in order -/

/-- The later reading of a change is shown before the earlier reading of the next one. -/
def SpacedAfter (before : Int) : List OffsetChange → Prop
  | [] => True
  | c :: rest =>
    (∀ d ∈ rest.head?, c.utc + max before c.offset < d.utc + min c.offset d.offset) ∧
      SpacedAfter c.offset rest

/-- The changes of the zone are spaced. -/
def Spaced (z : Zone) : Prop := SpacedAfter z.initial z.changes

section Changes
variable {before : Int} {c d : OffsetChange} {rest changes : List OffsetChange} {t wall : Int} {z : Zone}

theorem offsetAt_cons_of_lt (h : t < c.utc) : offsetAt ⟨before, c :: rest⟩ t = before := by
  rw [offsetAt, offsetAfter, if_pos h]

theorem offsetAt_cons_of_le (h : c.utc ≤ t) :
    offsetAt ⟨before, c :: rest⟩ t = offsetAt ⟨c.offset, rest⟩ t := by
  rw [offsetAt, offsetAfter, if_neg (Int.not_lt.mpr h), offsetAt]

theorem localTime_nil (before t : Int) : localTime ⟨before, []⟩ t = t + before := rfl

theorem localTime_cons_of_lt (h : t < c.utc) : localTime ⟨before, c :: rest⟩ t = t + before := by
  rw [localTime, offsetAt_cons_of_lt h]

theorem localTime_cons_of_le (h : c.utc ≤ t) :
    localTime ⟨before, c :: rest⟩ t = localTime ⟨c.offset, rest⟩ t := by
  rw [localTime, offsetAt_cons_of_le h, localTime]

theorem Spaced.head_lt (h : Spaced ⟨before, c :: d :: rest⟩) :
    c.utc + max before c.offset < d.utc + min c.offset d.offset := h.1 d rfl

theorem Spaced.tail (h : Spaced ⟨before, c :: rest⟩) : Spaced ⟨c.offset, rest⟩ := h.2

/-- Spaced changes are in order of time. -/
theorem Spaced.utc_lt (h : Spaced ⟨before, c :: rest⟩) : ∀ d ∈ rest, c.utc < d.utc := by
  induction rest generalizing before c with
  | nil => exact nofun
  | cons e rest ih =>
    have hce := h.head_lt
    have hlt : c.utc < e.utc := by omega
    intro d hd
    rcases List.mem_cons.mp hd with rfl | hd
    · exact hlt
    · exact Int.lt_trans hlt (ih h.tail d hd)

/-- Before the first change the clock goes by the first offset. -/
theorem localTime_of_lt (h : ∀ d ∈ changes, t < d.utc) : localTime ⟨before, changes⟩ t = t + before := by
  cases changes with
  | nil => exact localTime_nil before t
  | cons c rest => exact localTime_cons_of_lt (h c List.mem_cons_self)

/-- From a change on, the clock shows nothing earlier than its first reading after the change. -/
theorem le_localTime_head (h : Spaced ⟨before, c :: rest⟩) (ht : c.utc ≤ t) :
    c.utc + c.offset ≤ localTime ⟨c.offset, rest⟩ t := by
  induction rest generalizing before c with
  | nil =>
    rw [localTime_nil]
    omega
  | cons d rest ih =>
    by_cases htd : t < d.utc
    · rw [localTime_cons_of_lt htd]
      omega
    · have hd : d.utc ≤ t := Int.not_lt.mp htd
      have hcd := h.head_lt
      have hle := ih h.tail hd
      rw [localTime_cons_of_le hd]
      omega

/-- **The clock never falls back behind a change that has passed.** -/
theorem le_localTime (h : z.Spaced) (hc : c ∈ z.changes) (ht : c.utc ≤ t) :
    c.utc + c.offset ≤ z.localTime t := by
  obtain ⟨before, changes⟩ := z
  induction changes generalizing before with
  | nil => cases hc
  | cons d rest ih =>
    rcases List.mem_cons.mp hc with rfl | hc
    · rw [localTime_cons_of_le ht]
      exact le_localTime_head h ht
    · have hdc := h.utc_lt c hc
      rw [localTime_cons_of_le (by omega)]
      exact ih d.offset h.tail hc

/-! ## Readings around a change -/

/-- A reading from before a change is first shown by the offset from before it. -/
theorem first_of_lt (rest : List OffsetChange) (hw : wall < c.utc + before) :
    localTime ⟨before, c :: rest⟩ (wall - before) = wall ∧
      ∀ s, localTime ⟨before, c :: rest⟩ s = wall → wall - before ≤ s := by
  constructor
  · rw [localTime_cons_of_lt (by omega)]
    omega
  · intro s hs
    by_cases hsc : s < c.utc
    · rw [localTime_cons_of_lt hsc] at hs
      omega
    · omega

/-- A reading between the two that a change connects is never shown. -/
theorem ne_of_skipped (h : Spaced ⟨before, c :: rest⟩) (hlow : c.utc + before ≤ wall)
    (hhigh : wall < c.utc + c.offset) (s : Int) : localTime ⟨before, c :: rest⟩ s ≠ wall := by
  by_cases hsc : s < c.utc
  · rw [localTime_cons_of_lt hsc]
    omega
  · have hle := le_localTime h List.mem_cons_self (Int.not_lt.mp hsc)
    omega

/-- For a reading from the later of the two on, nothing counts but what follows the change. -/
theorem localTime_eq_iff_tail (h : Spaced ⟨before, c :: rest⟩)
    (hw : c.utc + max before c.offset ≤ wall) :
    localTime ⟨before, c :: rest⟩ t = wall ↔ localTime ⟨c.offset, rest⟩ t = wall := by
  by_cases htc : t < c.utc
  · -- Both clocks stand before all their changes, and neither has come so far.
    have hrest : ∀ d ∈ rest, t < d.utc := fun d hd => Int.lt_trans htc (h.utc_lt d hd)
    rw [localTime_cons_of_lt htc, localTime_of_lt hrest]
    omega
  · rw [localTime_cons_of_le (Int.not_lt.mp htc)]

/-- The offset immediately before a later change does not depend on the first one. -/
theorem offsetAt_pred (h : Spaced ⟨before, c :: rest⟩) (hd : d ∈ rest) :
    offsetAt ⟨before, c :: rest⟩ (d.utc - 1) = offsetAt ⟨c.offset, rest⟩ (d.utc - 1) := by
  have hlt := h.utc_lt d hd
  exact offsetAt_cons_of_le (by omega)

end Changes

/-! ## The meaning of a reading -/

/-- The instant `t` is the one that a local reading means. -/
inductive Means (z : Zone) (wall t : Int) : Prop where
  /-- The clock shows the reading at the instant, and not before. -/
  | shown (h : z.localTime t = wall) (hfirst : ∀ s, z.localTime s = wall → t ≤ s)
  /-- The clock never shows the reading, because a change skips it; the offset in force immediately before the
  change gives the instant. -/
  | skipped (c : OffsetChange) (hc : c ∈ z.changes) (hnever : ∀ s, z.localTime s ≠ wall)
      (hlow : c.utc + z.offsetAt (c.utc - 1) ≤ wall) (hhigh : wall < c.utc + c.offset)
      (ht : t = wall - z.offsetAt (c.utc - 1))

variable {z : Zone} {wall : Int}

theorem resolve_cons_of_lt {before : Int} {c : OffsetChange} {rest : List OffsetChange}
    (h : wall < c.utc + max before c.offset) : resolve ⟨before, c :: rest⟩ wall = wall - before := by
  rw [resolve, readingOffset, readingOffsetAfter, if_pos h]

theorem resolve_cons_of_le {before : Int} {c : OffsetChange} {rest : List OffsetChange}
    (h : c.utc + max before c.offset ≤ wall) :
    resolve ⟨before, c :: rest⟩ wall = resolve ⟨c.offset, rest⟩ wall := by
  rw [resolve, readingOffset, readingOffsetAfter, if_neg (Int.not_lt.mpr h), resolve, readingOffset]

/-- A reading is resolved by the first offset or by that of a change. -/
theorem resolve_eq_sub (z : Zone) (wall : Int) :
    ∃ offset, (offset = z.initial ∨ ∃ c ∈ z.changes, offset = c.offset) ∧ z.resolve wall = wall - offset := by
  obtain ⟨before, changes⟩ := z
  induction changes generalizing before with
  | nil => exact ⟨before, Or.inl rfl, rfl⟩
  | cons c rest ih =>
    by_cases hw : wall < c.utc + max before c.offset
    · exact ⟨before, Or.inl rfl, resolve_cons_of_lt hw⟩
    · rw [resolve_cons_of_le (Int.not_lt.mp hw)]
      obtain ⟨offset, hoffset, hresolve⟩ := ih c.offset
      refine ⟨offset, Or.inr ?_, hresolve⟩
      rcases hoffset with rfl | ⟨d, hd, rfl⟩
      · exact ⟨c, List.mem_cons_self, rfl⟩
      · exact ⟨d, List.mem_cons_of_mem _ hd, rfl⟩

/-- **A reading is resolved to the instant that it means.** -/
theorem resolve_means (h : z.Spaced) (wall : Int) : z.Means wall (z.resolve wall) := by
  obtain ⟨before, changes⟩ := z
  induction changes generalizing before with
  | nil =>
    have hresolve : resolve ⟨before, []⟩ wall = wall - before := rfl
    refine .shown ?_ fun s hs => ?_
    · rw [localTime_nil, hresolve]
      omega
    · rw [localTime_nil] at hs
      omega
  | cons c rest ih =>
    by_cases hw : wall < c.utc + max before c.offset
    · rw [resolve_cons_of_lt hw]
      by_cases hlow : wall < c.utc + before
      · obtain ⟨hshown, hfirst⟩ := first_of_lt rest hlow
        exact .shown hshown hfirst
      · have hpred : offsetAt ⟨before, c :: rest⟩ (c.utc - 1) = before := offsetAt_cons_of_lt (by omega)
        refine .skipped c List.mem_cons_self (ne_of_skipped h (by omega) (by omega)) ?_ (by omega) ?_
        · rw [hpred]
          omega
        · rw [hpred]
    · have hle : c.utc + max before c.offset ≤ wall := Int.not_lt.mp hw
      rw [resolve_cons_of_le hle]
      cases ih c.offset h.tail with
      | shown hshown hfirst =>
        refine .shown ((localTime_eq_iff_tail h hle).mpr hshown) fun s hs => ?_
        exact hfirst s ((localTime_eq_iff_tail h hle).mp hs)
      | skipped d hd hnever hlow hhigh ht =>
        rw [← offsetAt_pred h hd] at hlow ht
        refine .skipped d (List.mem_cons_of_mem _ hd) (fun s hs => ?_) hlow hhigh ht
        exact hnever s ((localTime_eq_iff_tail h hle).mp hs)

/-- Of two changes that skip one reading, neither is the earlier one. -/
theorem utc_le_of_skipped (h : z.Spaced) {c d : OffsetChange} (hc : c ∈ z.changes)
    (hhigh : wall < c.utc + c.offset) (hlow : d.utc + z.offsetAt (d.utc - 1) ≤ wall) : d.utc ≤ c.utc := by
  refine Int.not_lt.mp fun hlt => ?_
  have hle : c.utc + c.offset ≤ z.localTime (d.utc - 1) := le_localTime h hc (by omega)
  have hshown : z.localTime (d.utc - 1) = d.utc - 1 + z.offsetAt (d.utc - 1) := rfl
  omega

/-- **A reading means one instant.** -/
theorem Means.unique (h : z.Spaced) {t u : Int} (ht : z.Means wall t) (hu : z.Means wall u) : t = u := by
  cases ht with
  | shown htshown htfirst =>
    cases hu with
    | shown hushown hufirst => exact Int.le_antisymm (htfirst u hushown) (hufirst t htshown)
    | skipped _ _ hnever => exact absurd htshown (hnever t)
  | skipped c hc hnever hclow hchigh ht =>
    cases hu with
    | shown hushown => exact absurd hushown (hnever u)
    | skipped d hd _ hdlow hdhigh hu =>
      have hcd : c.utc = d.utc :=
        Int.le_antisymm (utc_le_of_skipped h hd hdhigh hclow) (utc_le_of_skipped h hc hchigh hdlow)
      rw [ht, hu, hcd]

end Intake.Zone
