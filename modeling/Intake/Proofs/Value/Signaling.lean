import Intake.Proofs.Value.Keys

/-! # Values that cannot be compared

Equality of two values has an answer unless a signaling not-a-number is reached on the way.  So where there is none
in either value, wherever it may be nested, there is an answer (`Value.hasSignaling_of_equal?_eq_none`).
-/
namespace Intake
namespace Value

/-- A signaling not-a-number is the value, or is held by it. -/
inductive HasSignaling : Value → Prop where
  | number (negative : Bool) (payload : Nat) : HasSignaling (.decimal (.nan negative true payload))
  | list {xs : List Value} {x : Value} (hx : x ∈ xs) (h : HasSignaling x) : HasSignaling (.list xs)
  | tuple {xs : List Value} {x : Value} (hx : x ∈ xs) (h : HasSignaling x) : HasSignaling (.tuple xs)
  | map {entries : List (Value × Value)} {e : Value × Value} (he : e ∈ entries) (h : HasSignaling e.2) :
      HasSignaling (.map entries)

/-- Only a decimal number signals. -/
theorem hasSignaling_of_number? {v : Value} {n : ExtendedNumber} (hv : v.number? = some n)
    (hn : n.isSignaling = true) : v.HasSignaling := by
  unfold number? at hv
  split at hv
  · cases hv
    cases hn
  · cases hv
    cases hn
  · cases hv
    cases hn
  · cases hv
    cases hn
  · rename_i negative signaling payload
    cases hv
    have hs : signaling = true := hn
    subst hs
    exact .number negative payload
  · cases hv
    cases hn
  · cases hv
    cases hn
  · obtain ⟨x, -, rfl⟩ := Option.map_eq_some_iff.mp hv
    cases hn
  · cases hv

theorem same?_eq_none {m n : ExtendedNumber} (h : m.same? n = none) :
    m.isSignaling = true ∨ n.isSignaling = true := by
  unfold ExtendedNumber.same? at h
  split at h
  · rename_i hs
    exact Bool.or_eq_true_iff.mp hs
  · split at h
    · cases h
    · cases h
    · cases h

theorem andThen?_eq_none {a b : Option Bool} (h : andThen? a b = none) : a = none ∨ b = none := by
  unfold andThen? at h
  split at h
  · exact Or.inr h
  · exact Or.inl h

theorem mem_of_lookupBy {test : Value → Option Bool} {entries : List (Value × Value)} {w : Value}
    (h : lookupBy test entries = some w) : ∃ e ∈ entries, e.2 = w := by
  induction entries with
  | nil => cases h
  | cons e entries ih =>
    rw [lookupBy] at h
    split at h
    · cases h
      exact ⟨e, List.mem_cons_self, rfl⟩
    · obtain ⟨e', he', hw⟩ := ih h
      exact ⟨e', List.mem_cons_of_mem _ he', hw⟩

mutual

/-- **Without a signaling not-a-number, equality has an answer.** -/
theorem hasSignaling_of_equal?_eq_none : ∀ x y : Value, equal? x y = none →
    x.HasSignaling ∨ y.HasSignaling
  | x, y, h => by
      unfold equal? at h
      split at h
      · cases h
      · cases h
      · cases h
      · cases h
      · cases h
      · rename_i xs ys
        split at h
        · rcases hasSignaling_of_allEqual? xs ys h with ⟨x, hx, hs⟩ | ⟨y, hy, hs⟩
          · exact Or.inl (.list hx hs)
          · exact Or.inr (.list hy hs)
        · cases h
      · rename_i xs ys
        rcases hasSignaling_of_sameItems? xs ys h with ⟨x, hx, hs⟩ | ⟨y, hy, hs⟩
        · exact Or.inl (.tuple hx hs)
        · exact Or.inr (.tuple hy hs)
      · rename_i xs ys
        split at h
        · rcases hasSignaling_of_entriesIn? xs ys h with ⟨e, he, hs⟩ | ⟨e, he, hs⟩
          · exact Or.inl (.map he hs)
          · exact Or.inr (.map he hs)
        · cases h
      · split at h
        · rename_i m n hm hn
          rcases same?_eq_none h with hs | hs
          · exact Or.inl (hasSignaling_of_number? hm hs)
          · exact Or.inr (hasSignaling_of_number? hn hs)
        · cases h

theorem hasSignaling_of_allEqual? : ∀ xs ys : List Value, allEqual? xs ys = none →
    (∃ x ∈ xs, x.HasSignaling) ∨ ∃ y ∈ ys, y.HasSignaling
  | [], _, h => by cases h
  | _ :: _, [], h => by cases h
  | x :: xs, y :: ys, h => by
      rcases andThen?_eq_none h with h | h
      · rcases hasSignaling_of_equal?_eq_none x y h with hs | hs
        · exact Or.inl ⟨x, List.mem_cons_self, hs⟩
        · exact Or.inr ⟨y, List.mem_cons_self, hs⟩
      · rcases hasSignaling_of_allEqual? xs ys h with ⟨x', hx, hs⟩ | ⟨y', hy, hs⟩
        · exact Or.inl ⟨x', List.mem_cons_of_mem _ hx, hs⟩
        · exact Or.inr ⟨y', List.mem_cons_of_mem _ hy, hs⟩

theorem hasSignaling_of_sameItems? : ∀ xs ys : List Value, sameItems? xs ys = none →
    (∃ x ∈ xs, x.HasSignaling) ∨ ∃ y ∈ ys, y.HasSignaling
  | [], [], h => by cases h
  | [], _ :: _, h => by cases h
  | _ :: _, [], h => by cases h
  | x :: xs, y :: ys, h => by
      rcases andThen?_eq_none h with h | h
      · rcases hasSignaling_of_equal?_eq_none x y h with hs | hs
        · exact Or.inl ⟨x, List.mem_cons_self, hs⟩
        · exact Or.inr ⟨y, List.mem_cons_self, hs⟩
      · rcases hasSignaling_of_sameItems? xs ys h with ⟨x', hx, hs⟩ | ⟨y', hy, hs⟩
        · exact Or.inl ⟨x', List.mem_cons_of_mem _ hx, hs⟩
        · exact Or.inr ⟨y', List.mem_cons_of_mem _ hy, hs⟩

theorem hasSignaling_of_entriesIn? : ∀ entries others : List (Value × Value),
    entriesIn? entries others = none →
    (∃ e ∈ entries, e.2.HasSignaling) ∨ ∃ e ∈ others, e.2.HasSignaling
  | [], _, h => by cases h
  | (k, v) :: entries, others, h => by
      rw [entriesIn?] at h
      split at h
      · cases h
      · rename_i w hw
        rcases andThen?_eq_none h with h | h
        · rcases hasSignaling_of_equal?_eq_none v w h with hs | hs
          · exact Or.inl ⟨(k, v), List.mem_cons_self, hs⟩
          · obtain ⟨e, he, rfl⟩ := mem_of_lookupBy hw
            exact Or.inr ⟨e, he, hs⟩
        · rcases hasSignaling_of_entriesIn? entries others h with ⟨e, he, hs⟩ | hs
          · exact Or.inl ⟨e, List.mem_cons_of_mem _ he, hs⟩
          · exact Or.inr hs

end

end Value

end Intake
