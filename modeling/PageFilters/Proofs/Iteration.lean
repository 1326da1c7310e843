/-!
# Asking again and again

Line cursors and token streams hand out their items by a function `next?` that
also gives the state behind an item.  Whoever asks is answered until nothing is
left; from then on the state stays as it is.  This module says what any number
of requests leads to, and how an invariant of one request carries over to all.
-/

namespace PageFilters.Iteration

variable {σ α : Type}

/-- The state behind one request. -/
def advance (next? : σ → Option (α × σ)) (state : σ) : σ :=
  match next? state with
  | some (_, following) => following
  | none => state

def behind (next? : σ → Option (α × σ)) : Nat → σ → σ
  | 0, state => state
  | count + 1, state => advance next? (behind next? count state)

/-- The items handed out by a number of requests, in order. -/
def handed (next? : σ → Option (α × σ)) : Nat → σ → List α
  | 0, _ => []
  | count + 1, state =>
      handed next? count state ++ ((next? (behind next? count state)).map (·.1)).toList

variable {next? : σ → Option (α × σ)} {state following : σ} {item : α} {count : Nat}

theorem behind_succ_of_some
    (found : next? (behind next? count state) = some (item, following)) :
    behind next? (count + 1) state = following := by
  simp [behind, advance, found]

theorem handed_succ_of_some
    (found : next? (behind next? count state) = some (item, following)) :
    handed next? (count + 1) state = handed next? count state ++ [item] := by
  simp [handed, found]

theorem behind_succ_of_none (ended : next? (behind next? count state) = none) :
    behind next? (count + 1) state = behind next? count state := by
  simp [behind, advance, ended]

theorem handed_succ_of_none (ended : next? (behind next? count state) = none) :
    handed next? (count + 1) state = handed next? count state := by
  simp [handed, ended]

/-- What one request keeps true of the items handed out and the state behind
them, any number of requests does. -/
theorem handed_behind_induction (Holds : List α → σ → Prop) (initial : Holds [] state)
    (step : ∀ items state item following, Holds items state →
      next? state = some (item, following) → Holds (items ++ [item]) following)
    (count : Nat) : Holds (handed next? count state) (behind next? count state) := by
  induction count with
  | zero => exact initial
  | succ count induction =>
      cases found : next? (behind next? count state) with
      | none =>
          rw [handed_succ_of_none found, behind_succ_of_none found]
          exact induction
      | some answer =>
          obtain ⟨item, following⟩ := answer
          rw [handed_succ_of_some found, behind_succ_of_some found]
          exact step _ _ _ _ induction found

theorem behind_add_of_none (ended : next? (behind next? count state) = none) (more : Nat) :
    behind next? (count + more) state = behind next? count state := by
  induction more with
  | zero => rfl
  | succ more induction =>
      have stillEnded : next? (behind next? (count + more) state) = none := by
        rw [induction]
        exact ended
      rw [← Nat.add_assoc, behind_succ_of_none stillEnded, induction]

theorem length_handed_le (next? : σ → Option (α × σ)) (state : σ) (count : Nat) :
    (handed next? count state).length ≤ count := by
  induction count with
  | zero => exact Nat.le_refl 0
  | succ count induction =>
      cases found : next? (behind next? count state) with
      | none =>
          rw [handed_succ_of_none found]
          omega
      | some answer =>
          obtain ⟨item, following⟩ := answer
          rw [handed_succ_of_some found, List.length_append, List.length_singleton]
          omega

theorem length_handed_or_ended (next? : σ → Option (α × σ)) (state : σ) (count : Nat) :
    (handed next? count state).length = count ∨ next? (behind next? count state) = none := by
  induction count with
  | zero => exact .inl rfl
  | succ count induction =>
      cases found : next? (behind next? count state) with
      | none =>
          right
          rw [behind_succ_of_none found]
          exact found
      | some answer =>
          obtain ⟨item, following⟩ := answer
          left
          rcases induction with full | ended
          · rw [handed_succ_of_some found, List.length_append, full]
            rfl
          · rw [ended] at found
            contradiction

/-- If no number of requests hands out more than `bound` items, the end is
reached behind any greater number. -/
theorem ended_of_length_handed_le {bound : Nat}
    (bounded : ∀ count, (handed next? count state).length ≤ bound) (beyond : bound < count) :
    next? (behind next? count state) = none := by
  rcases length_handed_or_ended next? state count with full | ended
  · have few := bounded count
    omega
  · exact ended

/-- If what has been handed out and what is still ahead are all items at every
moment, the items are handed out one after the other. -/
theorem handed_eq_take {all : List α} (ahead : σ → List α)
    (whole : ∀ count, handed next? count state ++ ahead (behind next? count state) = all)
    (ended : ∀ state, next? state = none → ahead state = []) (count : Nat) :
    handed next? count state = all.take count := by
  rcases length_handed_or_ended next? state count with full | atEnd
  · rw [← whole count]
    exact (List.take_left' full).symm
  · have few := length_handed_le next? state count
    have complete := whole count
    rw [ended _ atEnd, List.append_nil] at complete
    rw [← complete, List.take_of_length_le few]

theorem ended_iff_of_handed_eq_take {all : List α}
    (inOrder : ∀ count, handed next? count state = all.take count) :
    next? (behind next? count state) = none ↔ all.length ≤ count := by
  constructor
  · intro ended
    have noMore := handed_succ_of_none ended
    rw [inOrder, inOrder] at noMore
    have sameLength := congrArg List.length noMore
    rw [List.length_take, List.length_take] at sameLength
    omega
  · intro beyond
    cases found : next? (behind next? count state) with
    | none => rfl
    | some answer =>
        obtain ⟨item, following⟩ := answer
        have more := handed_succ_of_some found
        rw [inOrder, inOrder, List.take_of_length_le beyond,
          List.take_of_length_le (Nat.le_succ_of_le beyond)] at more
        simp at more

end PageFilters.Iteration
