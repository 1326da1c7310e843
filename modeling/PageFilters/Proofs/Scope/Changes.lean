import PageFilters.Proofs.Outcome
import PageFilters.Token.Stream

/-!
# Changes of the scope stack in sequence

The changes that an engine answers are made one after the other, until one of
them fails.
-/

namespace PageFilters.ScopeChange

/-- The stack behind changes that are made in order, wherever they stand. -/
def all (change : ScopeChange) (stack : ScopeStack) (ops : List (Nat × ScopeOp)) :
    Except ScopeFault ScopeStack :=
  ops.foldlM (fun stack entry => change stack entry.2) stack

variable {change : ScopeChange} {stack last : ScopeStack} {entry : Nat × ScopeOp}
  {ops front back : List (Nat × ScopeOp)}

theorem all_cons_eq_ok_iff :
    change.all stack (entry :: ops) = .ok last ↔
      ∃ reached, change stack entry.2 = .ok reached ∧ change.all reached ops = .ok last :=
  Outcome.bind_eq_ok_iff

theorem all_append_eq_ok_iff :
    change.all stack (front ++ back) = .ok last ↔
      ∃ reached, change.all stack front = .ok reached ∧ change.all reached back = .ok last := by
  rw [all, List.foldlM_append]
  exact Outcome.bind_eq_ok_iff

theorem all_eq_error_iff {reason : ScopeFault} :
    change.all stack ops = .error reason ↔
      ∃ before entry after reached, ops = before ++ entry :: after ∧
        change.all stack before = .ok reached ∧ change reached entry.2 = .error reason := by
  constructor
  · intro failed
    induction ops generalizing stack with
    | nil => cases failed
    | cons entry ops induction =>
        rcases Outcome.bind_eq_error_iff.mp failed with unmade | ⟨reached, made, others⟩
        · exact ⟨[], entry, ops, stack, rfl, rfl, unmade⟩
        · obtain ⟨before, later, after, last, rfl, madeBefore, unmade⟩ := induction others
          have madeAll : change.all stack (entry :: before) = .ok last :=
            all_cons_eq_ok_iff.mpr ⟨reached, made, madeBefore⟩
          exact ⟨entry :: before, later, after, last, rfl, madeAll, unmade⟩
  · rintro ⟨before, entry, after, reached, rfl, made, unmade⟩
    rw [all, List.foldlM_append]
    apply Outcome.bind_eq_error_iff.mpr
    right
    refine ⟨reached, made, ?_⟩
    exact Outcome.bind_eq_error_iff.mpr (.inl unmade)

end PageFilters.ScopeChange
