import PageFilters.Proofs.Outcome
import PageFilters.Proofs.Scope.Memory
import PageFilters.Token.Stream

/-!
# Tokens do not depend on what is remembered

While lines are cut, classes of scopes are remembered.  States that differ only
in what they remember lead to the same tokens and the same faults, and to
states that again differ only in this.
-/

namespace PageFilters

open Outcome (Alike)

/-- Two states have the same scopes, and remember nothing but their classes. -/
structure CutState.SameScopes (left right : CutState) : Prop where
  stack : left.stack = right.stack
  leftSound : left.memory.Sound
  rightSound : right.memory.Sound

theorem CutState.SameScopes.refl {state : CutState} (sound : state.memory.Sound) :
    state.SameScopes state :=
  ⟨rfl, sound, sound⟩

theorem CutState.SameScopes.forget {state : CutState} (sound : state.memory.Sound) :
    state.SameScopes { stack := state.stack } :=
  ⟨rfl, sound, ClassMemory.sound_empty⟩

theorem CutState.SameScopes.kind {left right : CutState} (same : left.SameScopes right) :
    (left.stack.kind left.memory).1 = (right.stack.kind right.memory).1 ∧
      { left with memory := (left.stack.kind left.memory).2 : CutState }.SameScopes
        { right with memory := (right.stack.kind right.memory).2 } := by
  obtain ⟨leftKind, leftBehind⟩ := same.leftSound.kindOf none left.stack.scopes
  obtain ⟨rightKind, rightBehind⟩ := same.rightSound.kindOf none right.stack.scopes
  refine ⟨?_, same.stack, leftBehind, rightBehind⟩
  rw [ScopeStack.kind, ScopeStack.kind, leftKind, rightKind, same.stack]

theorem cutPiece_alike (length : Nat) (text : List Char) {left right : CutState}
    (same : left.SameScopes right) :
    Alike (fun found other => found.1 = other.1 ∧ found.2.1 = other.2.1 ∧
        found.2.2.SameScopes other.2.2)
      (cutPiece length text left) (cutPiece length text right) := by
  unfold cutPiece
  split
  next => exact .ok ⟨rfl, rfl, same⟩
  next =>
      split
      next => exact .error _
      next piece rest cut =>
          obtain ⟨kind, behind⟩ := same.kind
          exact .ok ⟨congrArg (fun kind => [Token.mk kind _]) kind, rfl, behind⟩

theorem cutRest_alike (change : ScopeChange) (stop start : Nat) (rest : List Char)
    (ops : List (Nat × ScopeOp)) {left right : CutState} (same : left.SameScopes right) :
    Alike (fun found other => found.1 = other.1 ∧ found.2.SameScopes other.2)
      (cutRest change stop start rest left ops) (cutRest change stop start rest right ops) := by
  induction ops generalizing start rest left right with
  | nil =>
      rw [cutRest, cutRest]
      refine (cutPiece_alike _ rest same).bind ?_
      rintro ⟨tokens, behind, found⟩ ⟨_, _, other⟩ ⟨rfl, _, reached⟩
      exact .ok ⟨rfl, reached⟩
  | cons entry ops induction =>
      obtain ⟨offset, op⟩ := entry
      rw [cutRest, cutRest]
      refine (cutPiece_alike _ rest same).bind ?_
      rintro ⟨front, behind, found⟩ ⟨_, _, other⟩ ⟨rfl, rfl, reached⟩
      dsimp only at reached ⊢
      rw [reached.stack]
      refine Alike.bind (Alike.refl _) ?_
      rintro stack _ rfl
      have changed : { found with stack := stack : CutState }.SameScopes
          { other with stack := stack } :=
        ⟨rfl, reached.leftSound, reached.rightSound⟩
      refine (induction _ behind changed).bind ?_
      rintro ⟨later, last⟩ ⟨_, otherLast⟩ ⟨rfl, ended⟩
      exact .ok ⟨rfl, ended⟩

theorem cutLine_alike (change : ScopeChange) (line : List Char) (ops : List (Nat × ScopeOp))
    {left right : CutState} (same : left.SameScopes right) :
    Alike (fun found other => found.1 = other.1 ∧ found.2.SameScopes other.2)
      (cutLine change line left ops) (cutLine change line right ops) :=
  cutRest_alike change _ 0 line ops same

theorem TokenStream.takeLine_alike {σ : Type} (engine : Engine σ) (left right : TokenStream σ)
    (parser : left.parser = right.parser) (same : left.cutting.SameScopes right.cutting)
    (line : List Char) :
    Alike (fun found other => found.1 = other.1 ∧ found.2.1 = other.2.1 ∧
        found.2.2.SameScopes other.2.2)
      (left.takeLine engine line) (right.takeLine engine line) := by
  rw [takeLine, takeLine, parser]
  refine Alike.bind (Alike.refl _) ?_
  rintro ⟨ops, behind⟩ _ rfl
  refine (cutLine_alike engine.change line ops same).bind ?_
  rintro ⟨tokens, found⟩ ⟨_, other⟩ ⟨rfl, reached⟩
  exact .ok ⟨rfl, rfl, reached⟩

end PageFilters
