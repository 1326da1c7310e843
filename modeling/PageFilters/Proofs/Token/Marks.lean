import PageFilters.Proofs.Scope.Changes
import PageFilters.Proofs.Scope.Memory
import PageFilters.Proofs.Token.Cutting

/-!
# Kinds within a line

While a line is cut, the changes of the scope stack are made in their order, and
cutting goes through exactly if all of them can be made.  A character is given
the kind of the stack on which those changes have been made that precede the
first one behind it, in whatever order the offsets come.
-/

namespace PageFilters

section Pieces

variable {length : Nat} {text rest : List Char} {state behind : CutState} {tokens : List Token}

theorem cutPiece_stack (cut : cutPiece length text state = .ok (tokens, rest, behind)) :
    behind.stack = state.stack := by
  unfold cutPiece at cut
  split at cut
  next =>
      cases cut
      rfl
  next =>
      split at cut
      next => cases cut
      next =>
          cases cut
          rfl

theorem markedChars_cutPiece (sound : state.memory.Sound)
    (cut : cutPiece length text state = .ok (tokens, rest, behind)) :
    Token.markedChars tokens =
        (Token.chars tokens).map (·, kindOfScopes none state.stack.scopes) ∧
      behind.memory.Sound := by
  unfold cutPiece at cut
  split at cut
  next =>
      cases cut
      exact ⟨rfl, sound⟩
  next =>
      split at cut
      next => cases cut
      next =>
          cases cut
          obtain ⟨kind, soundBehind⟩ := sound.kindOf none state.stack.scopes
          rw [← kind]
          exact ⟨by simp, soundBehind⟩

theorem eq_offBoundary_of_cutPiece {fault : CutFault}
    (failed : cutPiece length text state = .error fault) : fault = .offBoundary length := by
  unfold cutPiece at failed
  split at failed
  next => cases failed
  next =>
      split at failed
      next =>
          cases failed
          rfl
      next => cases failed

end Pieces

section Changes

variable {change : ScopeChange} {stop start : Nat} {rest : List Char} {state last : CutState}
  {ops : List (Nat × ScopeOp)} {tokens : List Token}

theorem all_of_cutRest (cut : cutRest change stop start rest state ops = .ok (tokens, last)) :
    change.all state.stack ops = .ok last.stack := by
  induction ops generalizing start rest state tokens with
  | nil =>
      obtain ⟨left, found⟩ := cutRest_nil_eq_ok_iff.mp cut
      rw [cutPiece_stack found]
      rfl
  | cons entry ops induction =>
      obtain ⟨offset, op⟩ := entry
      obtain ⟨front, behind, reached, stack, later, piece, changed, others, rfl⟩ :=
        cutRest_cons_eq_ok_iff.mp cut
      rw [cutPiece_stack piece] at changed
      exact ScopeChange.all_cons_eq_ok_iff.mpr ⟨stack, changed, induction others⟩

theorem all_of_cutRest_error {reason : ScopeFault}
    (failed : cutRest change stop start rest state ops = .error (.scopes reason)) :
    change.all state.stack ops = .error reason := by
  induction ops generalizing start rest state with
  | nil => cases eq_offBoundary_of_cutPiece (cutRest_nil_eq_error_iff.mp failed)
  | cons entry ops induction =>
      obtain ⟨offset, op⟩ := entry
      rcases cutRest_cons_eq_error_iff.mp failed with
        piece | ⟨front, behind, reached, piece, ⟨found, unmade, same⟩ | ⟨stack, made, others⟩⟩
      · cases eq_offBoundary_of_cutPiece piece
      · cases same
        rw [cutPiece_stack piece] at unmade
        exact Outcome.bind_eq_error_iff.mpr (.inl unmade)
      · rw [cutPiece_stack piece] at made
        exact Outcome.bind_eq_error_iff.mpr (.inr ⟨stack, made, induction others⟩)

theorem cutLine_eq_error_iff {line : List Char} {fault : CutFault}
    (onBoundaries : OnBoundaries line ops) :
    cutLine change line state ops = .error fault ↔
      ∃ reason, fault = .scopes reason ∧ change.all state.stack ops = .error reason := by
  constructor
  · intro failed
    obtain ⟨reason, rfl⟩ := cutLine_error onBoundaries failed
    exact ⟨reason, rfl, all_of_cutRest_error failed⟩
  · rintro ⟨reason, rfl, unmade⟩
    cases outcome : cutLine change line state ops with
    | ok found =>
        have made := all_of_cutRest outcome
        rw [unmade] at made
        cases made
    | error fault =>
        obtain ⟨found, rfl⟩ := cutLine_error onBoundaries outcome
        have same : Except.error reason = Except.error found :=
          unmade.symm.trans (all_of_cutRest_error outcome)
        cases same
        rfl

end Changes

/-- A character at some offset of what is left of a line gets the kind of the
stack behind the changes in front of the first one at a greater offset. -/
theorem markedChars_cutRest {change : ScopeChange} {stop start : Nat} {rest front back : List Char}
    {char : Char} {state last : CutState} {ops : List (Nat × ScopeOp)} {tokens : List Token}
    (sized : start + Text.size rest = stop) (sound : state.memory.Sound)
    (cut : cutRest change stop start rest state ops = .ok (tokens, last))
    (parts : rest = front ++ char :: back) :
    ∃ stack,
      change.all state.stack (ops.takeWhile (·.1 ≤ start + Text.size front)) = .ok stack ∧
        (Token.markedChars tokens)[front.length]? =
          some (char, kindOfScopes none stack.scopes) := by
  induction ops generalizing start rest front state tokens with
  | nil =>
      refine ⟨state.stack, rfl, ?_⟩
      have chars := (cutRest_ok sized cut).1
      obtain ⟨left, found⟩ := cutRest_nil_eq_ok_iff.mp cut
      rw [(markedChars_cutPiece sound found).1, chars, parts]
      simp
  | cons entry ops induction =>
      obtain ⟨offset, op⟩ := entry
      obtain ⟨first, behind, reached, stack, later, piece, changed, others, rfl⟩ :=
        cutRest_cons_eq_ok_iff.mp cut
      obtain ⟨together, behindSized, -⟩ := cutPiece_ok piece
      obtain ⟨marked, soundBehind⟩ := markedChars_cutPiece sound piece
      have pieceSized := congrArg Text.size together
      have restSized := congrArg Text.size parts
      simp only [Text.size_append, Text.size_cons] at pieceSized restSized
      have positive := char.utf8Size_pos
      rw [parts] at together
      rw [Token.markedChars_append, marked]
      by_cases counts : offset ≤ start + Text.size front
      · -- The piece ends in front of the character, so the change counts for it.
        obtain ⟨between, rfl, rfl⟩ := Text.exists_between together (by omega)
        rw [Text.size_append] at counts ⊢
        have reachedOffset : max start (min offset stop) + Text.size between =
            start + (Text.size (Token.chars first) + Text.size between) := by omega
        have sizedBehind : max start (min offset stop) + Text.size (between ++ char :: back) =
            stop := by omega
        have soundChanged : ({ reached with stack := stack } : CutState).memory.Sound := soundBehind
        obtain ⟨found, made, kind⟩ := induction sizedBehind soundChanged others rfl
        rw [reachedOffset] at made
        rw [cutPiece_stack piece] at changed
        refine ⟨found, ?_, ?_⟩
        · rw [List.takeWhile_cons_of_pos (by simpa using counts)]
          exact ScopeChange.all_cons_eq_ok_iff.mpr ⟨stack, changed, made⟩
        · rw [List.length_append, List.getElem?_append_right (by simp), List.length_map,
            Nat.add_sub_cancel_left]
          exact kind
      · -- The piece goes on behind the character, so no change counts for it any more.
        obtain ⟨beyond, covered⟩ := Text.exists_beyond together (by omega)
        refine ⟨state.stack, ?_, ?_⟩
        · rw [List.takeWhile_cons_of_neg (by simpa using counts)]
          rfl
        · rw [covered]
          simp

theorem markedChars_cutLine {change : ScopeChange} {line front back : List Char} {char : Char}
    {state last : CutState} {ops : List (Nat × ScopeOp)} {tokens : List Token}
    (sound : state.memory.Sound) (cut : cutLine change line state ops = .ok (tokens, last))
    (parts : line = front ++ char :: back) :
    ∃ stack,
      change.all state.stack (ops.takeWhile (·.1 ≤ Text.size front)) = .ok stack ∧
        (Token.markedChars tokens)[front.length]? =
          some (char, kindOfScopes none stack.scopes) := by
  have found := markedChars_cutRest (Nat.zero_add _) sound cut parts
  rw [Nat.zero_add] at found
  exact found

end PageFilters
