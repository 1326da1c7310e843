import PageFilters.Proofs.Outcome
import PageFilters.Proofs.Text.Cuts
import PageFilters.Proofs.Token.Runs
import PageFilters.Token.Stream

/-!
# What cutting a line leaves

The offsets of a line's changes may come in any order and lie beyond its end.
The pieces that are cut at them are nevertheless the whole line in order, and
none is empty.  If all offsets within the line lie between characters, cutting
fails only where a change of the stack does.
-/

namespace PageFilters

def Token.NoneEmpty (tokens : List Token) : Prop :=
  ∀ token ∈ tokens, token.text ≠ ""

@[simp] theorem Token.noneEmpty_nil : Token.NoneEmpty [] := by
  simp [Token.NoneEmpty]

@[simp] theorem Token.noneEmpty_cons {token : Token} {tokens : List Token} :
    Token.NoneEmpty (token :: tokens) ↔ token.text ≠ "" ∧ Token.NoneEmpty tokens := by
  simp [Token.NoneEmpty]

@[simp] theorem Token.noneEmpty_append {front back : List Token} :
    Token.NoneEmpty (front ++ back) ↔ Token.NoneEmpty front ∧ Token.NoneEmpty back := by
  simp [Token.NoneEmpty, or_imp, forall_and]

theorem Token.NoneEmpty.length_le {tokens : List Token} (noneEmpty : Token.NoneEmpty tokens) :
    tokens.length ≤ (Token.chars tokens).length := by
  induction tokens with
  | nil => simp
  | cons token tokens induction =>
      obtain ⟨nonempty, others⟩ := Token.noneEmpty_cons.mp noneEmpty
      have fewer := induction others
      have positive : 0 < token.text.toList.length :=
        List.length_pos_iff.mpr fun none => nonempty (String.toList_eq_nil_iff.mp none)
      rw [Token.chars_cons, List.length_append, List.length_cons]
      omega

theorem cutPiece_ok {length : Nat} {text rest : List Char} {state behind : CutState}
    {tokens : List Token} (cut : cutPiece length text state = .ok (tokens, rest, behind)) :
    Token.chars tokens ++ rest = text ∧ Text.size rest + length = Text.size text ∧
      Token.NoneEmpty tokens := by
  unfold cutPiece at cut
  by_cases zero : length = 0
  · simp only [zero, beq_self_eq_true, ↓reduceIte, Except.ok.injEq, Prod.mk.injEq] at cut
    obtain ⟨rfl, rfl, -⟩ := cut
    simp [zero]
  · simp only [beq_iff_eq, zero, ↓reduceIte] at cut
    split at cut
    · simp at cut
    next piece left found =>
        obtain ⟨rfl, sized⟩ := Text.splitAt?_eq_some_iff.mp found
        simp only [Except.ok.injEq, Prod.mk.injEq] at cut
        obtain ⟨rfl, rfl, -⟩ := cut
        have nonempty : piece ≠ [] := by
          rintro rfl
          exact zero sized.symm
        simp [sized, nonempty, Nat.add_comm]

theorem cutPiece_error {length : Nat} {text : List Char} {state : CutState} {fault : CutFault}
    (cut : cutPiece length text state = .error fault) :
    length ≠ 0 ∧ ¬ Text.IsBoundary text length := by
  unfold cutPiece at cut
  by_cases zero : length = 0
  · simp [zero] at cut
  · refine ⟨zero, ?_⟩
    simp only [beq_iff_eq, zero, ↓reduceIte] at cut
    split at cut
    next missing => simp [← Text.isSome_splitAt?_iff, missing]
    · simp at cut

/-- A piece goes over to the part in front, and the offset moves on behind it. -/
theorem parts_of_cutPiece {stop : Nat} {front rest behind : List Char} {state reached : CutState}
    {tokens : List Token}
    (cut : cutPiece (stop - Text.size front) rest state = .ok (tokens, behind, reached)) :
    front ++ rest = (front ++ Token.chars tokens) ++ behind ∧
      max (Text.size front) stop = Text.size (front ++ Token.chars tokens) := by
  obtain ⟨together, behindSized, -⟩ := cutPiece_ok cut
  have total := congrArg Text.size together
  rw [Text.size_append] at total ⊢
  constructor
  · rw [List.append_assoc, together]
  · omega

section Rests

variable {change : ScopeChange} {stop start offset : Nat} {op : ScopeOp} {rest : List Char}
  {state last : CutState} {ops : List (Nat × ScopeOp)} {tokens : List Token} {fault : CutFault}

theorem cutRest_nil_eq_ok_iff :
    cutRest change stop start rest state [] = .ok (tokens, last) ↔
      ∃ behind, cutPiece (stop - start) rest state = .ok (tokens, behind, last) := by
  rw [cutRest, Outcome.bind_eq_ok_iff]
  constructor
  · intro cut
    obtain ⟨⟨piece, behind, reached⟩, found, result⟩ := cut
    cases result
    exact ⟨behind, found⟩
  · intro cut
    obtain ⟨behind, found⟩ := cut
    exact ⟨_, found, rfl⟩

theorem cutRest_nil_eq_error_iff :
    cutRest change stop start rest state [] = .error fault ↔
      cutPiece (stop - start) rest state = .error fault := by
  rw [cutRest, Outcome.bind_eq_error_iff]
  constructor
  · intro failed
    rcases failed with piece | ⟨found, -, result⟩
    · exact piece
    · cases result
  · intro failed
    exact .inl failed

theorem cutRest_cons_eq_ok_iff :
    cutRest change stop start rest state ((offset, op) :: ops) = .ok (tokens, last) ↔
      ∃ front behind reached stack later,
        cutPiece (min offset stop - start) rest state = .ok (front, behind, reached) ∧
          change reached.stack op = .ok stack ∧
          cutRest change stop (max start (min offset stop)) behind
            { reached with stack := stack } ops = .ok (later, last) ∧
          tokens = front ++ later := by
  rw [cutRest]
  simp only [Outcome.bind_eq_ok_iff, Outcome.mapError_eq_ok_iff, Prod.exists]
  constructor
  · rintro ⟨front, behind, reached, piece, stack, changed, later, final, others, result⟩
    cases result
    exact ⟨front, behind, reached, stack, later, piece, changed, others, rfl⟩
  · rintro ⟨front, behind, reached, stack, later, piece, changed, others, rfl⟩
    exact ⟨front, behind, reached, piece, stack, changed, later, last, others, rfl⟩

/-- A line fails at one of its pieces or at one of its changes. -/
theorem cutRest_cons_eq_error_iff :
    cutRest change stop start rest state ((offset, op) :: ops) = .error fault ↔
      cutPiece (min offset stop - start) rest state = .error fault ∨
        ∃ front behind reached,
          cutPiece (min offset stop - start) rest state = .ok (front, behind, reached) ∧
            ((∃ reason, change reached.stack op = .error reason ∧ .scopes reason = fault) ∨
              ∃ stack, change reached.stack op = .ok stack ∧
                cutRest change stop (max start (min offset stop)) behind
                  { reached with stack := stack } ops = .error fault) := by
  rw [cutRest]
  simp only [Outcome.bind_eq_error_iff, Outcome.mapError_eq_error_iff,
    Outcome.mapError_eq_ok_iff, Prod.exists]
  constructor
  · intro failed
    rcases failed with piece | ⟨front, behind, reached, piece, failed⟩
    · exact .inl piece
    · refine .inr ⟨front, behind, reached, piece, ?_⟩
      rcases failed with unmade | ⟨stack, made, others | ⟨later, final, -, result⟩⟩
      · exact .inl unmade
      · exact .inr ⟨stack, made, others⟩
      · cases result
  · intro failed
    rcases failed with piece | ⟨front, behind, reached, piece, failed⟩
    · exact .inl piece
    · refine .inr ⟨front, behind, reached, piece, ?_⟩
      rcases failed with unmade | ⟨stack, made, others⟩
      · exact .inl unmade
      · exact .inr ⟨stack, made, .inl others⟩

theorem cutRest_ok (sized : start + Text.size rest = stop)
    (cut : cutRest change stop start rest state ops = .ok (tokens, last)) :
    Token.chars tokens = rest ∧ Token.NoneEmpty tokens := by
  induction ops generalizing start rest state tokens with
  | nil =>
      obtain ⟨left, found⟩ := cutRest_nil_eq_ok_iff.mp cut
      obtain ⟨together, leftSized, noneEmpty⟩ := cutPiece_ok found
      have nothingLeft : left = [] := Text.size_eq_zero_iff.mp (by omega)
      rw [nothingLeft, List.append_nil] at together
      exact ⟨together, noneEmpty⟩
  | cons entry ops induction =>
      obtain ⟨offset, op⟩ := entry
      obtain ⟨front, behind, reached, stack, later, piece, -, others, rfl⟩ :=
        cutRest_cons_eq_ok_iff.mp cut
      obtain ⟨together, behindSized, frontNoneEmpty⟩ := cutPiece_ok piece
      obtain ⟨laterChars, laterNoneEmpty⟩ := induction (by omega) others
      constructor
      · rw [Token.chars_append, laterChars, together]
      · exact Token.noneEmpty_append.mpr ⟨frontNoneEmpty, laterNoneEmpty⟩

end Rests

theorem cutLine_ok {change : ScopeChange} {line : List Char} {state last : CutState}
    {ops : List (Nat × ScopeOp)} {tokens : List Token}
    (cut : cutLine change line state ops = .ok (tokens, last)) :
    Token.chars tokens = line ∧ Token.NoneEmpty tokens :=
  cutRest_ok (Nat.zero_add _) cut

/-- Offsets that a line can be cut at: each lies between two of its characters,
or it does not lie within the line. -/
def OnBoundaries (line : List Char) (ops : List (Nat × ScopeOp)) : Prop :=
  ∀ entry ∈ ops, Text.IsBoundary line entry.1 ∨ Text.size line ≤ entry.1

theorem cutPiece_ne_error {front rest : List Char} {offset : Nat} (state : CutState)
    (fault : CutFault)
    (boundary : Text.IsBoundary (front ++ rest) offset ∨ Text.size (front ++ rest) ≤ offset) :
    cutPiece (min offset (Text.size (front ++ rest)) - Text.size front) rest state ≠
      .error fault := by
  intro failed
  obtain ⟨nonzero, notBoundary⟩ := cutPiece_error failed
  apply notBoundary
  have inside : Text.IsBoundary (front ++ rest) (min offset (Text.size (front ++ rest))) := by
    by_cases beyond : Text.size (front ++ rest) ≤ offset
    · rw [Nat.min_eq_right beyond]
      exact Text.isBoundary_size _
    · rw [Nat.min_eq_left (by omega)]
      exact boundary.resolve_right beyond
  exact inside.behind (by omega)

theorem cutRest_error {change : ScopeChange} {front rest : List Char} {state : CutState}
    {ops : List (Nat × ScopeOp)} {fault : CutFault} (onBoundaries : OnBoundaries (front ++ rest) ops)
    (cut : cutRest change (Text.size (front ++ rest)) (Text.size front) rest state ops =
      .error fault) :
    ∃ reason, fault = .scopes reason := by
  induction ops generalizing front rest state with
  | nil =>
      have possible := cutPiece_ne_error state fault
        (.inr (Nat.le_refl (Text.size (front ++ rest))))
      rw [Nat.min_self] at possible
      exact absurd (cutRest_nil_eq_error_iff.mp cut) possible
  | cons entry ops induction =>
      obtain ⟨offset, op⟩ := entry
      rcases cutRest_cons_eq_error_iff.mp cut with
        failed | ⟨piece, behind, reached, found, ⟨reason, -, same⟩ | ⟨stack, -, failed⟩⟩
      · exact absurd failed (cutPiece_ne_error state fault (onBoundaries _ List.mem_cons_self))
      · exact ⟨reason, same.symm⟩
      · -- The offsets are still proper where a part of the rest has gone over to the front.
        obtain ⟨parts, moved⟩ := parts_of_cutPiece found
        rw [moved, parts] at failed
        rw [parts] at onBoundaries
        exact induction (fun entry member => onBoundaries entry (List.mem_cons_of_mem _ member))
          failed

theorem cutLine_error {change : ScopeChange} {line : List Char} {state : CutState}
    {ops : List (Nat × ScopeOp)} {fault : CutFault} (onBoundaries : OnBoundaries line ops)
    (cut : cutLine change line state ops = .error fault) : ∃ reason, fault = .scopes reason := by
  have whole : OnBoundaries ([] ++ line) ops := onBoundaries
  exact cutRest_error whole cut

end PageFilters
