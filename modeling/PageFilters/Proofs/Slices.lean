import PageFilters.Html.Escaped
import PageFilters.Proofs.Text.Boundaries
import PageFilters.Proofs.Token.Marks

/-!
# No slice goes wrong

Three loops run through a text and take slices of it: escaping copies the
stretches between entities, the line cursor cuts off one line after the other,
and a line is cut at the offsets of its changes.  For each of them the offsets
are listed here that it slices at, and all of them are boundaries in order,
whatever the text and in whatever order offsets come.
-/

namespace PageFilters

namespace Html

/-- The stretches that escaping copies when `rest` stands behind octet `offset`
and everything in front of octet `copied` has been written. -/
def stretches (stop : Nat) : (copied offset : Nat) → List Char → List (Nat × Nat)
  | copied, _, [] => [(copied, stop)]
  | copied, offset, char :: rest =>
      match entity? char with
      | none => stretches stop copied (offset + char.utf8Size) rest
      | some _ => (copied, offset) :: stretches stop (offset + 1) (offset + char.utf8Size) rest

/-- Stretches with the entities that stand between them. -/
def woven (pieces entities : List String) : String :=
  String.join (List.zipWith (· ++ ·) pieces (entities ++ [""]))

theorem woven_singleton (piece : String) : woven [piece] [] = piece := by
  simp [woven]

theorem append_woven_cons (written piece entity : String) (pieces entities : List String) :
    written ++ woven (piece :: pieces) (entity :: entities) =
      written ++ piece ++ entity ++ woven pieces entities := by
  simp [woven, String.append_assoc]

/-- Copying takes one slice after the other, and goes through exactly if none
of them goes wrong. -/
theorem copyFrom?_eq_some_iff {text written html : String} {copied offset : Nat}
    {rest : List Char} :
    copyFrom? text written copied offset rest = some html ↔
      ∃ pieces,
        List.Forall₂ (Text.IsSlice (Text.encode text.toList))
            (stretches text.utf8ByteSize copied offset rest) pieces ∧
          html = written ++ woven pieces (rest.filterMap entity?) := by
  induction rest generalizing written copied offset with
  | nil =>
      simp only [copyFrom?, stretches, Option.bind_eq_bind, Option.bind_eq_some_iff,
        Option.pure_def, Option.some.injEq, Text.slice?_eq_some_iff_isSlice, List.filterMap_nil]
      constructor
      · intro found
        obtain ⟨piece, slice, same⟩ := found
        exact ⟨[piece], .cons slice .nil, by rw [woven_singleton, same]⟩
      · intro found
        obtain ⟨pieces, slices, same⟩ := found
        obtain ⟨piece, behind, slice, none, rfl⟩ := List.forall₂_cons_left_iff.mp slices
        obtain rfl := List.forall₂_nil_left_iff.mp none
        exact ⟨piece, slice, by rw [same, woven_singleton]⟩
  | cons char rest induction =>
      cases found : entity? char with
      | none =>
          rw [copyFrom?, stretches, found, List.filterMap_cons_none found]
          exact induction
      | some entity =>
          rw [copyFrom?, stretches, found, List.filterMap_cons_some found]
          simp only [Option.bind_eq_bind, Option.bind_eq_some_iff, induction,
            Text.slice?_eq_some_iff_isSlice]
          constructor
          · intro copiedBoth
            obtain ⟨piece, slice, pieces, slices, same⟩ := copiedBoth
            refine ⟨piece :: pieces, .cons slice slices, ?_⟩
            rw [same, append_woven_cons]
          · intro cut
            obtain ⟨all, slices, same⟩ := cut
            obtain ⟨piece, pieces, slice, others, rfl⟩ := List.forall₂_cons_left_iff.mp slices
            refine ⟨piece, slice, pieces, others, ?_⟩
            rw [same, append_woven_cons]

theorem exists_slices_appendEscaped (written text : String) :
    ∃ pieces,
      List.Forall₂ (Text.IsSlice (Text.encode text.toList))
          (stretches text.utf8ByteSize 0 0 text.toList) pieces ∧
        appendEscaped written text =
          written ++ woven pieces (text.toList.filterMap entity?) :=
  copyFrom?_eq_some_iff.mp (Option.eq_some_of_isSome _)

end Html

namespace Text

/-- A cursor with any text left takes two slices, the next line and the rest. -/
theorem LineCursor.slices_next? {text : List Char} (nonempty : text ≠ []) :
    ∃ line rest,
      LineCursor.next? ⟨text⟩ = some (line, ⟨rest⟩) ∧
        IsSlice (encode text) (0, LineCursor.lineSize text) (String.ofList line) ∧
        IsSlice (encode text) (LineCursor.lineSize text, (encode text).length)
          (String.ofList rest) := by
  have parts := firstLine_append_afterFirstLine text
  have first := isSlice_append [] (firstLine text) (afterFirstLine text)
  have behind := isSlice_append (firstLine text) (afterFirstLine text) []
  rw [List.nil_append, size_nil, Nat.zero_add, parts] at first
  rw [List.append_nil, ← size_append, parts] at behind
  rw [lineSize_eq, length_encode]
  exact ⟨_, _, next?_of_ne_nil nonempty, first, behind⟩

end Text

/-- What is cut off from octet `start` on if an offset has moved on to octet
`stop`. -/
def pieceBounds (start stop : Nat) : List (Nat × Nat) :=
  if start < stop then [(start, stop)] else []

/-- The offsets that a line is cut between, up to the first change that cannot
be made. -/
def cutBounds (change : ScopeChange) (stop : Nat) :
    (start : Nat) → ScopeStack → List (Nat × ScopeOp) → List (Nat × Nat)
  | start, _, [] => pieceBounds start stop
  | start, stack, (offset, op) :: ops =>
      let offset := min offset stop
      pieceBounds start offset ++
        match change stack op with
        | .error _ => []
        | .ok stack => cutBounds change stop (max start offset) stack ops

section Cutting

variable {change : ScopeChange} {front rest : List Char} {state : CutState}
  {ops : List (Nat × ScopeOp)} {tokens : List Token}

theorem slices_cutPiece {stop : Nat} {behind : List Char} {reached : CutState}
    (cut : cutPiece (stop - Text.size front) rest state = .ok (tokens, behind, reached)) :
    List.Forall₂ (Text.IsSlice (Text.encode (front ++ rest)))
      (pieceBounds (Text.size front) stop) (tokens.map (·.text)) := by
  unfold cutPiece at cut
  by_cases zero : stop - Text.size front = 0
  · simp only [zero, beq_self_eq_true, ↓reduceIte, Except.ok.injEq, Prod.mk.injEq] at cut
    obtain ⟨rfl, -, -⟩ := cut
    rw [pieceBounds, if_neg (by omega)]
    exact .nil
  · simp only [beq_iff_eq, zero, ↓reduceIte] at cut
    split at cut
    next => cases cut
    next piece left found =>
        obtain ⟨parts, sized⟩ := Text.splitAt?_eq_some_iff.mp found
        cases cut
        have slice := Text.isSlice_append front piece behind
        have reachedStop : Text.size front + Text.size piece = stop := by omega
        rw [reachedStop, List.append_assoc, ← parts] at slice
        rw [pieceBounds, if_pos (by omega)]
        exact .cons slice .nil

theorem slices_cutRest {last : CutState}
    (cut : cutRest change (Text.size (front ++ rest)) (Text.size front) rest state ops =
      .ok (tokens, last)) :
    List.Forall₂ (Text.IsSlice (Text.encode (front ++ rest)))
      (cutBounds change (Text.size (front ++ rest)) (Text.size front) state.stack ops)
      (tokens.map (·.text)) := by
  induction ops generalizing front rest state tokens with
  | nil =>
      obtain ⟨left, found⟩ := cutRest_nil_eq_ok_iff.mp cut
      exact slices_cutPiece found
  | cons entry ops induction =>
      obtain ⟨offset, op⟩ := entry
      obtain ⟨first, behind, reached, stack, later, piece, changed, others, rfl⟩ :=
        cutRest_cons_eq_ok_iff.mp cut
      -- What has been cut off is a part of the front now, and the next piece begins behind it.
      obtain ⟨parts, moved⟩ := parts_of_cutPiece piece
      rw [cutPiece_stack piece] at changed
      rw [moved, parts] at others
      have slices := induction others
      rw [← moved, ← parts] at slices
      rw [cutBounds, changed, List.map_append]
      exact List.rel_append (slices_cutPiece piece) slices

/-- Where a change cannot be made, all slices in front of it have been taken. -/
theorem exists_slices_cutRest {reason : ScopeFault}
    (failed : cutRest change (Text.size (front ++ rest)) (Text.size front) rest state ops =
      .error (.scopes reason)) :
    ∃ pieces,
      List.Forall₂ (Text.IsSlice (Text.encode (front ++ rest)))
        (cutBounds change (Text.size (front ++ rest)) (Text.size front) state.stack ops)
        pieces := by
  induction ops generalizing front rest state with
  | nil => cases eq_offBoundary_of_cutPiece (cutRest_nil_eq_error_iff.mp failed)
  | cons entry ops induction =>
      obtain ⟨offset, op⟩ := entry
      rcases cutRest_cons_eq_error_iff.mp failed with
        piece | ⟨first, behind, reached, piece, ⟨found, unmade, -⟩ | ⟨stack, made, others⟩⟩
      · cases eq_offBoundary_of_cutPiece piece
      · rw [cutPiece_stack piece] at unmade
        rw [cutBounds, unmade, List.append_nil]
        exact ⟨_, slices_cutPiece piece⟩
      · rw [cutPiece_stack piece] at made
        obtain ⟨parts, moved⟩ := parts_of_cutPiece piece
        rw [moved, parts] at others
        obtain ⟨pieces, laterSlices⟩ := induction others
        rw [← moved, ← parts] at laterSlices
        rw [cutBounds, made]
        exact ⟨_, List.rel_append (slices_cutPiece piece) laterSlices⟩

end Cutting

/-- Offsets of which each is a boundary of a line's octets, or does not lie
within them. -/
def OnOctetBoundaries (bytes : Text.Bytes) (ops : List (Nat × ScopeOp)) : Prop :=
  ∀ entry ∈ ops, Text.IsOctetBoundary bytes entry.1 ∨ bytes.length ≤ entry.1

theorem OnOctetBoundaries.onBoundaries {line : List Char} {ops : List (Nat × ScopeOp)}
    (proper : OnOctetBoundaries (Text.encode line) ops) : OnBoundaries line ops := by
  intro entry member
  rw [← Text.isOctetBoundary_iff_isBoundary, ← Text.length_encode]
  exact proper entry member

/-- A line that is cut at proper offsets is cut between boundaries in order. -/
theorem exists_slices_cutLine {change : ScopeChange} {line : List Char} {state : CutState}
    {ops : List (Nat × ScopeOp)} (proper : OnOctetBoundaries (Text.encode line) ops) :
    ∃ pieces,
      List.Forall₂ (Text.IsSlice (Text.encode line))
          (cutBounds change (Text.encode line).length 0 state.stack ops) pieces ∧
        ((∃ tokens last, cutLine change line state ops = .ok (tokens, last) ∧
            tokens.map (·.text) = pieces) ∨
          ∃ reason, cutLine change line state ops = .error (.scopes reason)) := by
  rw [Text.length_encode]
  cases outcome : cutLine change line state ops with
  | ok found =>
      obtain ⟨tokens, last⟩ := found
      have slices := @slices_cutRest change [] line state ops tokens last outcome
      exact ⟨_, slices, .inl ⟨tokens, last, rfl, rfl⟩⟩
  | error fault =>
      obtain ⟨reason, rfl⟩ := cutLine_error proper.onBoundaries outcome
      obtain ⟨pieces, slices⟩ := @exists_slices_cutRest change [] line state ops reason outcome
      exact ⟨pieces, slices, .inr ⟨reason, rfl⟩⟩

/-- Every slice that is taken of a text, while it is escaped, while its lines are
handed out and while a line is cut at proper offsets in any order, lies between
two boundaries in order. -/
theorem slices_on_boundaries :
    (∀ written text : String, ∃ pieces,
      List.Forall₂ (Text.IsSlice (Text.encode text.toList))
          (Html.stretches text.utf8ByteSize 0 0 text.toList) pieces ∧
        Html.appendEscaped written text =
          written ++ Html.woven pieces (text.toList.filterMap Html.entity?)) ∧
    (∀ text : List Char,
      (text = [] ∧ Text.LineCursor.next? ⟨text⟩ = none) ∨
        ∃ line rest,
          Text.LineCursor.next? ⟨text⟩ = some (line, ⟨rest⟩) ∧
            Text.IsSlice (Text.encode text) (0, Text.LineCursor.lineSize text)
              (String.ofList line) ∧
            Text.IsSlice (Text.encode text)
              (Text.LineCursor.lineSize text, (Text.encode text).length)
              (String.ofList rest)) ∧
    ∀ (change : ScopeChange) (line : List Char) (state : CutState) (ops : List (Nat × ScopeOp)),
      OnOctetBoundaries (Text.encode line) ops →
        ∃ pieces,
          List.Forall₂ (Text.IsSlice (Text.encode line))
              (cutBounds change (Text.encode line).length 0 state.stack ops) pieces ∧
            ((∃ tokens last, cutLine change line state ops = .ok (tokens, last) ∧
                tokens.map (·.text) = pieces) ∨
              ∃ reason, cutLine change line state ops = .error (.scopes reason)) := by
  refine ⟨Html.exists_slices_appendEscaped, ?_, ?_⟩
  · intro text
    by_cases empty : text = []
    · exact .inl ⟨empty, by rw [empty, Text.LineCursor.next?_nil]⟩
    · exact .inr (Text.LineCursor.slices_next? empty)
  · intro change line state ops proper
    exact exists_slices_cutLine proper

/-- Offsets that go back and lie beyond the end of a line whose first character
takes two octets. -/
theorem slices_on_boundaries_backwards :
    OnOctetBoundaries (Text.encode ['é', 'b', '\n'])
        [(2, .push "keyword"), (0, .push "string"), (2, .pop 1), (9, .pop 1)] ∧
      ∃ pieces,
        List.Forall₂ (Text.IsSlice (Text.encode ['é', 'b', '\n'])) [(0, 2), (2, 4)] pieces := by
  have proper : OnOctetBoundaries (Text.encode ['é', 'b', '\n'])
      [(2, .push "keyword"), (0, .push "string"), (2, .pop 1), (9, .pop 1)] := by
    intro entry member
    fin_cases member
    · exact .inl (.inr ⟨_, rfl, by decide⟩)
    · exact .inl (.inr ⟨_, rfl, by decide⟩)
    · exact .inl (.inr ⟨_, rfl, by decide⟩)
    · exact .inr (by decide)
  obtain ⟨-, -, cuts⟩ := slices_on_boundaries
  obtain ⟨pieces, slices, -⟩ := cuts ScopeStack.apply ['é', 'b', '\n'] {} _ proper
  exact ⟨proper, pieces, slices⟩

end PageFilters
