import Mathlib.Data.List.SplitBy
import PageFilters.Proofs.Token.Runs

/-!
# Runs in two steps

The runs of a token list can be had without joining token by token: tokens
without text are dropped, the rest is split wherever the kind changes, and every
part makes one run.  Runs are as long as they can be, so neighbours differ in
kind, and none is without text.
-/

namespace PageFilters.Token

/-- Tokens that have text, split wherever the kind changes. -/
def groups (tokens : List Token) : List (List Token) :=
  (tokens.filter fun token => !token.text.isEmpty).splitBy fun left right =>
    left.kind == right.kind

def joinedText (tokens : List Token) : String :=
  String.join (tokens.map (·.text))

/-- A group as one token, of the kind of its first one. -/
def merged : List Token → Token
  | [] => .plain ""
  | first :: rest => ⟨first.kind, joinedText (first :: rest)⟩

@[simp] theorem joinedText_nil : joinedText [] = "" := rfl

@[simp] theorem joinedText_cons (token : Token) (tokens : List Token) :
    joinedText (token :: tokens) = token.text ++ joinedText tokens :=
  String.toList_inj.mp (by simp [joinedText])

theorem joinRun_of_differs {token : Token} {later : List Token} (nonempty : token.text ≠ "")
    (differs : ∀ run ∈ later.head?, run.kind ≠ token.kind) :
    joinRun token later = token :: later := by
  cases later with
  | nil => simp [joinRun, nonempty]
  | cons run later =>
      have other : token.kind ≠ run.kind := Ne.symm (differs run rfl)
      simp [joinRun, nonempty, other]

/-- Tokens of one kind make one run in front of a run of another kind. -/
theorem foldr_joinRun_group {first : Token} {rest later : List Token}
    (nonempty : ∀ token ∈ first :: rest, token.text ≠ "")
    (alike : ∀ token ∈ rest, token.kind = first.kind)
    (differs : ∀ run ∈ later.head?, run.kind ≠ first.kind) :
    (first :: rest).foldr joinRun later = merged (first :: rest) :: later := by
  have firstNonempty : first.text ≠ "" := nonempty first List.mem_cons_self
  cases rest with
  | nil =>
      rw [List.foldr_cons, List.foldr_nil, joinRun_of_differs firstNonempty differs]
      simp [merged]
  | cons second rest =>
      have same : second.kind = first.kind := alike second List.mem_cons_self
      have behind : (second :: rest).foldr joinRun later = merged (second :: rest) :: later := by
        apply foldr_joinRun_group
        · intro token member
          exact nonempty token (List.mem_cons_of_mem first member)
        · intro token member
          exact (alike token (List.mem_cons_of_mem second member)).trans same.symm
        · intro run member
          exact same ▸ differs run member
      rw [List.foldr_cons, behind]
      simp [joinRun, merged, firstNonempty, same]

theorem kind_of_isChain {first : Token} {rest : List Token}
    (chained : (first :: rest).IsChain fun left right => (left.kind == right.kind) = true) :
    ∀ token ∈ first :: rest, token.kind = first.kind := by
  induction rest generalizing first with
  | nil => simp
  | cons second rest induction =>
      obtain ⟨same, later⟩ := List.isChain_cons_cons.mp chained
      rw [beq_iff_eq] at same
      intro token member
      rcases List.mem_cons.mp member with rfl | behind
      · rfl
      · exact (induction later token behind).trans same.symm

theorem runs_flatten {groups : List (List Token)} (filled : [] ∉ groups)
    (nonempty : ∀ group ∈ groups, ∀ token ∈ group, token.text ≠ "")
    (alike : ∀ group ∈ groups, group.IsChain fun left right => (left.kind == right.kind) = true)
    (maximal : groups.IsChain fun left right =>
      ∃ leftFilled rightFilled,
        ((left.getLast leftFilled).kind == (right.head rightFilled).kind) = false) :
    runs groups.flatten = groups.map merged := by
  induction groups with
  | nil => rfl
  | cons group groups induction =>
      cases group with
      | nil => exact absurd List.mem_cons_self filled
      | cons first rest =>
          have sameKind := kind_of_isChain (alike _ List.mem_cons_self)
          have later : runs groups.flatten = groups.map merged := by
            apply induction
            · exact fun member => filled (List.mem_cons_of_mem _ member)
            · exact fun other member => nonempty other (List.mem_cons_of_mem _ member)
            · exact fun other member => alike other (List.mem_cons_of_mem _ member)
            · exact maximal.tail
          rw [List.flatten_cons, runs, List.foldr_append]
          change (first :: rest).foldr joinRun (runs groups.flatten) = _
          rw [later, List.map_cons]
          apply foldr_joinRun_group (nonempty _ List.mem_cons_self)
          · exact fun token member => sameKind token (List.mem_cons_of_mem first member)
          · intro run member
            cases groups with
            | nil => simp at member
            | cons following groups =>
                obtain ⟨⟨leftFilled, rightFilled, other⟩, -⟩ := List.isChain_cons_cons.mp maximal
                rw [beq_eq_false_iff_ne] at other
                have last := sameKind _ (List.getLast_mem leftFilled)
                cases following with
                | nil => exact absurd rfl rightFilled
                | cons second others =>
                    obtain rfl : merged (second :: others) = run := by simpa using member
                    exact fun same => other (last.trans same.symm)

theorem markedChars_filter_text (tokens : List Token) :
    markedChars (tokens.filter fun token => !token.text.isEmpty) = markedChars tokens := by
  induction tokens with
  | nil => rfl
  | cons token tokens induction =>
      by_cases empty : token.text = ""
      · simp [empty, induction]
      · simp [empty, induction]

theorem runs_eq_map_groups (tokens : List Token) :
    runs tokens = (groups tokens).map merged := by
  obtain ⟨flattened, filled, alike, maximal⟩ := List.splitBy_eq_iff.mp (Eq.refl (groups tokens))
  have sameRuns : runs tokens = runs (groups tokens).flatten := by
    rw [← flattened, runs_eq_runs_iff, markedChars_filter_text]
  rw [sameRuns]
  apply runs_flatten filled _ alike maximal
  intro group listed token member
  have kept : token ∈ (groups tokens).flatten := List.mem_flatten.mpr ⟨group, listed, member⟩
  rw [← flattened, List.mem_filter] at kept
  simpa using kept.2

theorem nonempty_joinRun {token : Token} {later : List Token}
    (nonempty : ∀ run ∈ later, run.text ≠ "") :
    ∀ run ∈ joinRun token later, run.text ≠ "" := by
  by_cases empty : token.text = ""
  · simpa [joinRun, empty] using nonempty
  · cases later with
    | nil => simp [joinRun, empty]
    | cons run later =>
        by_cases same : token.kind = run.kind
        · simp_all [joinRun]
        · simp_all [joinRun]

theorem nonempty_of_mem_runs {tokens : List Token} : ∀ run ∈ runs tokens, run.text ≠ "" := by
  induction tokens with
  | nil => simp [runs]
  | cons token tokens induction => exact nonempty_joinRun induction

theorem isChain_joinRun {token : Token} {later : List Token}
    (chained : later.IsChain fun left right => left.kind ≠ right.kind) :
    (joinRun token later).IsChain fun left right => left.kind ≠ right.kind := by
  by_cases empty : token.text = ""
  · simpa [joinRun, empty] using chained
  · cases later with
    | nil => simp [joinRun, empty]
    | cons run later =>
        by_cases same : token.kind = run.kind
        · simp_all [joinRun, List.isChain_cons]
        · simp_all [joinRun, List.isChain_cons]

theorem isChain_runs (tokens : List Token) :
    (runs tokens).IsChain fun left right => left.kind ≠ right.kind := by
  induction tokens with
  | nil => exact List.isChain_nil
  | cons token tokens induction => exact isChain_joinRun induction

end PageFilters.Token
