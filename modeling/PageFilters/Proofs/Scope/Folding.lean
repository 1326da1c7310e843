import Mathlib.Data.List.Induction
import PageFilters.Proofs.Scope.Memory

/-!
# Kinds from the outside inwards

The kind of a stack is looked for from the innermost scope outwards, with a
memory of classes that grows from one stack to the next.  The same kind comes of
a fold in the other direction: every scope changes the kind that the scopes
around it give, or leaves it as it is.
-/

namespace PageFilters

/-- The kind under a scope where the scopes around it give the kind
`enclosing`. -/
def Scope.kindWithin (enclosing : TokenKind) (scope : Scope) : TokenKind :=
  match scope.class? with
  | some (.strong kind) => kind
  | some (.weak _) => if enclosing = .plain then .punctuation else enclosing
  | none => enclosing

/-- The kind under scopes, the outermost one first. -/
def kindInward (scopes : List Scope) : TokenKind :=
  scopes.foldl Scope.kindWithin .plain

/-- What a kind that is given to every list of scopes, the outermost one first,
has to be. -/
structure FollowsClasses (kind : List Scope → TokenKind) : Prop where
  empty : kind [] = .plain
  strong : ∀ outer (scope : Scope) own, scope.class? = some (.strong own) →
    kind (outer ++ [scope]) = own
  weak : ∀ outer (scope : Scope) own, scope.class? = some (.weak own) →
    kind (outer ++ [scope]) = if kind outer = .plain then .punctuation else kind outer
  silent : ∀ outer (scope : Scope), scope.class? = none → kind (outer ++ [scope]) = kind outer

section Classes

variable {scope : Scope} {kind : TokenKind}

theorem Scope.eq_punctuation_of_weak (weak : scope.class? = some (.weak kind)) :
    kind = .punctuation := by
  unfold Scope.class? at weak
  split at weak
  next =>
      cases weak
      rfl
  next =>
      obtain ⟨rule, -, same⟩ := Option.map_eq_some_iff.mp weak
      cases same

theorem Scope.ne_plain_of_strong (strong : scope.class? = some (.strong kind)) :
    kind ≠ .plain := by
  have coloured : ∀ rule ∈ scopeRules, rule.2 ≠ .plain := by decide
  unfold Scope.class? at strong
  split at strong
  next => cases strong
  next =>
      obtain ⟨rule, found, same⟩ := Option.map_eq_some_iff.mp strong
      cases same
      exact coloured rule (List.mem_of_find?_eq_some found)

end Classes

section Directions

variable {outer inner : List Scope} {scope : Scope} {own : TokenKind}

theorem kindInward_append_singleton (outer : List Scope) (scope : Scope) :
    kindInward (outer ++ [scope]) = scope.kindWithin (kindInward outer) := by
  rw [kindInward, List.foldl_append]
  rfl

theorem followsClasses_kindInward : FollowsClasses kindInward where
  empty := rfl
  strong outer scope own strong := by
    rw [kindInward_append_singleton, Scope.kindWithin, strong]
  weak outer scope own weak := by
    rw [kindInward_append_singleton, Scope.kindWithin, weak]
  silent outer scope silent := by
    rw [kindInward_append_singleton, Scope.kindWithin, silent]

theorem FollowsClasses.eq_kindInward {kind : List Scope → TokenKind}
    (follows : FollowsClasses kind) : kind = kindInward := by
  funext scopes
  induction scopes using List.reverseRecOn with
  | nil => exact follows.empty
  | append_singleton outer scope induction =>
      rw [kindInward_append_singleton, ← induction, Scope.kindWithin]
      cases classified : scope.class? with
      | none => exact follows.silent outer scope classified
      | some found =>
          cases found with
          | strong own => exact follows.strong outer scope own classified
          | weak own => exact follows.weak outer scope own classified

/-- Both searches outwards: one that has met no weak scope so far, and one that
has settled for punctuation if nothing stronger comes. -/
theorem kindOfScopes_eq_kindInward (scopes : List Scope) :
    kindOfScopes none scopes = kindInward scopes.reverse ∧
      kindOfScopes (some .punctuation) scopes =
        if kindInward scopes.reverse = .plain then .punctuation
        else kindInward scopes.reverse := by
  induction scopes with
  | nil => exact ⟨rfl, rfl⟩
  | cons scope outer induction =>
      obtain ⟨unsettled, settled⟩ := induction
      rw [List.reverse_cons, kindInward_append_singleton, kindOfScopes, kindOfScopes,
        Scope.kindWithin]
      cases classified : scope.class? with
      | none => exact ⟨unsettled, settled⟩
      | some found =>
          cases found with
          | strong own => simp [Scope.ne_plain_of_strong classified]
          | weak own =>
              have punctuation := Scope.eq_punctuation_of_weak classified
              simp only [punctuation, Option.none_or, Option.some_or, settled]
              -- Punctuation is not plain, so a second weak scope changes nothing.
              by_cases plain : kindInward outer.reverse = .plain
              · simp [plain]
              · simp [plain]

theorem kindInward_append_of_weak
    (weaker : ∀ other ∈ inner, ∀ kind, Scope.class? other ≠ some (.strong kind))
    (notPlain : kindInward outer ≠ .plain) :
    kindInward (outer ++ inner) = kindInward outer := by
  induction inner using List.reverseRecOn with
  | nil => rw [List.append_nil]
  | append_singleton inner scope induction =>
      have before := induction fun other member => weaker other (List.mem_append_left _ member)
      have own := weaker scope (by simp)
      rw [← List.append_assoc, kindInward_append_singleton, before, Scope.kindWithin]
      cases classified : scope.class? with
      | none => rfl
      | some found =>
          cases found with
          | strong kind => exact absurd classified (own kind)
          | weak kind => exact if_neg notPlain

/-- The innermost strong scope decides. -/
theorem kindInward_of_strong (outer : List Scope) (strong : scope.class? = some (.strong own))
    (weaker : ∀ other ∈ inner, ∀ kind, Scope.class? other ≠ some (.strong kind)) :
    kindInward (outer ++ scope :: inner) = own := by
  have reached : kindInward (outer ++ [scope]) = own :=
    followsClasses_kindInward.strong outer scope own strong
  have notPlain : kindInward (outer ++ [scope]) ≠ .plain := by
    rw [reached]
    exact Scope.ne_plain_of_strong strong
  have parts : outer ++ scope :: inner = (outer ++ [scope]) ++ inner := by simp
  rw [parts, kindInward_append_of_weak weaker notPlain, reached]

end Directions

namespace ClassMemory

/-- The kinds of stacks that are asked for one after the other by way of one
memory. -/
def kindsOf (memory : ClassMemory) : List ScopeStack → List TokenKind × ClassMemory
  | [] => ([], memory)
  | stack :: others =>
      let (kind, memory) := stack.kind memory
      let (kinds, memory) := memory.kindsOf others
      (kind :: kinds, memory)

variable {memory : ClassMemory}

theorem Sound.stackKind (sound : memory.Sound) (stack : ScopeStack) :
    (stack.kind memory).1 = kindInward stack.scopes.reverse ∧ (stack.kind memory).2.Sound := by
  obtain ⟨found, soundBehind⟩ := sound.kindOf none stack.scopes
  refine ⟨?_, soundBehind⟩
  rw [ScopeStack.kind, found]
  exact (kindOfScopes_eq_kindInward stack.scopes).1

theorem Sound.kindsOf (sound : memory.Sound) (asked : List ScopeStack) :
    (memory.kindsOf asked).1 = asked.map fun stack => kindInward stack.scopes.reverse := by
  induction asked generalizing memory with
  | nil => rfl
  | cons stack others induction =>
      obtain ⟨found, soundBehind⟩ := sound.stackKind stack
      rw [ClassMemory.kindsOf, List.map_cons, ← induction soundBehind, ← found]

end ClassMemory

/-- There is one way to give kinds to lists of scopes so that the empty list is
plain, a strong scope inside of others gives its own kind, a weak one turns plain
into punctuation, and nothing else changes the kind of the others.  All kinds
that are asked for by way of one memory that started empty are given in this
way.  A strong scope decides, whatever stands outside of it, as long as none
inside of it is strong. -/
theorem kindsOf_follow_classes :
    (∀ kind, FollowsClasses kind ↔ kind = kindInward) ∧
    (∀ asked : List ScopeStack,
      (ClassMemory.kindsOf ∅ asked).1 =
        asked.map fun stack => kindInward stack.scopes.reverse) ∧
    ∀ outer inner (scope : Scope) own, scope.class? = some (.strong own) →
      (∀ other ∈ inner, ∀ kind, Scope.class? other ≠ some (.strong kind)) →
      kindInward (outer ++ scope :: inner) = own := by
  refine ⟨?_, ClassMemory.sound_empty.kindsOf, ?_⟩
  · intro kind
    constructor
    · exact FollowsClasses.eq_kindInward
    · intro same
      rw [same]
      exact followsClasses_kindInward
  · intro outer inner scope own strong weaker
    exact kindInward_of_strong outer strong weaker

/-- The quotation mark of a string, the comma behind the string and then the mark
again, when its class is remembered. -/
theorem kindsOf_follow_classes_quote :
    let quote : ScopeStack :=
      { scopes := ["punctuation.definition.string", "string.quoted", "source"] }
    let comma : ScopeStack := { scopes := ["punctuation.separator", "source"] }
    Scope.class? "string.quoted" = some (.strong .string) ∧
      Scope.class? "punctuation.definition.string" = some (.weak .punctuation) ∧
      kindInward (["source"] ++ "string.quoted" :: ["punctuation.definition.string"]) = .string ∧
      (ClassMemory.kindsOf ∅ [quote, comma, quote]).1 = [.string, .punctuation, .string] := by
  intro quote comma
  obtain ⟨-, remembered, decides⟩ := kindsOf_follow_classes
  have strong : Scope.class? "string.quoted" = some (.strong .string) := by decide +kernel
  have weak : Scope.class? "punctuation.definition.string" = some (.weak .punctuation) := by
    decide +kernel
  have quoted : kindInward (["source"] ++ "string.quoted" :: ["punctuation.definition.string"]) =
      .string := by
    apply decides _ _ _ _ strong
    intro other member kind
    rw [List.mem_singleton.mp member, weak]
    simp
  have separated : kindInward comma.scopes.reverse = .punctuation := by decide +kernel
  have quotedStack : kindInward quote.scopes.reverse = .string := quoted
  refine ⟨strong, weak, quoted, ?_⟩
  rw [remembered]
  simp only [List.map_cons, List.map_nil, quotedStack, separated]

end PageFilters
