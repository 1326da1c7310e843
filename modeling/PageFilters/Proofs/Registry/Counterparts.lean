import PageFilters.Grammar.Linking
import PageFilters.Proofs.Registry.Claims

/-!
# Counterparts

Guesses depend on the names of grammars, on what they claim and on their
expressions for first lines, and on the order in which they are loaded.  Two sets
that agree in all of this, grammar by grammar, make related guesses: whatever one
of them recognizes, the other one recognizes its counterpart.
-/

namespace PageFilters

/-- Two guesses are of one kind, with related answers or the same candidates. -/
inductive Guess.Related {α β : Type} (Match : α → β → Prop) : Guess α → Guess β → Prop where
  | recognized {left : α} {right : β} (related : Match left right) :
      Related Match (.recognized left) (.recognized right)
  | notRecognized : Related Match .notRecognized .notRecognized
  | ambiguous (candidates : List String) :
      Related Match (.ambiguous candidates) (.ambiguous candidates)

namespace Grammar

/-- Guesses cannot tell two grammars apart. -/
structure Alike (left right : Grammar) : Prop where
  name : left.name = right.name
  claims : left.claims = right.claims
  firstLine : left.firstLine = right.firstLine

variable {left right : Grammar}

theorem Alike.claimsName (alike : left.Alike right) (name : String) :
    left.claimsName name = right.claimsName name := by
  unfold Grammar.claimsName
  rw [alike.claims]

theorem Alike.claimsFile (alike : left.Alike right) (base : String) (extension : Option String) :
    left.claimsFile base extension = right.claimsFile base extension := by
  unfold Grammar.claimsFile
  have claimsName : left.claimsName = right.claimsName := by
    funext name
    apply alike.claimsName
  rw [claimsName]

theorem Alike.rank? (alike : left.Alike right) (extension : Option String) :
    left.rank? extension = right.rank? extension := by
  unfold Grammar.rank?
  rw [alike.claims]

section Lists

variable {Match : Grammar → Grammar → Prop} {lefts rights : List Grammar}
variable {leftHolds rightHolds : Grammar → Bool}
variable (holds : ∀ left right, Match left right → leftHolds left = rightHolds right)
variable (matched : List.Forall₂ Match lefts rights)

include holds matched

theorem forall₂_filter : List.Forall₂ Match (lefts.filter leftHolds) (rights.filter rightHolds) := by
  apply List.rel_filter
  · intro left right related
    exact Bool.eq_iff_iff.mp (holds left right related)
  · exact matched

theorem rel_find? : Option.Rel Match (lefts.find? leftHolds) (rights.find? rightHolds) := by
  induction matched with
  | nil => exact .none
  | cons first _ induction =>
      rw [List.find?_cons, List.find?_cons, holds _ _ first]
      split
      · exact .some first
      · exact induction

end Lists

variable {Match : Grammar → Grammar → Prop} {lefts rights : List Grammar}
variable (alike : ∀ left right, Match left right → left.Alike right)
variable (matched : List.Forall₂ Match lefts rights)

include alike matched

theorem forall₂_firstOfEachName :
    List.Forall₂ Match (firstOfEachName lefts) (firstOfEachName rights) := by
  induction matched with
  | nil => exact .nil
  | cons first _ induction =>
      apply List.Forall₂.cons first
      apply forall₂_filter _ induction
      intro other otherMatch related
      rw [(alike _ _ related).name, (alike _ _ first).name]

theorem match_earliest (extension : Option String) (first : Match left right) :
    Match (earliest extension left lefts) (earliest extension right rights) := by
  unfold earliest
  apply List.rel_foldl _ first matched
  intro best bestMatch bestRelated grammar grammarMatch related
  dsimp only
  rw [(alike _ _ bestRelated).rank?, (alike _ _ related).rank?]
  split
  · exact related
  · exact bestRelated

end Grammar

namespace GrammarSet

variable {Match : Grammar → Grammar → Prop} {left right : GrammarSet}
variable (alike : ∀ left right, Match left right → left.Alike right)

include alike

theorem match_preferred (base : String) (extension : Option String)
    {first second : Grammar} {firstRest secondRest : List Grammar} (related : Match first second)
    (rest : List.Forall₂ Match firstRest secondRest) :
    Match (preferred base extension first firstRest)
      (preferred base extension second secondRest) := by
  unfold preferred
  rw [(alike _ _ related).claimsName]
  split
  · exact related
  · exact Grammar.match_earliest alike rest extension related

theorem map_name_eq {lefts rights : List Grammar} (matched : List.Forall₂ Match lefts rights) :
    lefts.map (·.name) = rights.map (·.name) := by
  induction matched with
  | nil => rfl
  | cons first _ induction => rw [List.map_cons, List.map_cons, (alike _ _ first).name, induction]

variable (matched : List.Forall₂ Match left.grammars right.grammars)

include matched

theorem forall₂_candidates (base : String) (extension : Option String) :
    List.Forall₂ Match (left.candidates base extension) (right.candidates base extension) := by
  have claiming : List.Forall₂ Match
      (left.grammars.filter fun grammar =>
        grammar.name != Tokenizer.plainName && grammar.claimsFile base extension)
      (right.grammars.filter fun grammar =>
        grammar.name != Tokenizer.plainName && grammar.claimsFile base extension) := by
    apply Grammar.forall₂_filter _ matched
    intro grammar other related
    rw [(alike _ _ related).name, (alike _ _ related).claimsFile]
  have found := Grammar.forall₂_firstOfEachName alike claiming
  have claims : ∀ grammar other, Match grammar other →
      grammar.claimsName base = other.claimsName base := by
    intro grammar other related
    rw [(alike _ _ related).claimsName]
  unfold candidates
  apply List.rel_append
  · exact Grammar.forall₂_filter claims found
  · apply Grammar.forall₂_filter _ found
    intro grammar other related
    rw [claims _ _ related]

theorem rel_hint? (content : String) :
    Option.Rel Match (left.hint? content) (right.hint? content) := by
  have found : Option.Rel Match (left.findByLine? (firstLine content))
      (right.findByLine? (firstLine content)) := by
    apply Grammar.rel_find? _ (List.forall₂_reverse_iff.mpr matched)
    intro grammar other related
    rw [(alike _ _ related).firstLine]
  unfold hint?
  generalize left.findByLine? (firstLine content) = leftFound at found
  generalize right.findByLine? (firstLine content) = rightFound at found
  cases found with
  | none => exact .none
  | some related =>
      rw [Option.filter_some, Option.filter_some, (alike _ _ related).name]
      split
      · exact .some related
      · exact .none

/-- Sets of counterparts make related guesses. -/
theorem related_guess (filename content : String) :
    Guess.Related Match (left.guess filename content) (right.guess filename content) := by
  unfold guess
  cases FileName.base? filename with
  | none => exact .notRecognized
  | some base =>
      have candidates := forall₂_candidates alike matched base (FileName.extension? base)
      have hinted := rel_hint? alike matched content
      dsimp only
      generalize left.candidates base (FileName.extension? base) = leftFound at candidates
      generalize right.candidates base (FileName.extension? base) = rightFound at candidates
      generalize left.hint? content = leftHint at hinted
      generalize right.hint? content = rightHint at hinted
      cases candidates with
      | nil => exact .notRecognized
      | cons first rest =>
          have names := map_name_eq alike (.cons first rest)
          cases rest with
          | nil => exact .recognized first
          | cons second rest =>
              cases hinted with
              | none =>
                  apply Guess.Related.recognized
                  exact match_preferred alike base _ first (.cons second rest)
              | @some hint other related =>
                  have any : ∀ grammars : List Grammar,
                      (grammars.any fun candidate => candidate.name == hint.name) =
                        (grammars.map (·.name)).any (· == hint.name) := by
                    intro grammars
                    rw [List.any_map]
                    rfl
                  dsimp only
                  rw [← (alike _ _ related).name, any, any, names]
                  split
                  · exact .recognized related
                  · exact .ambiguous _

end GrammarSet

end PageFilters
