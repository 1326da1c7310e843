import PageFilters.Proofs.Registry.BaseNames
import PageFilters.Proofs.Registry.Counterparts

/-!
# Newcomers

A grammar that claims neither the base name nor the extension of a file, and
whose expression does not match the first line of its content, may be loaded at
any place and under any name: what is guessed about the file stays the same.
-/

namespace PageFilters

namespace Grammar

/-- Neither the claims nor the first-line expression of a grammar have anything to
say about a file. -/
structure Unconcerned (claims : List String) (pattern : Option Regex)
    (filename content : String) : Prop where
  base : ∀ name ∈ claims, ∀ base, FileName.base? filename = some base →
    FileName.sameName name base = false
  extension : ∀ name ∈ claims, ∀ base extension, FileName.base? filename = some base →
    FileName.extension? base = some extension → FileName.sameName name extension = false
  firstLine : ∀ regex, pattern = some regex →
    regex.search (GrammarSet.firstLine content).toArray 0 = none

variable {grammar : Grammar} {filename content base : String}

theorem Unconcerned.not_claimsFile
    (unconcerned : Unconcerned grammar.claims grammar.firstLine filename content)
    (named : FileName.base? filename = some base) :
    grammar.claimsFile base (FileName.extension? base) = false := by
  unfold claimsFile
  rw [Bool.or_eq_false_iff]
  constructor
  · apply List.any_eq_false.mpr
    intro name listed
    rw [unconcerned.base name listed base named]
    exact Bool.false_ne_true
  · cases extended : FileName.extension? base with
    | none => rfl
    | some extension =>
        apply List.any_eq_false.mpr
        intro name listed
        rw [unconcerned.extension name listed base extension named extended]
        exact Bool.false_ne_true

theorem Unconcerned.not_found
    (unconcerned : Unconcerned grammar.claims grammar.firstLine filename content) :
    (grammar.firstLine.bind fun regex =>
      regex.search (GrammarSet.firstLine content).toArray 0).isSome = false := by
  cases pattern : grammar.firstLine with
  | none => rfl
  | some regex =>
      rw [Option.bind_some, unconcerned.firstLine regex pattern]
      rfl

section Passing

variable {earlier later : List Grammar} {newcomer : Grammar} {holds : Grammar → Bool}
variable (fails : holds newcomer = false)

include fails

theorem filter_insert :
    (earlier ++ newcomer :: later).filter holds = (earlier ++ later).filter holds := by
  have not : ¬ holds newcomer = true := by
    rw [fails]
    exact Bool.false_ne_true
  rw [List.filter_append, List.filter_append, List.filter_cons_of_neg not]

theorem find?_reverse_insert :
    (earlier ++ newcomer :: later).reverse.find? holds =
      (earlier ++ later).reverse.find? holds := by
  have alone : [newcomer].find? holds = none := by
    rw [List.find?_singleton, fails]
    rfl
  rw [List.reverse_append, List.reverse_append, List.reverse_cons, List.append_assoc,
    List.find?_append, List.find?_append, List.find?_append, alone, Option.none_or]

end Passing

end Grammar

namespace GrammarSet

section Insertion

variable {smaller larger : GrammarSet} {earlier later : List Grammar} {newcomer : Grammar}
variable {filename content : String}
variable (without : smaller.grammars = earlier ++ later)
variable (within : larger.grammars = earlier ++ newcomer :: later)
variable (unconcerned :
  Grammar.Unconcerned newcomer.claims newcomer.firstLine filename content)

include without within unconcerned

theorem candidates_insert {base : String} (named : FileName.base? filename = some base) :
    larger.candidates base (FileName.extension? base) =
      smaller.candidates base (FileName.extension? base) := by
  unfold candidates
  rw [without, within, Grammar.filter_insert]
  rw [unconcerned.not_claimsFile named, Bool.and_false]

theorem hint?_insert : larger.hint? content = smaller.hint? content := by
  unfold hint? findByLine?
  rw [without, within, Grammar.find?_reverse_insert unconcerned.not_found]

theorem guess_insert : larger.guess filename content = smaller.guess filename content := by
  unfold guess
  cases named : FileName.base? filename with
  | none => rfl
  | some base =>
      dsimp only
      rw [candidates_insert without within unconcerned named,
        hint?_insert without within unconcerned]

end Insertion

end GrammarSet

namespace Grammar

/-- A grammar is what a definition is linked to.  Its start context is left out: the
number of that depends on the other definitions. -/
structure LinkedFrom (definition : Definition) (grammar : Grammar) : Prop where
  name : grammar.name = definition.name
  scope : grammar.scope = Scope.ofWritten definition.scope
  claims : grammar.claims = definition.claims
  firstLine : grammar.firstLine =
    definition.firstLine.bind fun text => Regex.parse? text.toList

theorem LinkedFrom.alike {definition : Definition} {left right : Grammar}
    (leftLinked : LinkedFrom definition left) (rightLinked : LinkedFrom definition right) :
    left.Alike right where
  name := leftLinked.name.trans rightLinked.name.symm
  claims := leftLinked.claims.trans rightLinked.claims.symm
  firstLine := leftLinked.firstLine.trans rightLinked.firstLine.symm

theorem definition_draftGrammar (owner : Nat) (definition : Definition) (draft : Draft) :
    ((draftGrammar owner definition).run draft).1.definition = definition := by
  simp only [draftGrammar, StateT.run_bind]
  dsimp only [bind, pure]
  split
  · rfl
  · rfl

theorem map_definition_draftGrammars (owner : Nat) (definitions : List Definition)
    (draft : Draft) :
    ((draftGrammars owner definitions).run draft).1.map (·.definition) = definitions := by
  induction definitions generalizing owner draft with
  | nil => rfl
  | cons definition rest induction =>
      have first := definition_draftGrammar owner definition draft
      have later := induction (owner + 1) ((draftGrammar owner definition).run draft).2
      change ((draftGrammar owner definition).run draft).1.definition :: _ = _
      rw [first]
      exact congrArg (definition :: ·) later

theorem forall₂_link (definitions : List Definition) :
    List.Forall₂ LinkedFrom definitions (GrammarSet.link definitions).grammars := by
  have drafted := map_definition_draftGrammars 0 definitions {}
  have linked : List.Forall₂ LinkedFrom
      (((draftGrammars 0 definitions).run {}).1.map (·.definition))
      (GrammarSet.link definitions).grammars := by
    apply List.forall₂_map_left_iff.mpr
    apply List.forall₂_map_right_iff.mpr
    apply List.forall₂_same.mpr
    intro draft _
    exact ⟨rfl, rfl, rfl, rfl⟩
  rwa [drafted] at linked

/-- The position of a grammar once another one is loaded at a place. -/
def moved (place position : Nat) : Nat :=
  if position < place then position else position + 1

/-- Two grammars stand for one definition, the one where a newcomer is missing and
the other where it is loaded as well. -/
def StandForOne (earlier : List Definition) (newcomer : Definition) (later : List Definition)
    (left right : Grammar) : Prop :=
  ∃ position definition,
    (earlier ++ later)[position]? = some definition ∧
      (GrammarSet.link (earlier ++ later)).grammars[position]? = some left ∧
      LinkedFrom definition left ∧
      (earlier ++ newcomer :: later)[moved earlier.length position]? = some definition ∧
      (GrammarSet.link (earlier ++ newcomer :: later)).grammars[moved earlier.length position]? =
        some right ∧
      LinkedFrom definition right

section Linking

variable (earlier : List Definition) (newcomer : Definition) (later : List Definition)

theorem getElem?_eraseIdx_moved {α : Type} (entries : List α) (place position : Nat) :
    (entries.eraseIdx place)[position]? = entries[moved place position]? := by
  rw [List.getElem?_eraseIdx, moved]
  split
  · rfl
  · rfl

theorem exists_linked {definitions : List Definition} {definition : Definition} {position : Nat}
    (defined : definitions[position]? = some definition) :
    ∃ grammar, (GrammarSet.link definitions).grammars[position]? = some grammar ∧
      LinkedFrom definition grammar := by
  have linked := forall₂_link definitions
  obtain ⟨inside, rfl⟩ := List.getElem?_eq_some_iff.mp defined
  have linkedInside : position < (GrammarSet.link definitions).grammars.length := by
    rw [← linked.length_eq]
    exact inside
  exact ⟨_, List.getElem?_eq_getElem linkedInside, linked.get inside linkedInside⟩

theorem getElem?_insert_moved (position : Nat) :
    (earlier ++ newcomer :: later)[moved earlier.length position]? =
      (earlier ++ later)[position]? := by
  rw [← getElem?_eraseIdx_moved, List.eraseIdx_append_of_length_le (Nat.le_refl _), Nat.sub_self,
    List.eraseIdx_cons_zero]

theorem forall₂_standForOne :
    List.Forall₂ (StandForOne earlier newcomer later)
      (GrammarSet.link (earlier ++ later)).grammars
      ((GrammarSet.link (earlier ++ newcomer :: later)).grammars.eraseIdx earlier.length) := by
  have lengths := (forall₂_link (earlier ++ later)).length_eq
  have widerLengths := (forall₂_link (earlier ++ newcomer :: later)).length_eq
  have place : earlier.length < (earlier ++ newcomer :: later).length := by
    simp
  apply List.forall₂_iff_get.mpr
  constructor
  · rw [List.length_eraseIdx, ← lengths, ← widerLengths, if_pos place]
    simp
  · intro position inside widerInside
    have bound : position < (earlier ++ later).length := by
      rw [lengths]
      exact inside
    have defined := List.getElem?_eq_getElem bound
    have widerDefined := (getElem?_insert_moved earlier newcomer later position).trans defined
    obtain ⟨left, leftAt, leftLinked⟩ := exists_linked defined
    obtain ⟨right, rightAt, rightLinked⟩ := exists_linked widerDefined
    have leftSame := leftAt
    have rightSame := rightAt
    rw [List.getElem?_eq_getElem inside, Option.some.injEq] at leftSame
    rw [← getElem?_eraseIdx_moved, List.getElem?_eq_getElem widerInside,
      Option.some.injEq] at rightSame
    rw [List.get_eq_getElem, List.get_eq_getElem, leftSame, rightSame]
    exact ⟨position, _, defined, leftAt, leftLinked, widerDefined, rightAt, rightLinked⟩

end Linking

end Grammar

namespace GrammarSet

/-- Without the linked newcomer the set guesses the same, and what is left of it
stands for the other definitions. -/
theorem exists_link_erased (earlier later : List Grammar.Definition)
    {newcomer : Grammar.Definition} {filename content : String}
    (unconcerned : Grammar.Unconcerned newcomer.claims
      (newcomer.firstLine.bind fun text => Regex.parse? text.toList) filename content) :
    ∃ others : GrammarSet,
      List.Forall₂ (Grammar.StandForOne earlier newcomer later)
        (link (earlier ++ later)).grammars others.grammars ∧
      (link (earlier ++ newcomer :: later)).guess filename content =
        others.guess filename content ∧
      (link (earlier ++ newcomer :: later)).hint? content = others.hint? content := by
  have defined : (earlier ++ newcomer :: later)[earlier.length]? = some newcomer := by
    simp
  obtain ⟨grammar, loaded, linked⟩ := Grammar.exists_linked defined
  have absent : Grammar.Unconcerned grammar.claims grammar.firstLine filename content := by
    rw [linked.claims, linked.firstLine]
    exact unconcerned
  have matched := Grammar.forall₂_standForOne earlier newcomer later
  generalize link (earlier ++ newcomer :: later) = larger at loaded matched
  obtain ⟨inside, rfl⟩ := List.getElem?_eq_some_iff.mp loaded
  let others : GrammarSet := { grammars := larger.grammars.eraseIdx earlier.length }
  have without : others.grammars =
      larger.grammars.take earlier.length ++ larger.grammars.drop (earlier.length + 1) :=
    List.eraseIdx_eq_take_drop_succ _ _
  have within : larger.grammars =
      larger.grammars.take earlier.length ++
        larger.grammars[earlier.length] :: larger.grammars.drop (earlier.length + 1) := by
    rw [List.getElem_cons_drop, List.take_append_drop]
  refine ⟨others, matched, ?_, ?_⟩
  · exact guess_insert without within absent
  · exact hint?_insert without within absent

end GrammarSet

open GrammarSet

/-- A grammar that is not concerned with a file may be loaded at any place: the
file name is guessed to be the same, with the same candidates in the same order,
and so is the content.  Where definitions are linked, the two guesses are of one
definition, which stands one place further back if it stood behind the
newcomer. -/
theorem guess_ignores_newcomer {m : Type → Type} [Monad m] [LawfulMonad m] [Logs m]
    (filename content : String) :
    (∀ (smaller larger : GrammarSet) (earlier later : List Grammar) (newcomer : Grammar),
      smaller.grammars = earlier ++ later → larger.grammars = earlier ++ newcomer :: later →
      Grammar.Unconcerned newcomer.claims newcomer.firstLine filename content →
        larger.guess filename content = smaller.guess filename content ∧
        larger.hint? content = smaller.hint? content ∧
        SatisfiesM (· = .ok ((smaller.guess filename content).map larger.tokenizer))
          ((larger.provider : Provider m).byFilename filename content) ∧
        SatisfiesM (· = .ok ((smaller.hint? content).map larger.tokenizer))
          ((larger.provider : Provider m).byContent content)) ∧
    ∀ (earlier later : List Grammar.Definition) (newcomer : Grammar.Definition),
      Grammar.Unconcerned newcomer.claims
        (newcomer.firstLine.bind fun text => Regex.parse? text.toList) filename content →
      Guess.Related (Grammar.StandForOne earlier newcomer later)
        ((link (earlier ++ later)).guess filename content)
        ((link (earlier ++ newcomer :: later)).guess filename content) ∧
      Option.Rel (Grammar.StandForOne earlier newcomer later)
        ((link (earlier ++ later)).hint? content)
        ((link (earlier ++ newcomer :: later)).hint? content) := by
  constructor
  · intro smaller larger earlier later newcomer without within unconcerned
    have guessed := guess_insert without within unconcerned
    have hinted := hint?_insert without within unconcerned
    refine ⟨guessed, hinted, ?_, ?_⟩
    · rw [← guessed]
      exact (larger.satisfiesM_byFilename larger.tokenizer filename content).imp Eq.symm
    · rw [← hinted]
      exact (larger.satisfiesM_byContent larger.tokenizer content).imp Eq.symm
  · intro earlier later newcomer unconcerned
    obtain ⟨others, matched, guessed, hinted⟩ :=
      exists_link_erased earlier later unconcerned
    have alike : ∀ left right, Grammar.StandForOne earlier newcomer later left right →
        left.Alike right := by
      intro left right related
      obtain ⟨position, definition, -, -, leftLinked, -, -, rightLinked⟩ := related
      exact leftLinked.alike rightLinked
    rw [guessed, hinted]
    constructor
    · exact related_guess alike matched filename content
    · exact rel_hint? alike matched content

/-- Another grammar for recipes, which claims soups and recognizes them by their
first line. -/
def Grammar.soups : Definition where
  name := "Recipes"
  scope := "source.soups"
  claims := ["soup"]
  firstLine := some "^soup"
  contexts := [("main", [])]

theorem base?_menu : FileName.base? "home/menu.rc" = some "menu.rc" := by decide +kernel

theorem Grammar.soups_unconcerned :
    Unconcerned soups.claims (soups.firstLine.bind fun text => Regex.parse? text.toList)
      "home/menu.rc" "salt" where
  base := by
    intro name listed base named
    obtain rfl := List.mem_singleton.mp listed
    rw [base?_menu, Option.some.injEq] at named
    rw [← named]
    decide
  extension := by
    intro name listed base extension named extended
    obtain rfl := List.mem_singleton.mp listed
    rw [base?_menu, Option.some.injEq] at named
    rw [← named] at extended
    have ownExtension : FileName.extension? "menu.rc" = some "rc" := by decide +kernel
    rw [ownExtension, Option.some.injEq] at extended
    rw [← extended]
    decide
  firstLine := by
    intro regex read
    have silent : ((soups.firstLine.bind fun text => Regex.parse? text.toList).all fun regex =>
        (regex.search (GrammarSet.firstLine "salt").toArray 0).isNone) = true := by
      decide +kernel
    rw [read, Option.all_some, Option.isNone_iff_eq_none] at silent
    exact silent

/-- A menu goes to the grammar that lists it by name, also where a second grammar
for recipes has been loaded between the first one and that. -/
theorem guess_ignores_newcomer_soups :
    let earlier : List Grammar.Definition := [
      { name := "Recipes", scope := "source.recipes", claims := ["rc"]
        contexts := [("main", [])] }]
    let later : List Grammar.Definition := [
      { name := "Kitchen", scope := "source.kitchen", claims := ["Menu.RC"]
        contexts := [("main", [])] }]
    let newcomer : Grammar := {
      name := "Recipes", scope := "source.soups", claims := Grammar.soups.claims
      firstLine := Grammar.soups.firstLine.bind fun text => Regex.parse? text.toList
      start := none }
    let larger : GrammarSet :=
      { recipes with grammars := [recipes.grammars[0], newcomer, recipes.grammars[1]] }
    LawfulMonad Id ∧
      Grammar.Unconcerned newcomer.claims newcomer.firstLine "home/menu.rc" "salt" ∧
      larger.guess "home/menu.rc" "salt" = .recognized recipes.grammars[1] ∧
      Guess.Related (Grammar.StandForOne earlier Grammar.soups later)
        (.recognized recipes.grammars[1])
        ((link (earlier ++ Grammar.soups :: later)).guess "home/menu.rc" "salt") := by
  intro earlier later newcomer larger
  obtain ⟨inserted, linked⟩ := guess_ignores_newcomer (m := Id) "home/menu.rc" "salt"
  have found : recipes.candidates "menu.rc" (FileName.extension? "menu.rc") =
      [recipes.grammars[1], recipes.grammars[0]] := rfl
  have silent := hint?_eq_none_iff.mp (rfl : recipes.hint? "salt" = none)
  have guessed := guess_of_silent base?_menu found silent
  obtain ⟨same, -, -, -⟩ := inserted recipes larger [recipes.grammars[0]] [recipes.grammars[1]]
    newcomer rfl rfl Grammar.soups_unconcerned
  obtain ⟨related, -⟩ := linked earlier later Grammar.soups Grammar.soups_unconcerned
  refine ⟨inferInstance, Grammar.soups_unconcerned, ?_, ?_⟩
  · rw [same, guessed]
    rfl
  · have smaller : (link (earlier ++ later)).guess "home/menu.rc" "salt" =
        .recognized recipes.grammars[1] := guessed
    rw [smaller] at related
    exact related

end PageFilters
