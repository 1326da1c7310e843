import PageFilters.Grammar.Linking
import PageFilters.Proofs.Registry.Guesses

/-!
# Claims to base names

Where the first line is silent a file goes to a grammar that claims its base
name, provided that one of the contenders does.  It need not go to one if every
grammar that claims the base name comes after one of its own name that claims
the extension only, because the later of the two does not contend.
-/

namespace PageFilters

namespace GrammarSet

variable {set : GrammarSet} {filename content : String} {grammar : Grammar} {position : Nat}

theorem Claims.exists_contends_of_nodup (claimed : set.Claims filename grammar)
    (distinct : (set.grammars.map (·.name)).Nodup) :
    ∃ position, set.Contends filename position grammar := by
  obtain ⟨-, -, base, named, -⟩ := id claimed
  obtain ⟨position, contender, contends, same⟩ := claimed.exists_contender named
  have equal : contender = grammar :=
    List.inj_on_of_nodup_map distinct contends.held.1 claimed.1 same
  exact ⟨position, equal ▸ contends⟩

/-- A silent first line leaves a claimed file to a contender, and to one that
claims the base name as soon as any contender does. -/
theorem Contends.exists_guess_of_silent (contends : set.Contends filename position grammar)
    (silent : ∀ hint, ¬ set.SpeaksFor content hint) :
    ∃ place found, set.guess filename content = .recognized found ∧
      set.Contends filename place found ∧
      (found.ClaimsBase filename ↔ ∃ other contender, set.Contends filename other contender ∧
        contender.ClaimsBase filename) := by
  have decides := set.decides_guess filename content
  by_cases contested : set.Contested filename
  · by_cases based : ∃ other contender, set.Contends filename other contender ∧
        contender.ClaimsBase filename
    · obtain ⟨place, found, foundContends, claims, -, guessed⟩ :=
        decides.byBase contested silent based
      exact ⟨place, found, guessed, foundContends, iff_of_true claims based⟩
    · have extended : ∀ other contender, set.Contends filename other contender →
          ¬ contender.ClaimsBase filename := by
        intro other contender otherContends claims
        exact based ⟨other, contender, otherContends, claims⟩
      obtain ⟨place, found, -, foundContends, -, -, guessed⟩ :=
        decides.byExtension contested silent extended
      exact ⟨place, found, guessed, foundContends,
        iff_of_false (extended place found foundContends) based⟩
  · have only : ∀ other contender, set.Contends filename other contender → other = position := by
      intro other contender otherContends
      by_contra apart
      exact contested ⟨other, position, contender, grammar, otherContends, contends, apart⟩
    refine ⟨position, grammar, decides.alone position grammar contends only, contends, ?_⟩
    constructor
    · intro claims
      exact ⟨position, grammar, contends, claims⟩
    · rintro ⟨other, contender, otherContends, claims⟩
      obtain rfl := only other contender otherContends
      obtain rfl := contends.grammar_eq otherContends
      exact claims

end GrammarSet

open GrammarSet

/-- A file whose base name some grammar claims is recognized where the first line
is silent.  The answer claims the base name if and only if some grammar that
claims it is the first one of its name to claim the file, as each is where no two
grammars share a name. -/
theorem guess_of_claimsBase {set : GrammarSet} {filename content : String} {grammar : Grammar}
    (loaded : grammar ∈ set.grammars) (nonplain : grammar.name ≠ Tokenizer.plainName)
    (claims : grammar.ClaimsBase filename) (silent : ∀ hint, ¬ set.SpeaksFor content hint) :
    ∃ position found, set.guess filename content = .recognized found ∧
      set.Contends filename position found ∧
      (found.ClaimsBase filename ↔ ∃ other contender, set.Contends filename other contender ∧
        contender.ClaimsBase filename) ∧
      ((set.grammars.map (·.name)).Nodup → found.ClaimsBase filename) := by
  obtain ⟨base, named, claimsBase⟩ := id claims
  have claimed : set.Claims filename grammar :=
    ⟨loaded, nonplain, base, named, Or.inl claimsBase⟩
  obtain ⟨_, _, contends, -⟩ := claimed.exists_contender named
  obtain ⟨place, found, guessed, foundContends, based⟩ := contends.exists_guess_of_silent silent
  refine ⟨place, found, guessed, foundContends, based, ?_⟩
  intro distinct
  obtain ⟨position, grammarContends⟩ := claimed.exists_contends_of_nodup distinct
  exact based.mpr ⟨position, grammar, grammarContends, claims⟩

/-- Two grammars for recipes, the later of which claims one file by its name. -/
def GrammarSet.recipes : GrammarSet := .link [
  { name := "Recipes", scope := "source.recipes", claims := ["rc"], contexts := [("main", [])] },
  { name := "Kitchen", scope := "source.kitchen", claims := ["Menu.RC"]
    contexts := [("main", [])] }]

/-- The later one takes that file from the earlier one, which claims its
extension. -/
theorem guess_of_claimsBase_menu :
    ∃ grammar ∈ recipes.grammars, grammar.name ≠ Tokenizer.plainName ∧
      grammar.ClaimsBase "home/menu.rc" ∧
      (∀ hint, ¬ recipes.SpeaksFor "salt" hint) ∧
      ∃ found, recipes.guess "home/menu.rc" "salt" = .recognized found ∧
        found.ClaimsBase "home/menu.rc" := by
  have named : FileName.base? "home/menu.rc" = some "menu.rc" := by decide +kernel
  have claims : (recipes.grammars[1]).ClaimsBase "home/menu.rc" := ⟨"menu.rc", named, rfl⟩
  have loaded : recipes.grammars[1] ∈ recipes.grammars := List.getElem_mem (by decide)
  have nonplain : (recipes.grammars[1]).name ≠ Tokenizer.plainName := by decide
  have silent := hint?_eq_none_iff.mp (rfl : recipes.hint? "salt" = none)
  obtain ⟨position, found, guessed, -, -, distinct⟩ :=
    guess_of_claimsBase loaded nonplain claims silent
  exact ⟨_, loaded, nonplain, claims, silent, found, guessed, distinct (by decide)⟩

/-- Two editions of one grammar, the later of which claims a file by its name. -/
def GrammarSet.reissued : GrammarSet := .link [
  { name := "Recipes", scope := "comment.recipes", claims := ["rc"], contexts := [("main", [])] },
  { name := "Recipes", scope := "string.recipes", claims := ["menu.rc", "dish"]
    contexts := [("main", [])] }]

/-- The earlier edition takes the file, although it claims the extension only. -/
theorem guess_passes_over_claimsBase :
    ∃ grammar ∈ reissued.grammars, ∃ found,
      grammar.name ≠ Tokenizer.plainName ∧ grammar.ClaimsBase "menu.rc" ∧
      reissued.findByLine? (firstLine "salt") = none ∧
      reissued.guess "menu.rc" "salt" = .recognized found ∧
      ¬ found.ClaimsBase "menu.rc" := by
  have named : FileName.base? "menu.rc" = some "menu.rc" := by decide +kernel
  have found : reissued.candidates "menu.rc" (FileName.extension? "menu.rc") =
      [reissued.grammars[0]] := rfl
  have silent : reissued.findByLine? (firstLine "salt") = none := rfl
  refine ⟨reissued.grammars[1], List.getElem_mem (by decide), _, by decide,
    ⟨"menu.rc", named, rfl⟩, silent, guess_of_alone named found, ?_⟩
  rw [Grammar.claimsBase_iff named]
  decide

end PageFilters
