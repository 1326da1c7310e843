import PageFilters.Proofs.Registry.Contenders
import PageFilters.Proofs.Resolution.Registry

/-!
# What a guess is told from

The contenders, their base names, the indices at which they list the extension,
their positions in the load order and the grammar that the first line speaks for
settle what is guessed.  `Decides` says for each case what the guess is, and
`byFilename_decided` that a provider's answer is this guess.
-/

namespace PageFilters

/-- The names in a guess about grammars. -/
def Guess.names : Guess Grammar → List String
  | .recognized grammar => [grammar.name]
  | .notRecognized => []
  | .ambiguous candidates => candidates

namespace GrammarSet

def Contested (set : GrammarSet) (filename : String) : Prop :=
  ∃ left right leftGrammar rightGrammar, set.Contends filename left leftGrammar ∧
    set.Contends filename right rightGrammar ∧ left ≠ right

/-- A guess about a file with a content is the one that its contenders call
for. -/
structure Decides (set : GrammarSet) (filename content : String) (guess : Guess Grammar) :
    Prop where
  unknown : guess = .notRecognized ↔
    FileName.base? filename = none ∨ ∀ position grammar, ¬ set.Contends filename position grammar
  alone : ∀ position grammar, set.Contends filename position grammar →
    (∀ other contender, set.Contends filename other contender → other = position) →
    guess = .recognized grammar
  agreed : set.Contested filename → ∀ hint, set.SpeaksFor content hint →
    (∃ position grammar, set.Contends filename position grammar ∧ grammar.name = hint.name) →
    guess = .recognized hint
  contradicted : set.Contested filename → ∀ hint, set.SpeaksFor content hint →
    (∀ position grammar, set.Contends filename position grammar → grammar.name ≠ hint.name) →
    ∃ ranking, set.Ranks filename ranking ∧ (ranking.map (·.2.name)).Nodup ∧
      guess = .ambiguous (ranking.map (·.2.name))
  byBase : set.Contested filename → (∀ hint, ¬ set.SpeaksFor content hint) →
    (∃ position grammar, set.Contends filename position grammar ∧
      grammar.ClaimsBase filename) →
    ∃ position grammar, set.Contends filename position grammar ∧ grammar.ClaimsBase filename ∧
      (∀ other contender, set.Contends filename other contender →
        contender.ClaimsBase filename → position ≤ other) ∧
      guess = .recognized grammar
  byExtension : set.Contested filename → (∀ hint, ¬ set.SpeaksFor content hint) →
    (∀ position grammar, set.Contends filename position grammar →
      ¬ grammar.ClaimsBase filename) →
    ∃ position grammar index, set.Contends filename position grammar ∧
      grammar.ListsExtension filename index ∧
      (∀ other contender otherIndex, set.Contends filename other contender →
        contender.ListsExtension filename otherIndex →
        index < otherIndex ∨ index = otherIndex ∧ position ≤ other) ∧
      guess = .recognized grammar
  plainless : Tokenizer.plainName ∉ guess.names

variable {set : GrammarSet} {filename content base : String} {grammar : Grammar} {position : Nat}

theorem Contested.exists_ranking (contested : set.Contested filename) :
    ∃ base first second rest, FileName.base? filename = some base ∧
      set.Ranks filename (first :: second :: rest) ∧
      set.candidates base (FileName.extension? base) =
        first.2 :: second.2 :: rest.map Prod.snd := by
  obtain ⟨left, right, leftGrammar, rightGrammar, leftContends, rightContends, apart⟩ := contested
  obtain ⟨-, -, base, named, -⟩ := leftContends.held
  have ranks : set.Ranks filename _ := ranks_ranking named
  have leftListed := (ranks.mem_iff left leftGrammar).mpr leftContends
  have rightListed := (ranks.mem_iff right rightGrammar).mpr rightContends
  have found := set.map_snd_ranking base (FileName.extension? base)
  generalize set.ranking base (FileName.extension? base) = ranking at *
  cases ranking with
  | nil => contradiction
  | cons first rest =>
      cases rest with
      | nil =>
          rw [List.mem_singleton] at leftListed rightListed
          exact absurd (congrArg Prod.fst (leftListed.trans rightListed.symm)) apart
      | cons second rest => exact ⟨base, first, second, rest, named, ranks, found.symm⟩

theorem nodup_candidate_names (set : GrammarSet) (base : String) (extension : Option String) :
    ((set.candidates base extension).map (·.name)).Nodup :=
  List.pairwise_map.mpr (set.pairwise_candidates base extension)

section Found

variable (named : FileName.base? filename = some base)

include named

theorem guess_of_alone
    (found : set.candidates base (FileName.extension? base) = [grammar]) :
    set.guess filename content = .recognized grammar := by
  simp [guess, named, found]

variable {first second : Grammar} {rest : List Grammar}
  (found : set.candidates base (FileName.extension? base) = first :: second :: rest)

include found

theorem guess_of_agreed {hint : Grammar} (spoken : set.SpeaksFor content hint)
    (among : ∃ candidate ∈ first :: second :: rest, candidate.name = hint.name) :
    set.guess filename content = .recognized hint := by
  have hinted := hint?_eq_some_iff.mpr spoken
  have any : ((first :: second :: rest).any fun candidate => candidate.name == hint.name) = true :=
    List.any_eq_true.mpr (by simpa using among)
  simp only [guess, named, found, hinted, any, if_true]

theorem guess_of_contradicted {hint : Grammar} (spoken : set.SpeaksFor content hint)
    (beyond : ∀ candidate ∈ first :: second :: rest, candidate.name ≠ hint.name) :
    set.guess filename content = .ambiguous ((first :: second :: rest).map (·.name)) := by
  have hinted := hint?_eq_some_iff.mpr spoken
  have none :
      ((first :: second :: rest).any fun candidate => candidate.name == hint.name) = false :=
    List.any_eq_false.mpr (by simpa using beyond)
  simp only [guess, named, found, hinted, none, Bool.false_eq_true, if_false]

theorem guess_of_silent (silent : ∀ hint, ¬ set.SpeaksFor content hint) :
    set.guess filename content =
      .recognized (preferred base (FileName.extension? base) first (second :: rest)) := by
  have hinted := hint?_eq_none_iff.mpr silent
  simp only [guess, named, found, hinted]

end Found

theorem unclaimed_iff :
    (∀ grammar, ¬ set.Claims filename grammar) ↔ FileName.base? filename = none ∨
      ∀ position grammar, ¬ set.Contends filename position grammar := by
  constructor
  · intro unclaimed
    exact Or.inr fun position grammar contends => unclaimed grammar contends.held
  · rintro (nameless | uncontended) grammar claimed
    · obtain ⟨-, -, base, named, -⟩ := claimed
      rw [nameless] at named
      contradiction
    · obtain ⟨-, -, base, named, -⟩ := id claimed
      obtain ⟨position, contender, contends, -⟩ := claimed.exists_contender named
      exact uncontended position contender contends

theorem Contends.exists_candidates (contends : set.Contends filename position grammar)
    (only : ∀ other contender, set.Contends filename other contender → other = position) :
    ∃ base, FileName.base? filename = some base ∧
      set.candidates base (FileName.extension? base) = [grammar] := by
  obtain ⟨-, -, base, named, -⟩ := contends.held
  have listed := (mem_candidates_iff named).mpr ⟨position, contends⟩
  have same : ∀ candidate ∈ set.candidates base (FileName.extension? base),
      candidate = grammar := by
    intro candidate member
    obtain ⟨place, candidateContends⟩ := (mem_candidates_iff named).mp member
    obtain rfl := only place candidate candidateContends
    exact candidateContends.grammar_eq contends
  have distinct := set.pairwise_candidates base (FileName.extension? base)
  refine ⟨base, named, ?_⟩
  cases found : set.candidates base (FileName.extension? base) with
  | nil =>
      rw [found] at listed
      contradiction
  | cons first rest =>
      rw [found] at same distinct
      obtain ⟨rfl, others⟩ := List.forall_mem_cons.mp same
      cases rest with
      | nil => rfl
      | cons second rest =>
          have again := others second List.mem_cons_self
          apply absurd (congrArg (·.name) again.symm)
          exact List.rel_of_pairwise_cons distinct List.mem_cons_self

theorem guess_names_plainless (set : GrammarSet) (filename content : String) :
    Tokenizer.plainName ∉ (set.guess filename content).names := by
  have guesses := guesses_guess set filename content
  cases guessed : set.guess filename content with
  | notRecognized => exact List.not_mem_nil
  | recognized grammar =>
      intro listed
      exact name_of_guess_eq_recognized guessed (List.mem_singleton.mp listed).symm
  | ambiguous candidates =>
      rw [guessed] at guesses
      cases guesses with
      | contradicted named found spoken beyond =>
          intro listed
          obtain ⟨grammar, member, plain⟩ := List.mem_map.mp listed
          exact (claims_of_mem_candidates named (found ▸ member)).2.1 plain

theorem decides_guess (set : GrammarSet) (filename content : String) :
    set.Decides filename content (set.guess filename content) where
  unknown := guess_eq_notRecognized_iff.trans unclaimed_iff
  alone := by
    intro position grammar contends only
    obtain ⟨base, named, found⟩ := contends.exists_candidates only
    exact guess_of_alone named found
  agreed := by
    rintro contested hint spoken ⟨position, grammar, contends, same⟩
    obtain ⟨base, first, second, rest, named, ranks, found⟩ := contested.exists_ranking
    have listed := (ranks.mem_iff position grammar).mpr contends
    exact guess_of_agreed named found spoken ⟨grammar, List.mem_map_of_mem listed, same⟩
  contradicted := by
    intro contested hint spoken beyond
    obtain ⟨base, first, second, rest, named, ranks, found⟩ := contested.exists_ranking
    have apart : ∀ candidate ∈ (first :: second :: rest).map Prod.snd,
        candidate.name ≠ hint.name := by
      intro candidate listed
      obtain ⟨⟨position, _⟩, member, rfl⟩ := List.mem_map.mp listed
      exact beyond position _ ((ranks.mem_iff position _).mp member)
    have names : (first :: second :: rest).map (·.2.name) =
        ((first :: second :: rest).map Prod.snd).map (·.name) := List.map_map.symm
    have distinct := set.nodup_candidate_names base (FileName.extension? base)
    rw [found] at distinct
    refine ⟨first :: second :: rest, ranks, names ▸ distinct, ?_⟩
    rw [guess_of_contradicted named found spoken apart, names]
    rfl
  byBase := by
    rintro contested silent ⟨position, grammar, contends, claims⟩
    obtain ⟨base, first, second, rest, named, ranks, found⟩ := contested.exists_ranking
    have firstClaims := (ranks.first_of_claimsBase contends claims).1
    refine ⟨first.1, first.2, ranks.contends_first, firstClaims, ?_, ?_⟩
    · intro other contender otherContends otherClaims
      exact (ranks.first_of_claimsBase otherContends otherClaims).2
    · rw [guess_of_silent named found silent, preferred,
        if_pos ((Grammar.claimsBase_iff named).mp firstClaims)]
  byExtension := by
    intro contested silent extended
    obtain ⟨base, first, second, rest, named, ranks, found⟩ := contested.exists_ranking
    obtain ⟨position, grammar, index, contends, lists, least, same⟩ :=
      ranks.exists_preferred named extended
    refine ⟨position, grammar, index, contends, lists, least, ?_⟩
    rw [guess_of_silent named found silent]
    exact congrArg Guess.recognized same
  plainless := set.guess_names_plainless filename content

end GrammarSet

/-- Grammars that list an extension at different places. -/
def GrammarSet.headers : GrammarSet where
  grammars := [
    { name := "Objective-C", scope := "source.objc", claims := ["m", "mm", "h"]
      firstLine := none, start := none },
    { name := "C", scope := "source.c", claims := ["c", "H"], firstLine := none, start := none },
    { name := "C++", scope := "source.c++", claims := ["cpp", "h"]
      firstLine := none, start := none }]

end PageFilters
