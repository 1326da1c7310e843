import PageFilters.Proofs.Grammar.Ruleless
import PageFilters.Proofs.Registry.BaseNames

/-!
# Grammars of one name

A name stands for the last loaded grammar of that name, while a file goes to the
first one that claims it, or to the one that its first line speaks for.  The
name of a tokenizer therefore leads back to a grammar, and to its own if that
was loaded last.
-/

namespace PageFilters

namespace GrammarSet

/-- Behind a grammar of the name no other one of that name is loaded. -/
def LoadedLast (set : GrammarSet) (name : String) (grammar : Grammar) : Prop :=
  ∃ earlier later, set.grammars = earlier ++ grammar :: later ∧ grammar.name = name ∧
    ∀ other ∈ later, other.name ≠ name

variable {set : GrammarSet} {filename content name : String} {grammar : Grammar}

theorem find?_eq_some_iff : set.find? name = some grammar ↔ set.LoadedLast name grammar := by
  rw [find?, List.find?_eq_some_iff_append]
  constructor
  · rintro ⟨named, later, earlier, split, others⟩
    refine ⟨earlier.reverse, later.reverse, ?_, by simpa using named, by simpa using others⟩
    simpa using congrArg List.reverse split
  · rintro ⟨earlier, later, split, named, others⟩
    refine ⟨by simpa using named, later.reverse, earlier.reverse, ?_, by simpa using others⟩
    simp [split]

theorem tokenizerNamed_of_loadedLast (last : set.LoadedLast name grammar)
    (nonplain : name ≠ Tokenizer.plainName) : set.tokenizerNamed name = set.tokenizer grammar := by
  have named : grammar.name = name := last.choose_spec.choose_spec.2.1
  simp [tokenizerNamed, find?_eq_some_iff.mpr last, named, nonplain]

theorem exists_loadedLast (loaded : grammar ∈ set.grammars) :
    ∃ last, set.LoadedLast grammar.name last := by
  cases found : set.find? grammar.name with
  | some last => exact ⟨last, find?_eq_some_iff.mp found⟩
  | none =>
      have others := List.find?_eq_none.mp found grammar (List.mem_reverse.mpr loaded)
      simp at others

theorem loadedLast_of_nodup (loaded : grammar ∈ set.grammars)
    (distinct : (set.grammars.map (·.name)).Nodup) : set.LoadedLast grammar.name grammar := by
  obtain ⟨earlier, later, split⟩ := List.append_of_mem loaded
  refine ⟨earlier, later, split, rfl, ?_⟩
  rw [split, List.map_append, List.nodup_append, List.map_cons, List.nodup_cons] at distinct
  intro other member same
  exact distinct.2.1.1 (same ▸ List.mem_map_of_mem member)

theorem contends_or_speaksFor_of_guess (guessed : set.guess filename content = .recognized grammar) :
    (∃ position, set.Contends filename position grammar) ∨ set.SpeaksFor content grammar := by
  have guesses := guesses_guess set filename content
  rw [guessed] at guesses
  cases guesses with
  | only named found =>
      exact Or.inl ((mem_candidates_iff named).mp (found ▸ List.mem_singleton_self grammar))
  | agreed named found spoken among => exact Or.inr spoken
  | preferred named found silent =>
      exact Or.inl ((mem_candidates_iff named).mp (found ▸ preferred_mem _ _ _ _))

/-- What the name of a tokenizer, which is of a grammar, leads back to. -/
structure Recalls (set : GrammarSet) (tokenizer : Tokenizer) (grammar : Grammar) : Prop where
  made : tokenizer = set.tokenizer grammar
  last : ∃ last, set.LoadedLast tokenizer.grammar last ∧
    set.tokenizerNamed tokenizer.grammar = set.tokenizer last
  same : set.LoadedLast tokenizer.grammar grammar ∨ (set.grammars.map (·.name)).Nodup →
    ∀ text, (set.tokenizerNamed tokenizer.grammar).tokenize text = tokenizer.tokenize text

theorem recalls_tokenizer (loaded : grammar ∈ set.grammars)
    (nonplain : grammar.name ≠ Tokenizer.plainName) :
    set.Recalls (set.tokenizer grammar) grammar where
  made := rfl
  last := by
    obtain ⟨last, loadedLast⟩ := exists_loadedLast loaded
    exact ⟨last, loadedLast, tokenizerNamed_of_loadedLast loadedLast nonplain⟩
  same := by
    intro unshadowed text
    have last : set.LoadedLast grammar.name grammar :=
      unshadowed.elim id (loadedLast_of_nodup loaded)
    exact congrArg (·.tokenize text) (tokenizerNamed_of_loadedLast last nonplain)

theorem Contends.recalls {position : Nat} (contends : set.Contends filename position grammar) :
    set.Recalls (set.tokenizer grammar) grammar :=
  recalls_tokenizer contends.held.1 contends.held.2.1

theorem SpeaksFor.recalls (spoken : set.SpeaksFor content grammar) :
    set.Recalls (set.tokenizer grammar) grammar := by
  obtain ⟨line, -, matched, nonplain⟩ := spoken
  exact recalls_tokenizer (List.mem_reverse.mp (List.mem_of_find?_eq_some matched)) nonplain

end GrammarSet

open GrammarSet

/-- A tokenizer that a file name is recognized by is of a contender or of the
grammar that the first line speaks for, and one recognized by content is of the
latter.  Its grammar's name stands for the last loaded grammar of that name: asked
for by the name, the set answers with the tokenizer of that one, which makes the
same tokens of every text if it is the grammar that was recognized, as it is where
no two grammars share a name. -/
theorem tokenizerNamed_recalls {m : Type → Type} [Monad m] [LawfulMonad m] [Logs m]
    (set : GrammarSet) (filename content : String) :
    SatisfiesM
        (fun answer => ∀ tokenizer, answer = .ok (.recognized tokenizer) →
          ∃ grammar, ((∃ position, set.Contends filename position grammar) ∨
              set.SpeaksFor content grammar) ∧
            set.Recalls tokenizer grammar)
        ((set.provider : Provider m).byFilename filename content) ∧
      SatisfiesM
        (fun answer => ∀ tokenizer, answer = .ok (some tokenizer) →
          ∃ grammar, set.SpeaksFor content grammar ∧ set.Recalls tokenizer grammar)
        ((set.provider : Provider m).byContent content) := by
  constructor
  · refine (set.satisfiesM_byFilename set.tokenizer filename content).imp ?_
    rintro _ rfl tokenizer answered
    obtain ⟨grammar, guessed, rfl⟩ := Guess.map_eq_recognized_iff.mp (Except.ok.inj answered)
    have chosen := contends_or_speaksFor_of_guess guessed
    refine ⟨grammar, chosen, ?_⟩
    rcases chosen with ⟨position, contends⟩ | spoken
    · exact contends.recalls
    · exact spoken.recalls
  · refine (set.satisfiesM_byContent set.tokenizer content).imp ?_
    rintro _ rfl tokenizer answered
    obtain ⟨grammar, hinted, rfl⟩ := Option.map_eq_some_iff.mp (Except.ok.inj answered)
    have spoken := hint?_eq_some_iff.mp hinted
    exact ⟨grammar, spoken, spoken.recalls⟩

theorem byFilename_of_alone {set : GrammarSet} {filename base : String} {grammar : Grammar}
    (content : String) (named : FileName.base? filename = some base)
    (found : set.candidates base (FileName.extension? base) = [grammar]) :
    (set.provider : Provider Id).byFilename filename content =
      .ok (.recognized (set.tokenizer grammar)) := by
  have answered := SatisfiesM_Id_eq.mp <|
    set.satisfiesM_byFilename (m := Id) set.tokenizer filename content
  rw [guess_of_alone named found] at answered
  exact answered.symm

/-- Only the later edition claims a dish, so its name leads back to it. -/
theorem tokenizerNamed_recalls_dish :
    LawfulMonad Id ∧ ¬ (reissued.grammars.map (·.name)).Nodup ∧
      ∃ tokenizer, (reissued.provider : Provider Id).byFilename "soup.dish" "salt" =
          .ok (.recognized tokenizer) ∧
        ∀ text, (reissued.tokenizerNamed tokenizer.grammar).tokenize text =
          tokenizer.tokenize text := by
  have named : FileName.base? "soup.dish" = some "soup.dish" := by decide +kernel
  have found : reissued.candidates "soup.dish" (FileName.extension? "soup.dish") =
      [reissued.grammars[1]] := rfl
  have answered := byFilename_of_alone "salt" named found
  have recognized := SatisfiesM_Id_eq.mp
    (tokenizerNamed_recalls (m := Id) reissued "soup.dish" "salt").1
  obtain ⟨grammar, contends | spoken, recalls⟩ := recognized _ answered
  · have listed := (mem_candidates_iff named).mpr contends
    rw [found] at listed
    obtain rfl := List.mem_singleton.mp listed
    have last : reissued.LoadedLast "Recipes" reissued.grammars[1] :=
      ⟨[reissued.grammars[0]], [], rfl, rfl, by simp⟩
    exact ⟨inferInstance, by decide, _, answered, recalls.same (Or.inl last)⟩
  · exact absurd spoken (hint?_eq_none_iff.mp rfl grammar)

/-- A recipe goes to the earlier edition, whose name stands for the later one, and
the two take the same text for different things. -/
theorem tokenizerNamed_differs :
    ∃ tokenizer, (reissued.provider : Provider Id).byFilename "soup.rc" "salt" =
        .ok (.recognized tokenizer) ∧
      (tokenizer.tokenize "salt").tokens = [⟨.comment, "salt"⟩] ∧
      ((reissued.tokenizerNamed tokenizer.grammar).tokenize "salt").tokens =
        [⟨.string, "salt"⟩] := by
  have named : FileName.base? "soup.rc" = some "soup.rc" := by decide +kernel
  have found : reissued.candidates "soup.rc" (FileName.extension? "soup.rc") =
      [reissued.grammars[0]] := rfl
  have earlier : Grammar.Ruleless reissued 2 1 "comment.recipes" :=
    ⟨⟨0, by with_unfolding_all rfl⟩, by with_unfolding_all rfl⟩
  have later : Grammar.Ruleless reissued 5 4 "string.recipes" :=
    ⟨⟨1, by with_unfolding_all rfl⟩, by with_unfolding_all rfl⟩
  have comment : kindOfScopes none ["comment.recipes"] = .comment := by decide +kernel
  have string : kindOfScopes none ["string.recipes"] = .string := by decide +kernel
  refine ⟨_, byFilename_of_alone "salt" named found, ?_, ?_⟩
  · rw [earlier.tokenize_eq rfl, comment]
    rfl
  · change ((reissued.tokenizer reissued.grammars[1]).tokenize _).tokens = _
    rw [later.tokenize_eq rfl, string]
    rfl

end PageFilters
