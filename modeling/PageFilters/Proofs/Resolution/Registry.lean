import PageFilters.Proofs.Registry.Claims
import PageFilters.Proofs.Resolution.Settlement

/-!
# Documents among grammars

A grammar set never fails to answer, and it never answers with plain text.
What its documents are settled on can therefore be told from the claims to the
file name, the interpreter directive and the first line alone.
-/

namespace PageFilters

namespace Guess

variable {α β : Type} {change : α → β} {guess : Guess α}

theorem map_eq_recognized_iff {answer : β} :
    guess.map change = .recognized answer ↔
      ∃ found, guess = .recognized found ∧ change found = answer := by
  cases guess <;> simp [map]

theorem map_eq_notRecognized_iff : guess.map change = .notRecognized ↔ guess = .notRecognized := by
  cases guess <;> simp [map]

theorem map_eq_ambiguous_iff {candidates : List String} :
    guess.map change = .ambiguous candidates ↔ guess = .ambiguous candidates := by
  cases guess <;> simp [map]

end Guess

namespace GrammarSet

section Effects

variable {m : Type → Type} [Monad m] [LawfulMonad m] [Logs m]

theorem satisfiesM_byFilename (set : GrammarSet) (tokenizer : Grammar → Tokenizer)
    (filename content : String) :
    SatisfiesM (Except.ok ((set.guess filename content).map tokenizer) = ·)
      ((set.providerOf tokenizer : Provider m).byFilename filename content) := by
  unfold providerOf
  dsimp only
  split
  next => exact SatisfiesM.trivial.bind fun _ _ => SatisfiesM.pure rfl
  next => exact SatisfiesM.pure rfl

theorem satisfiesM_byContent (set : GrammarSet) (tokenizer : Grammar → Tokenizer)
    (content : String) :
    SatisfiesM (Except.ok ((set.hint? content).map tokenizer) = ·)
      ((set.providerOf tokenizer : Provider m).byContent content) :=
  SatisfiesM.pure rfl

end Effects

/-- A resolution is of the origin that the claims to the file, the interpreter
directive and the first line call for. -/
structure Justifies (set : GrammarSet) (document : Document) (resolution : Resolution) :
    Prop where
  grammar : resolution.tokenizer.grammar = Tokenizer.plainName ↔
    ∃ reason, resolution.origin = .fallback reason
  filename : resolution.origin = .filename ↔
    ∃ grammar, set.guess document.filename document.content = .recognized grammar
  shebang : resolution.origin = .shebang ↔
    (∀ grammar, ¬ set.Claims document.filename grammar) ∧
      ['#', '!'] <+: document.content.toList ∧
      ∃ grammar, set.SpeaksFor document.content grammar
  noShebangMatch : resolution.origin = .fallback .noShebangMatch ↔
    (∀ grammar, ¬ set.Claims document.filename grammar) ∧
      ['#', '!'] <+: document.content.toList ∧
      ∀ grammar, ¬ set.SpeaksFor document.content grammar
  notRecognized : resolution.origin = .fallback .notRecognized ↔
    (∀ grammar, ¬ set.Claims document.filename grammar) ∧
      ¬ ['#', '!'] <+: document.content.toList
  ambiguous : resolution.origin = .fallback .ambiguous ↔
    (∃ left right, set.Claims document.filename left ∧ set.Claims document.filename right ∧
        left.name ≠ right.name) ∧
      ∃ hint, set.SpeaksFor document.content hint ∧
        ∀ grammar, set.Claims document.filename grammar → grammar.name ≠ hint.name
  answered : resolution.origin ≠ .fallback .providerFault
  enabled : resolution.origin ≠ .fallback .disabled

section OneSet

variable {set : GrammarSet} {filename content : String} {tokenizer : Tokenizer}

theorem grammar_of_guess_eq_recognized
    (guessed : (set.guess filename content).map set.tokenizer = .recognized tokenizer) :
    tokenizer.grammar ≠ Tokenizer.plainName := by
  obtain ⟨grammar, recognized, rfl⟩ := Guess.map_eq_recognized_iff.mp guessed
  exact name_of_guess_eq_recognized recognized

theorem grammar_of_hint?_eq_some
    (hinted : (set.hint? content).map set.tokenizer = some tokenizer) :
    tokenizer.grammar ≠ Tokenizer.plainName := by
  obtain ⟨grammar, spoken, rfl⟩ := Option.map_eq_some_iff.mp hinted
  exact (speaksFor_iff.mp (hint?_eq_some_iff.mp spoken)).2

end OneSet

theorem justifies_of_settles (set : GrammarSet) {document : Document} {resolution : Resolution}
    (settled : Settles document
      (Except.ok ((set.guess document.filename document.content).map set.tokenizer) = ·)
      (Except.ok ((set.hint? document.content).map set.tokenizer) = ·) resolution) :
    set.Justifies document resolution := by
  have unclaimed :
      (set.guess document.filename document.content).map set.tokenizer = .notRecognized ↔
        ∀ grammar, ¬ set.Claims document.filename grammar := by
    rw [Guess.map_eq_notRecognized_iff, guess_eq_notRecognized_iff]
  have directive : document.hasShebang = true ↔ ['#', '!'] <+: document.content.toList :=
    List.isPrefixOf_iff_prefix
  have spoken : (∃ tokenizer, (set.hint? document.content).map set.tokenizer = some tokenizer) ↔
      ∃ grammar, set.SpeaksFor document.content grammar := by
    simp [hint?_eq_some_iff]
  have silent : (set.hint? document.content).map set.tokenizer = none ↔
      ∀ grammar, ¬ set.SpeaksFor document.content grammar := by
    rw [Option.map_eq_none_iff, hint?_eq_none_iff]
  exact {
    grammar := by
      constructor
      · intro plain
        cases settled with
        | named claimed =>
            exact absurd plain (grammar_of_guess_eq_recognized (Except.ok.inj claimed))
        | directed unclaimed directive matched =>
            exact absurd plain (grammar_of_hint?_eq_some (Except.ok.inj matched))
        | ambiguous contested => exact ⟨_, rfl⟩
        | filenameFault failed => exact ⟨_, rfl⟩
        | unknown unclaimed bare => exact ⟨_, rfl⟩
        | unmatched unclaimed directive silent => exact ⟨_, rfl⟩
        | contentFault unclaimed directive failed => exact ⟨_, rfl⟩
      · rintro ⟨reason, fallen⟩
        rw [settled.eq_fallback fallen]
        rfl
    filename := by
      rw [settled.origin_eq_filename_iff]
      simp [Guess.map_eq_recognized_iff]
    shebang := by
      rw [settled.origin_eq_shebang_iff]
      simp only [Except.ok.injEq, unclaimed, directive, spoken]
    noShebangMatch := by
      rw [settled.origin_eq_noShebangMatch_iff]
      simp only [Except.ok.injEq, unclaimed, directive, silent]
    notRecognized := by
      rw [settled.origin_eq_notRecognized_iff, ← Bool.not_eq_true]
      simp only [Except.ok.injEq, unclaimed, directive]
    ambiguous := by
      rw [settled.origin_eq_ambiguous_iff]
      simp only [Except.ok.injEq, Guess.map_eq_ambiguous_iff, exists_guess_eq_ambiguous_iff]
    answered := by
      rw [ne_eq, settled.origin_eq_providerFault_iff]
      simp
    enabled := settled.ne_disabled }

end GrammarSet

/-- Among grammars, what settles on a tokenizer is the file name if it is
recognized; the interpreter directive if nothing claims the file and the first
line speaks for a grammar; and otherwise a reason to show plain text, and only
then is plain text shown. -/
theorem resolve_justified {m : Type → Type} [Monad m] [LawfulMonad m] [Logs m] (set : GrammarSet)
    (document : Document) :
    SatisfiesM (set.Justifies document) (resolve (set.provider : Provider m) document) := by
  have settled := satisfiesM_settles
    (set.satisfiesM_byFilename (m := m) set.tokenizer document.filename document.content)
    (set.satisfiesM_byContent set.tokenizer document.content)
  exact settled.imp fun known => set.justifies_of_settles known

/-- Two grammars that claim headers, and one that is recognized by its
interpreter. -/
def GrammarSet.scripts : GrammarSet where
  grammars := [
    { name := "C", scope := "source.c", claims := ["c", "h"], firstLine := none, start := none },
    { name := "C++", scope := "source.c++", claims := ["cpp", "h"]
      firstLine := none, start := none },
    { name := "AWK", scope := "source.awk", claims := ["awk"]
      firstLine := Regex.parse? "^#!.*awk".toList, start := none }]

/-- The same interpreter directive settles a file that nothing claims, and leaves
a header ambiguous. -/
theorem resolve_justified_interpreter :
    let content := "#!/usr/bin/awk -f\nBEGIN"
    let origin (filename content : String) : Origin :=
      (resolve (GrammarSet.scripts.provider : Provider Id) ⟨filename, content⟩).origin
    origin "report" content = .shebang ∧
      origin "report" "#!/usr/bin/env lua\n" = .fallback .noShebangMatch ∧
      origin "report.h" content = .fallback .ambiguous := by
  intro content origin
  have justified (filename content : String) :=
    SatisfiesM_Id_eq.mp (resolve_justified (m := Id) GrammarSet.scripts ⟨filename, content⟩)
  have named : FileName.base? "report" = some "report" := by decide +kernel
  have unclaimed : ∀ grammar, ¬ GrammarSet.scripts.Claims "report" grammar := by
    have found : GrammarSet.scripts.candidates "report" (FileName.extension? "report") = [] := rfl
    have guesses : GrammarSet.scripts.Guesses "report" content .notRecognized :=
      .unclaimed named found
    exact guesses.not_claims
  have spoken : ∃ grammar, GrammarSet.scripts.SpeaksFor content grammar := by
    have hinted : (GrammarSet.scripts.hint? content).isSome = true := by decide +kernel
    obtain ⟨grammar, hinted⟩ := Option.isSome_iff_exists.mp hinted
    exact ⟨grammar, GrammarSet.hint?_eq_some_iff.mp hinted⟩
  have silent : ∀ grammar, ¬ GrammarSet.scripts.SpeaksFor "#!/usr/bin/env lua\n" grammar := by
    apply GrammarSet.hint?_eq_none_iff.mp
    rw [← Option.isNone_iff_eq_none]
    decide +kernel
  have contested : GrammarSet.scripts.guess "report.h" content = .ambiguous ["C", "C++"] := by
    have names : (GrammarSet.scripts.guess "report.h" content).map (·.name) =
        .ambiguous ["C", "C++"] := by decide +kernel
    exact Guess.map_eq_ambiguous_iff.mp names
  refine ⟨?_, ?_, ?_⟩
  · exact (justified _ _).shebang.mpr ⟨unclaimed, by decide, spoken⟩
  · exact (justified _ _).noShebangMatch.mpr ⟨unclaimed, by decide, silent⟩
  · exact (justified _ _).ambiguous.mpr (GrammarSet.exists_guess_eq_ambiguous_iff.mp ⟨_, contested⟩)

end PageFilters
