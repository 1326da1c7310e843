import Mathlib
import PageFilters.Proofs.Registry.FirstLine
import PageFilters.Registry

/-!
# Claims and guesses

What a guess says about a grammar set, apart from the order in which grammars
are looked through: which of them claim the file, and which one the first line
speaks for.  `Guesses` has one case for each way to a guess.
-/

namespace PageFilters

namespace Grammar

variable {grammar : Grammar} {grammars : List Grammar}

theorem mem_of_mem_firstOfEachName (kept : grammar ∈ firstOfEachName grammars) :
    grammar ∈ grammars := by
  induction grammars with
  | nil => exact kept
  | cons first rest induction =>
      rcases List.mem_cons.mp kept with same | later
      · exact same ▸ List.mem_cons_self
      · exact List.mem_cons_of_mem first (induction (List.mem_filter.mp later).1)

theorem exists_mem_firstOfEachName (member : grammar ∈ grammars) :
    ∃ first ∈ firstOfEachName grammars, first.name = grammar.name := by
  induction grammars with
  | nil => contradiction
  | cons head rest induction =>
      by_cases named : grammar.name = head.name
      · exact ⟨head, List.mem_cons_self, named.symm⟩
      · have behind : grammar ∈ rest :=
          (List.mem_cons.mp member).resolve_left fun same => named (congrArg Grammar.name same)
        obtain ⟨first, kept, same⟩ := induction behind
        have other : first.name ≠ head.name := same ▸ named
        refine ⟨first, List.mem_cons_of_mem head ?_, same⟩
        exact List.mem_filter.mpr ⟨kept, bne_iff_ne.mpr other⟩

theorem pairwise_firstOfEachName (grammars : List Grammar) :
    (firstOfEachName grammars).Pairwise fun left right => left.name ≠ right.name := by
  induction grammars with
  | nil => exact List.Pairwise.nil
  | cons head rest induction =>
      refine List.Pairwise.cons ?_ (induction.filter _)
      intro other kept
      exact Ne.symm (bne_iff_ne.mp (List.mem_filter.mp kept).2)

theorem earliest_mem (extension : Option String) (first : Grammar) (rest : List Grammar) :
    earliest extension first rest ∈ first :: rest := by
  unfold earliest
  refine List.foldlRecOn rest _ List.mem_cons_self ?_
  intro best member grammar listed
  split
  · exact List.mem_cons_of_mem first listed
  · exact member

end Grammar

namespace GrammarSet

theorem preferred_mem (base : String) (extension : Option String) (first : Grammar)
    (rest : List Grammar) : preferred base extension first rest ∈ first :: rest := by
  unfold preferred
  split
  · exact List.mem_cons_self
  · exact Grammar.earliest_mem extension first rest

/-- A grammar other than the plain one lists the base name or the extension of a
file. -/
def Claims (set : GrammarSet) (filename : String) (grammar : Grammar) : Prop :=
  grammar ∈ set.grammars ∧ grammar.name ≠ Tokenizer.plainName ∧
    ∃ base, FileName.base? filename = some base ∧
      (grammar.claimsName base = true ∨
        ∃ extension, FileName.extension? base = some extension ∧
          grammar.claimsName extension = true)

/-- The first line of a content speaks for a grammar other than the plain one. -/
def SpeaksFor (set : GrammarSet) (content : String) (grammar : Grammar) : Prop :=
  ∃ line, Text.IsFirstLine content.toList line ∧
    set.findByLine? line = some grammar ∧ grammar.name ≠ Tokenizer.plainName

variable {set : GrammarSet} {filename content base : String} {grammar : Grammar}

theorem speaksFor_iff :
    set.SpeaksFor content grammar ↔
      set.findByLine? (firstLine content) = some grammar ∧ grammar.name ≠ Tokenizer.plainName := by
  simp [SpeaksFor, isFirstLine_iff]

theorem hint?_eq_some_iff : set.hint? content = some grammar ↔ set.SpeaksFor content grammar := by
  simp [hint?, speaksFor_iff, Option.filter_eq_some_iff]

theorem hint?_eq_none_iff :
    set.hint? content = none ↔ ∀ grammar, ¬ set.SpeaksFor content grammar := by
  simp only [Option.eq_none_iff_forall_ne_some, ne_eq, hint?_eq_some_iff]

theorem claims_iff (named : FileName.base? filename = some base) :
    set.Claims filename grammar ↔
      grammar ∈ set.grammars.filter fun grammar =>
        grammar.name != Tokenizer.plainName &&
          grammar.claimsFile base (FileName.extension? base) := by
  simp [Claims, named, Grammar.claimsFile, Option.any_eq_true]

/-- The candidates are the claimants, less those whose name is taken. -/
theorem candidates_perm (set : GrammarSet) (base : String) (extension : Option String) :
    (set.candidates base extension).Perm
      (Grammar.firstOfEachName (set.grammars.filter fun grammar =>
        grammar.name != Tokenizer.plainName && grammar.claimsFile base extension)) :=
  List.filter_append_perm _ _

theorem claims_of_mem_candidates (named : FileName.base? filename = some base)
    (listed : grammar ∈ set.candidates base (FileName.extension? base)) :
    set.Claims filename grammar :=
  (claims_iff named).mpr
    (Grammar.mem_of_mem_firstOfEachName ((set.candidates_perm base _).mem_iff.mp listed))

theorem Claims.exists_candidate (claimed : set.Claims filename grammar)
    (named : FileName.base? filename = some base) :
    ∃ candidate ∈ set.candidates base (FileName.extension? base),
      candidate.name = grammar.name := by
  obtain ⟨candidate, kept, same⟩ :=
    Grammar.exists_mem_firstOfEachName ((claims_iff named).mp claimed)
  exact ⟨candidate, (set.candidates_perm base _).mem_iff.mpr kept, same⟩

theorem pairwise_candidates (set : GrammarSet) (base : String) (extension : Option String) :
    (set.candidates base extension).Pairwise fun left right => left.name ≠ right.name :=
  ((set.candidates_perm base extension).pairwise_iff Ne.symm).mpr
    (Grammar.pairwise_firstOfEachName _)

/-- The ways to a guess. -/
inductive Guesses (set : GrammarSet) (filename content : String) : Guess Grammar → Prop where
  | nameless (nameless : FileName.base? filename = none) :
      Guesses set filename content .notRecognized
  | unclaimed {base : String} (named : FileName.base? filename = some base)
      (found : set.candidates base (FileName.extension? base) = []) :
      Guesses set filename content .notRecognized
  | only {base : String} {grammar : Grammar} (named : FileName.base? filename = some base)
      (found : set.candidates base (FileName.extension? base) = [grammar]) :
      Guesses set filename content (.recognized grammar)
  | agreed {base : String} {first second hint : Grammar} {rest : List Grammar}
      (named : FileName.base? filename = some base)
      (found : set.candidates base (FileName.extension? base) = first :: second :: rest)
      (spoken : set.SpeaksFor content hint)
      (among : ∃ candidate ∈ first :: second :: rest, candidate.name = hint.name) :
      Guesses set filename content (.recognized hint)
  | contradicted {base : String} {first second hint : Grammar} {rest : List Grammar}
      (named : FileName.base? filename = some base)
      (found : set.candidates base (FileName.extension? base) = first :: second :: rest)
      (spoken : set.SpeaksFor content hint)
      (beyond : ∀ candidate ∈ first :: second :: rest, candidate.name ≠ hint.name) :
      Guesses set filename content (.ambiguous ((first :: second :: rest).map (·.name)))
  | preferred {base : String} {first second : Grammar} {rest : List Grammar}
      (named : FileName.base? filename = some base)
      (found : set.candidates base (FileName.extension? base) = first :: second :: rest)
      (silent : ∀ hint, ¬ set.SpeaksFor content hint) :
      Guesses set filename content
        (.recognized (preferred base (FileName.extension? base) first (second :: rest)))

theorem guesses_guess (set : GrammarSet) (filename content : String) :
    set.Guesses filename content (set.guess filename content) := by
  unfold guess
  split
  next nameless => exact .nameless nameless
  next base named =>
    dsimp only
    split
    next found => exact .unclaimed named found
    next only found => exact .only named found
    next first rest several found =>
      cases rest with
      | nil => exact absurd rfl several
      | cons second rest =>
        cases hinted : set.hint? content with
        | none => exact .preferred named found (hint?_eq_none_iff.mp hinted)
        | some hint =>
          have spoken := hint?_eq_some_iff.mp hinted
          dsimp only
          split
          next among =>
            refine .agreed named found spoken ?_
            simpa using among
          next beyond =>
            refine .contradicted named found spoken ?_
            simpa using beyond

theorem claims_of_candidates_eq_cons {first : Grammar} {rest : List Grammar}
    (named : FileName.base? filename = some base)
    (found : set.candidates base (FileName.extension? base) = first :: rest) :
    set.Claims filename first :=
  claims_of_mem_candidates named (found ▸ List.mem_cons_self)

theorem SpeaksFor.unique {other : Grammar} (spoken : set.SpeaksFor content grammar)
    (spokenAgain : set.SpeaksFor content other) : grammar = other :=
  Option.some.inj ((speaksFor_iff.mp spoken).1.symm.trans (speaksFor_iff.mp spokenAgain).1)

theorem Guesses.not_claims (guesses : set.Guesses filename content .notRecognized)
    (grammar : Grammar) : ¬ set.Claims filename grammar := by
  intro claimed
  cases guesses with
  | nameless nameless =>
      obtain ⟨-, -, base, named, -⟩ := claimed
      rw [nameless] at named
      contradiction
  | unclaimed named found =>
      obtain ⟨candidate, listed, -⟩ := claimed.exists_candidate named
      rw [found] at listed
      contradiction

/-- Nothing claims a file that is not recognized, and everything else is
recognized or contested. -/
theorem guess_eq_notRecognized_iff :
    set.guess filename content = .notRecognized ↔ ∀ grammar, ¬ set.Claims filename grammar := by
  have guesses := guesses_guess set filename content
  constructor
  · intro guessed
    exact (guessed ▸ guesses).not_claims
  · intro unclaimed
    generalize set.guess filename content = guess at guesses
    cases guesses with
    | nameless nameless => rfl
    | unclaimed named found => rfl
    | only named found =>
        exact absurd (claims_of_candidates_eq_cons named found) (unclaimed _)
    | agreed named found spoken among =>
        exact absurd (claims_of_candidates_eq_cons named found) (unclaimed _)
    | contradicted named found spoken beyond =>
        exact absurd (claims_of_candidates_eq_cons named found) (unclaimed _)
    | preferred named found silent =>
        exact absurd (claims_of_candidates_eq_cons named found) (unclaimed _)

theorem name_of_guess_eq_recognized (guessed : set.guess filename content = .recognized grammar) :
    grammar.name ≠ Tokenizer.plainName := by
  have guesses := guesses_guess set filename content
  rw [guessed] at guesses
  cases guesses with
  | only named found => exact (claims_of_candidates_eq_cons named found).2.1
  | agreed named found spoken among => exact (speaksFor_iff.mp spoken).2
  | @preferred base first second rest named found silent =>
      have listed := preferred_mem base (FileName.extension? base) first (second :: rest)
      rw [← found] at listed
      exact (claims_of_mem_candidates named listed).2.1

/-- A guess is contested where grammars of several names claim the file and the
first line speaks for one of yet another name. -/
theorem exists_guess_eq_ambiguous_iff :
    (∃ candidates, set.guess filename content = .ambiguous candidates) ↔
      (∃ left right, set.Claims filename left ∧ set.Claims filename right ∧
        left.name ≠ right.name) ∧
      ∃ hint, set.SpeaksFor content hint ∧
        ∀ grammar, set.Claims filename grammar → grammar.name ≠ hint.name := by
  have guesses := guesses_guess set filename content
  constructor
  · rintro ⟨candidates, guessed⟩
    rw [guessed] at guesses
    cases guesses with
    | @contradicted base first second hint rest named found spoken beyond =>
        have distinct := set.pairwise_candidates base (FileName.extension? base)
        rw [found] at distinct
        have listed : second ∈ first :: second :: rest := by simp
        refine ⟨⟨first, second, ?_, ?_, ?_⟩, hint, spoken, ?_⟩
        · exact claims_of_candidates_eq_cons named found
        · exact claims_of_mem_candidates named (found ▸ listed)
        · exact List.rel_of_pairwise_cons distinct List.mem_cons_self
        · intro grammar claimed
          obtain ⟨candidate, member, same⟩ := claimed.exists_candidate named
          exact same ▸ beyond candidate (found ▸ member)
  · rintro ⟨⟨left, right, leftClaims, rightClaims, different⟩, hint, spoken, beyond⟩
    have claimed : set.guess filename content ≠ .notRecognized := fun unclaimed =>
      guess_eq_notRecognized_iff.mp unclaimed left leftClaims
    generalize set.guess filename content = guess at guesses claimed
    cases guesses with
    | nameless nameless => exact absurd rfl claimed
    | unclaimed named found => exact absurd rfl claimed
    | only named found =>
        obtain ⟨first, firstListed, firstNamed⟩ := leftClaims.exists_candidate named
        obtain ⟨second, secondListed, secondNamed⟩ := rightClaims.exists_candidate named
        rw [found, List.mem_singleton] at firstListed secondListed
        exact absurd (by rw [← firstNamed, ← secondNamed, firstListed, secondListed]) different
    | agreed named found spokenAgain among =>
        obtain ⟨candidate, member, same⟩ := among
        rw [spokenAgain.unique spoken] at same
        exact absurd same (beyond candidate (claims_of_mem_candidates named (found ▸ member)))
    | contradicted named found spokenAgain beyondAgain => exact ⟨_, rfl⟩
    | preferred named found silent => exact absurd spoken (silent hint)

end GrammarSet

end PageFilters
