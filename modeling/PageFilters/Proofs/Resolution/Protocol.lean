import PageFilters.Proofs.Resolution.Settlement

/-!
# The protocol of questions

A provider is asked about the file name of every document, once, and about the
content only where nothing claims the file and an interpreter directive opens
it.  No document is asked about because of another one.
-/

namespace PageFilters

/-- Whether the content is asked about behind an answer to the file name. -/
def Document.leadsToContent (document : Document) : Except Failure (Guess Tokenizer) → Bool
  | .ok .notRecognized => document.hasShebang
  | _ => false

theorem Document.leadsToContent_iff {document : Document}
    {name : Except Failure (Guess Tokenizer)} :
    document.leadsToContent name = true ↔
      name = .ok .notRecognized ∧ document.hasShebang = true := by
  unfold leadsToContent
  split
  next => simp
  next claimed =>
    refine iff_of_false Bool.false_ne_true ?_
    rintro ⟨unclaimed, -⟩
    exact claimed unclaimed

namespace Provider

/-- Whether a provider with these answers is asked about the content of a
document. -/
def asksContent (answers : Provider Id) (document : Document) : Bool :=
  document.leadsToContent (answers.byFilename document.filename document.content)

/-- The calls behind the questions about documents. -/
def Calls.behind (calls : Calls) (answers : Provider Id) (documents : List Document) : Calls where
  byFilename := calls.byFilename + documents.length
  byContent := calls.byContent + documents.countP answers.asksContent

theorem Calls.behind_singleton (calls : Calls) (answers : Provider Id) (document : Document) :
    calls.behind answers [document] = {
      byFilename := calls.byFilename + 1
      byContent := calls.byContent + if answers.asksContent document then 1 else 0 } := by
  simp [behind, List.countP_cons]

theorem Calls.behind_cons (calls : Calls) (answers : Provider Id) (document : Document)
    (documents : List Document) :
    calls.behind answers (document :: documents) =
      (calls.behind answers [document]).behind answers documents := by
  rw [behind_singleton]
  simp only [behind, List.length_cons, List.countP_cons, mk.injEq]
  constructor <;> omega

section Effects

variable {m : Type → Type} [Monad m] [LawfulMonad m]

/-- The provider has one answer to every question, whatever effects come with
it.  The answers are a provider without effects. -/
structure Gives (provider : Provider m) (answers : Provider Id) : Prop where
  byFilename : ∀ filename content, SatisfiesM (· = answers.byFilename filename content)
    (provider.byFilename filename content)
  byContent : ∀ content, SatisfiesM (· = answers.byContent content) (provider.byContent content)

theorem gives_self (answers : Provider Id) : answers.Gives answers where
  byFilename _ _ := SatisfiesM_Id_eq.mpr rfl
  byContent _ := SatisfiesM_Id_eq.mpr rfl

end Effects

end Provider

section Counting

variable {m : Type → Type} [Monad m] [LawfulMonad m]

theorem satisfiesM_run_counting {α : Type} {question : m α} {answer : α}
    (given : SatisfiesM (· = answer) question) (count : Provider.Calls → Provider.Calls)
    (calls : Provider.Calls) :
    SatisfiesM (· = (answer, count calls))
      ((do modify count; StateT.lift question : StateT Provider.Calls m α).run calls) := by
  have asked : (do modify count; StateT.lift question : StateT Provider.Calls m α).run calls =
      (do
        let answer ← question
        return (answer, count calls)) := by
    simp
  rw [asked]
  exact given.bind fun answer same => SatisfiesM.pure (by rw [same])

variable [Logs m]

theorem run_tell {σ : Type} (event : Log.Event) (state : σ) :
    (Logs.tell event : StateT σ m Unit).run state =
      (fun told => (told, state)) <$> (Logs.tell event : m Unit) := by
  change (StateT.lift (Logs.tell event)).run state = _
  simp

theorem satisfiesM_run_told {α : Type} {Holds : α × Provider.Calls → Prop} (event : Log.Event)
    {following : StateT Provider.Calls m α} {calls : Provider.Calls}
    (held : SatisfiesM Holds (following.run calls)) :
    SatisfiesM Holds ((do Logs.tell event; following).run calls) := by
  rw [StateT.run_bind, run_tell, bind_map_left]
  exact SatisfiesM.trivial.bind fun _ _ => held

variable {provider : Provider m} {answers : Provider Id} (gives : provider.Gives answers)

include gives

theorem satisfiesM_run_resolveByContent (document : Document) (calls : Provider.Calls) :
    SatisfiesM
      (· = (resolveByContent answers document, { calls with byContent := calls.byContent + 1 }))
      ((resolveByContent provider.counted document).run calls) := by
  have asked := satisfiesM_run_counting (gives.byContent document.content)
    (fun calls => { calls with byContent := calls.byContent + 1 }) calls
  unfold resolveByContent
  rw [StateT.run_bind]
  refine asked.bind fun ran same => ?_
  subst same
  match answers.byContent document.content with
  | .ok (some tokenizer) => exact SatisfiesM.pure rfl
  | .ok none => exact SatisfiesM.pure rfl
  | .error failure => exact satisfiesM_run_told _ (SatisfiesM.pure rfl)

theorem satisfiesM_run_resolveGuess (document : Document) (guess : Guess Tokenizer)
    (calls : Provider.Calls) :
    SatisfiesM
      (· = (resolveGuess answers document guess, { calls with
        byContent := calls.byContent + if document.leadsToContent (.ok guess) then 1 else 0 }))
      ((resolveGuess provider.counted document guess).run calls) := by
  cases guess with
  | recognized tokenizer => exact SatisfiesM.pure rfl
  | ambiguous candidates => exact satisfiesM_run_told _ (SatisfiesM.pure rfl)
  | notRecognized =>
      by_cases directive : document.hasShebang = true
      · simp only [resolveGuess, Document.leadsToContent, directive, ↓reduceIte]
        exact satisfiesM_run_resolveByContent gives document calls
      · simp only [resolveGuess, Document.leadsToContent, directive]
        exact SatisfiesM.pure rfl

/-- One document causes the questions that the answers lead to, and they lead to
one resolution. -/
theorem satisfiesM_run_resolve (document : Document) (calls : Provider.Calls) :
    SatisfiesM (· = (resolve answers document, calls.behind answers [document]))
      ((resolve provider.counted document).run calls) := by
  have asked := satisfiesM_run_counting (gives.byFilename document.filename document.content)
    (fun calls => { calls with byFilename := calls.byFilename + 1 }) calls
  rw [Provider.Calls.behind_singleton]
  unfold resolve Provider.asksContent
  rw [StateT.run_bind]
  refine asked.bind fun ran same => ?_
  subst same
  match answers.byFilename document.filename document.content with
  | .error failure => exact satisfiesM_run_told _ (SatisfiesM.pure rfl)
  | .ok guess =>
      dsimp only
      rw [StateT.run_bind]
      refine (satisfiesM_run_resolveGuess gives document guess _).bind fun ran same => ?_
      subst same
      exact satisfiesM_run_told _ (SatisfiesM.pure rfl)

/-- Documents are resolved each for itself. -/
theorem satisfiesM_run_resolveAll (documents : List Document) (calls : Provider.Calls) :
    SatisfiesM (· = (documents.map (resolve answers), calls.behind answers documents))
      ((documents.mapM (resolve provider.counted)).run calls) := by
  induction documents generalizing calls with
  | nil => exact SatisfiesM.pure rfl
  | cons document documents induction =>
      rw [List.mapM_cons, StateT.run_bind, Provider.Calls.behind_cons]
      refine (satisfiesM_run_resolve gives document calls).bind fun ran same => ?_
      subst same
      rw [StateT.run_bind]
      refine (induction _).bind fun ran same => ?_
      subst same
      exact SatisfiesM.pure rfl

end Counting

/-- Without effects a document is settled on by the answers that are given. -/
theorem settles_resolve (answers : Provider Id) (document : Document) :
    Settles document (answers.byFilename document.filename document.content = ·)
      (answers.byContent document.content = ·) (resolve answers document) :=
  SatisfiesM_Id_eq.mp (satisfiesM_settles (SatisfiesM_Id_eq.mpr rfl) (SatisfiesM_Id_eq.mpr rfl))

theorem Tokenizer.tokens_plain (text : String) :
    (Tokenizer.plain.tokenize text).tokens = if text = "" then [] else [Token.plain text] := by
  simp [Tokenizer.plain]

/-- Whatever a provider answers, its documents are resolved each for itself.
Each causes one question about its file name; and one about its content if
nothing claims the file and an interpreter directive opens it, but none
otherwise.  The tokenizer is the one of the answer that has settled on it, or
there is one plain token of all the content. -/
theorem resolve_asks {m : Type → Type} [Monad m] [LawfulMonad m] [Logs m]
    {provider : Provider m} {answers : Provider Id} (gives : provider.Gives answers)
    (documents : List Document) :
    SatisfiesM
        (· = (documents.map (resolve answers),
          { byFilename := documents.length
            byContent := documents.countP answers.asksContent }))
        ((documents.mapM (resolve provider.counted)).run {}) ∧
      ∀ document : Document,
        let name := answers.byFilename document.filename document.content
        let content := answers.byContent document.content
        let resolution : Resolution := resolve answers document
        (∀ calls : Provider.Calls,
          SatisfiesM
            (· = (resolution,
              { byFilename := calls.byFilename + 1
                byContent := calls.byContent + if answers.asksContent document then 1 else 0 }))
            ((resolve provider.counted document).run calls)) ∧
        (answers.asksContent document = true ↔
          name = .ok .notRecognized ∧ ['#', '!'] <+: document.content.toList) ∧
        (∀ tokenizer, resolution = ⟨tokenizer, .filename⟩ ↔ name = .ok (.recognized tokenizer)) ∧
        (∀ tokenizer, resolution = ⟨tokenizer, .shebang⟩ ↔
          answers.asksContent document = true ∧ content = .ok (some tokenizer)) ∧
        ∀ reason, resolution.origin = .fallback reason →
          (resolution.tokenizer.tokenize document.content).tokens =
            if document.content = "" then [] else [Token.plain document.content] := by
  constructor
  · have ran := satisfiesM_run_resolveAll gives documents {}
    simpa only [Provider.Calls.behind, Nat.zero_add] using ran
  · intro document name content resolution
    have settled := settles_resolve answers document
    refine ⟨fun calls => ?_, ?_, fun tokenizer => settled.eq_filename_iff, ?_, ?_⟩
    · rw [← Provider.Calls.behind_singleton]
      exact satisfiesM_run_resolve gives document calls
    · rw [Provider.asksContent, Document.leadsToContent_iff, Document.hasShebang,
        List.isPrefixOf_iff_prefix]
    · intro tokenizer
      rw [Provider.asksContent, Document.leadsToContent_iff, and_assoc]
      exact settled.eq_shebang_iff
    · intro reason fallen
      have plain : resolution = .fallback reason := settled.eq_fallback fallen
      rw [plain]
      exact Tokenizer.tokens_plain document.content

/-- Answers for three files: a script by no known name, a header that is
contested, and one about which the provider fails. -/
def Provider.scripted : Provider Id where
  byFilename filename _ :=
    if filename = "script" then .ok .notRecognized
    else if filename = "x.h" then .ok (.ambiguous ["C", "C++"])
    else .error (.provider "gone")
  byContent _ :=
    .ok (some { grammar := "Shell", tokenize := fun text => { tokens := [⟨.builtin, text⟩] } })

/-- All three open with an interpreter directive, but only one is asked about a
second time. -/
theorem resolve_asks_scripted :
    Provider.scripted.Gives Provider.scripted ∧
      (((["script", "x.h", "y"].map fun filename => Document.mk filename "#!/bin/sh").mapM
        (resolve Provider.scripted.counted)).run {}).2 = { byFilename := 3, byContent := 1 } ∧
      ((resolve Provider.scripted ⟨"y", "#!/bin/sh"⟩).tokenizer.tokenize "#!/bin/sh").tokens =
        [Token.plain "#!/bin/sh"] := by
  obtain ⟨ran, each⟩ := resolve_asks Provider.scripted.gives_self
    (["script", "x.h", "y"].map fun filename => Document.mk filename "#!/bin/sh")
  obtain ⟨-, -, -, -, plain⟩ := each ⟨"y", "#!/bin/sh"⟩
  refine ⟨Provider.scripted.gives_self, ?_, plain .providerFault rfl⟩
  rw [SatisfiesM_Id_eq.mp ran]
  rfl

end PageFilters
