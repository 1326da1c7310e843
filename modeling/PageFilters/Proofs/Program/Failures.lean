import PageFilters.Proofs.Program.Result
import PageFilters.Proofs.Settings.Location

/-!
# Only transfer fails

A program fails where its input cannot be read to the end, and where its page or
the flush is refused.  Whatever else goes wrong on the way is absorbed: settings
that are not in order, themes that are missing, providers that do not answer and
grammars that give up all leave a page to be delivered.
-/

namespace PageFilters

def Provider.unavailable {m : Type → Type} [Monad m] : Provider m where
  byFilename _ _ := pure (.error (.provider "gone"))
  byContent _ := pure (.error (.provider "gone"))

theorem Provider.unavailable_gives {m : Type → Type} [Monad m] [LawfulMonad m] :
    (Provider.unavailable : Provider m).Gives Provider.unavailable where
  byFilename _ _ := SatisfiesM.pure rfl
  byContent _ := SatisfiesM.pure rfl

def Provider.recognizing {m : Type → Type} [Monad m] (name : String) (tokenizer : Tokenizer) :
    Provider m where
  byFilename filename _ :=
    pure (.ok (if filename = name then .recognized tokenizer else .notRecognized))
  byContent _ := pure (.ok none)

theorem Provider.recognizing_gives {m : Type → Type} [Monad m] [LawfulMonad m] (name : String)
    (tokenizer : Tokenizer) :
    (Provider.recognizing name tokenizer : Provider m).Gives
      (Provider.recognizing name tokenizer) where
  byFilename _ _ := SatisfiesM.pure rfl
  byContent _ := SatisfiesM.pure rfl

/-- What a run leaves behind if nothing but the transfer of its input and of its
page can fail. -/
structure Outcome.FailsOnlyAtTransfer (outcome : Outcome) (surroundings : Surroundings)
    (page : Text.Bytes → String) : Prop where
  status : outcome.exitCode = 0 ∨ outcome.exitCode = 1
  success : outcome.exitCode = 0 ↔
    ∃ input, surroundings.input = .ok input ∧
      surroundings.output.Accepts (Text.encode (page input).toList)
  output : outcome.exitCode = 0 →
    ∃ input, surroundings.input = .ok input ∧
      outcome.output = surroundings.output.written ++ Text.encode (page input).toList

namespace Program

section OneRun

variable {answers : Provider Id} {themes : ThemeSet} {surroundings : Surroundings}
variable {program : Program}

theorem result_eq_ok_iff :
    (program.result answers themes surroundings).1 = .ok () ↔
      ∃ input, surroundings.input = .ok input ∧
        surroundings.output.Accepts
          (Text.encode (program.page answers themes surroundings.settings surroundings.subject
            input).toList) := by
  unfold result
  cases surroundings.input with
  | error reason => simp
  | ok input => simp [Sink.deliver_eq_ok_iff, Text.encodeAll]

theorem written_result_of_ok
    (succeeded : (program.result answers themes surroundings).1 = .ok ()) :
    ∃ input, surroundings.input = .ok input ∧
      (program.result answers themes surroundings).2.written =
        surroundings.output.written ++
          Text.encode (program.page answers themes surroundings.settings surroundings.subject
            input).toList := by
  obtain ⟨input, read, accepted⟩ := result_eq_ok_iff.mp succeeded
  simp only [result, read] at succeeded ⊢
  have written := Sink.written_deliver_of_ok succeeded
  refine ⟨input, rfl, ?_⟩
  rw [written]
  simp [Text.encodeAll]

theorem eq_transfer_of_result {failure : Failure}
    (failed : (program.result answers themes surroundings).1 = .error failure) :
    ∃ reason, failure = .transfer reason := by
  unfold result at failed
  split at failed
  next reason unread =>
      cases failed
      exact ⟨reason, rfl⟩
  next input read => exact Sink.eq_transfer_of_deliver failed

end OneRun

variable {equipment : Equipment} {answers : Provider Id}

theorem output_run (program : Program) (equipment : Equipment)
    (surroundings : Surroundings) :
    (program.run equipment surroundings).output =
      ((program.execute equipment surroundings).run []).1.2.written :=
  rfl

theorem exitCode_run (program : Program) (equipment : Equipment)
    (surroundings : Surroundings) :
    (program.run equipment surroundings).exitCode =
      exitCode ((program.execute equipment surroundings).run []).1.1 :=
  rfl

theorem exitCode_eq_zero_iff {outcome : Except Failure Unit} :
    exitCode outcome = 0 ↔ outcome = .ok () := by
  cases outcome with
  | error failure => simp [exitCode]
  | ok value => simp [exitCode]

theorem exitCode_eq_zero_or_one (outcome : Except Failure Unit) :
    exitCode outcome = 0 ∨ exitCode outcome = 1 := by
  cases outcome with
  | error failure => exact .inr rfl
  | ok value => exact .inl rfl

theorem run_execute (gives : equipment.provider.Gives answers) (program : Program)
    (surroundings : Surroundings) (events : List Log.Event) :
    ((program.execute equipment surroundings).run events).1 =
      program.result answers equipment.themes surroundings := by
  have ended := SatisfiesM_StateT_eq.mp (satisfiesM_execute gives program surroundings) events
  have alone := SatisfiesM_Id_eq.mp ended
  exact alone

theorem run_failsOnlyAtTransfer (gives : equipment.provider.Gives answers)
    (program : Program) (surroundings : Surroundings) :
    (program.run equipment surroundings).FailsOnlyAtTransfer surroundings
      (program.page answers equipment.themes surroundings.settings surroundings.subject ·) := by
  have ended := run_execute gives program surroundings []
  exact {
    status := exitCode_eq_zero_or_one _
    success := by
      rw [exitCode_run, exitCode_eq_zero_iff, ended]
      exact result_eq_ok_iff
    output := by
      rw [exitCode_run, exitCode_eq_zero_iff, output_run, ended]
      exact written_result_of_ok }

theorem eq_transfer_of_execute (gives : equipment.provider.Gives answers)
    {program : Program} {surroundings : Surroundings} {failure : Failure}
    (failed : ((program.execute equipment surroundings).run []).1.1 = .error failure) :
    ∃ reason, failure = .transfer reason := by
  rw [run_execute gives] at failed
  exact eq_transfer_of_result failed

/-- For all arguments, inputs, settings files and environments, either program
succeeds if and only if its input can be read and its output is accepted, and
then it has written the page of its input: for the first argument as it is
decoded, or no name, and with what is loaded from the one place where the
settings file is.  That holds for all grammars and themes, and for all other
providers, too, those included that fail to answer; and no failure is of another
kind than that of reading or writing. -/
theorem run_fails_only_at_transfer (program : Program) (surroundings : Surroundings) :
    ∃ path,
      (∀ other, Settings.Located surroundings.environment surroundings.accountHome other ↔
        other = path) ∧
      let settings : Settings := Id.run (Settings.load path.shown (surroundings.files path))
      let subject : String := surroundings.arguments.head?.elim "" fun first =>
        String.ofList (Text.decodeLossy first)
      (∀ (grammars : GrammarSet) (themes : ThemeSet),
        (program.run (.ofGrammars grammars themes) surroundings).FailsOnlyAtTransfer surroundings
          (program.page grammars.provider themes settings subject ·)) ∧
      ∀ (equipment : Equipment) (answers : Provider Id), equipment.provider.Gives answers →
        (program.run equipment surroundings).FailsOnlyAtTransfer surroundings
            (program.page answers equipment.themes settings subject ·) ∧
          ∀ failure, ((program.execute equipment surroundings).run []).1.1 = .error failure →
            ∃ reason, failure = .transfer reason := by
  refine ⟨_, fun other => Settings.located_iff, ?_⟩
  intro settings subject
  have decoded : surroundings.subject = subject := surroundings.subject_eq
  rw [← decoded]
  constructor
  · intro grammars themes
    have gives := grammars.providerOf_gives (m := Logged) grammars.tokenizer
    exact run_failsOnlyAtTransfer gives program surroundings
  · intro equipment answers gives
    refine ⟨run_failsOnlyAtTransfer gives program surroundings, fun failure failed => ?_⟩
    exact eq_transfer_of_execute gives failed

end Program

/-- A name, a home directory and a content that are no texts: the settings below
the home directory count, and the file is recognized by its name as it is
decoded.  A provider that does not answer costs it the highlighting, and nothing
else. -/
theorem Program.run_fails_only_at_transfer_undecodable :
    let home : Path := [0x2F, 0xFE]
    let surroundings : Surroundings := {
      arguments := [[0xFF, 0x2E, 0x63], [0xFE]]
      environment := fun name => if name = "HOME" then some home else none
      input := .ok [0x78, 0x3C, 0xFF]
      files := fun path =>
        if path = home ++ Text.encode "/.config/cgit-filters/settings.toml".toList then
          .present (Text.encode "class_prefix = 'x-'".toList)
        else .missing }
    let words : Tokenizer :=
      { grammar := "Words", tokenize := fun text => { tokens := [⟨.keyword, text⟩] } }
    let answering : Equipment := ⟨Provider.recognizing "\ufffd.c" words, []⟩
    let silent : Equipment := ⟨Provider.unavailable, []⟩
    (Program.source.run answering surroundings).exitCode = 0 ∧
      (Program.source.run answering surroundings).output =
        Text.encode (Html.assemble "" "" "<span class=\"x-k\">x&lt;\ufffd</span>").toList ∧
      (Program.source.run silent surroundings).exitCode = 0 ∧
      (Program.source.run silent surroundings).output =
        Text.encode (Html.assemble "" "" "x&lt;\ufffd").toList := by
  intro home surroundings words answering silent
  obtain ⟨path, located, -, served⟩ :=
    Program.run_fails_only_at_transfer .source surroundings
  have place : Settings.fileIn (home.join ".config") = path := by
    refine (located _).mp (.home ?_ ?_ rfl (List.cons_ne_nil _ _))
    · intro value chosen
      contradiction
    · intro directory configured
      obtain ⟨set, -⟩ := configured
      contradiction
  subst place
  have delivered {page : Text.Bytes → String} {outcome : Outcome}
      (fails : outcome.FailsOnlyAtTransfer surroundings page) :
      outcome.exitCode = 0 ∧ outcome.output = Text.encode (page [0x78, 0x3C, 0xFF]).toList := by
    have succeeded : outcome.exitCode = 0 :=
      fails.success.mpr ⟨_, rfl, Sink.holds_of_unlimited rfl, rfl⟩
    obtain ⟨input, read, written⟩ := fails.output succeeded
    cases read
    exact ⟨succeeded, written⟩
  have answered := delivered (served answering _ (Provider.recognizing_gives _ _)).1
  have unanswered := delivered (served silent _ Provider.unavailable_gives).1
  refine ⟨answered.1, answered.2.trans ?_, unanswered.1, unanswered.2.trans ?_⟩
  · decide +kernel
  · decide +kernel

end PageFilters
