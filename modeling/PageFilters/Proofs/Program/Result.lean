import PageFilters.Program
import PageFilters.Proofs.Highlight.Answers
import PageFilters.Proofs.Outcome
import PageFilters.Proofs.Output
import PageFilters.Proofs.Settings.Loading

/-!
# What a program ends in

The log aside, a program delivers one page, or nothing where its input cannot be
read.  Neither the settings nor the provider nor a theme can keep the page from
being delivered: each of them has something that stands in for it.
-/

namespace PageFilters

def Surroundings.settings (surroundings : Surroundings) : Settings :=
  let path := Settings.path surroundings.environment surroundings.accountHome
  Id.run (Settings.load path.shown (surroundings.files path))

theorem Surroundings.subject_eq (surroundings : Surroundings) :
    surroundings.subject =
      surroundings.arguments.head?.elim "" fun first =>
        String.ofList (Text.decodeLossy first) := by
  unfold subject argument?
  rw [← List.head?_eq_getElem?]
  cases surroundings.arguments.head? with
  | none => rfl
  | some first => rfl

namespace Program

/-- The page of an input: the highlighted file, or the line with the avatar. -/
def page (answers : Provider Id) (themes : ThemeSet) (settings : Settings) (subject : String)
    (input : Text.Bytes) : Program → String
  | .source =>
      let sheets := StyleSheets.ofSettings themes settings
      let highlighted : Highlighted := highlight answers settings sheets
        { filename := subject, content := String.ofList (Text.decodeLossy input) }
      highlighted.html
  | .email =>
      Avatar.annotate subject (String.ofList (Text.decodeLossy input))
        settings.avatarBaseUrl settings.avatarSize ++ "\n"

/-- What a program ends in, the log aside. -/
def result (program : Program) (answers : Provider Id) (themes : ThemeSet)
    (surroundings : Surroundings) : Except Failure Unit × Sink :=
  match surroundings.input with
  | .error reason => (.error (.transfer reason), surroundings.output)
  | .ok input =>
      let page := program.page answers themes surroundings.settings surroundings.subject input
      surroundings.output.deliver [page]

section Effects

variable {m : Type → Type} [Monad m] [LawfulMonad m] [Logs m]

theorem satisfiesM_settings (surroundings : Surroundings) :
    let path := Settings.path surroundings.environment surroundings.accountHome
    SatisfiesM (· = surroundings.settings)
      (Settings.load path.shown (surroundings.files path) : m Settings) := by
  intro path
  let file := surroundings.files path
  have alone := SatisfiesM_Id_eq.mp (Settings.satisfiesM_load (m := Id) path.shown file)
  exact (Settings.satisfiesM_load path.shown file).imp fun same => same.trans alone.symm

theorem satisfiesM_sourceFilter {provider : Provider m} {answers : Provider Id}
    (gives : provider.Gives answers) (settings : Settings) (sheets : StyleSheets)
    (filename : String) (input : Text.Bytes) (sink : Sink) :
    let highlighted : Highlighted :=
      highlight answers settings sheets (Document.ofBytes filename input)
    SatisfiesM
      (· = ((sink.deliver [highlighted.html]).1.map fun () => highlighted.origin,
        (sink.deliver [highlighted.html]).2))
      (sourceFilter provider settings sheets filename input sink) := by
  intro highlighted
  refine (satisfiesM_eq_highlight gives settings sheets _).bind fun found same => ?_
  subst same
  exact SatisfiesM.trivial.bind fun _ _ => SatisfiesM.pure rfl

theorem satisfiesM_emailFilter (settings : Settings) (email : String) (page : Option String)
    (input : Text.Bytes) (sink : Sink) :
    SatisfiesM
      (· = sink.deliver [Avatar.annotate email (String.ofList (Text.decodeLossy input))
        settings.avatarBaseUrl settings.avatarSize, "\n"])
      (emailFilter settings email page input sink : m (Except Failure Unit × Sink)) :=
  SatisfiesM.trivial.bind fun _ _ => SatisfiesM.pure rfl

end Effects

section Logging

variable {equipment : Equipment} {answers : Provider Id}
variable (gives : equipment.provider.Gives answers) (program : Program)
variable (surroundings : Surroundings)

include gives

theorem satisfiesM_apply (input : Text.Bytes) :
    SatisfiesM
      (· = surroundings.output.deliver [program.page answers equipment.themes
        surroundings.settings surroundings.subject input])
      (program.apply equipment surroundings surroundings.settings input) := by
  cases program with
  | source =>
      refine (satisfiesM_sourceFilter gives surroundings.settings _ surroundings.subject input
        surroundings.output).bind fun written same => ?_
      subst same
      refine SatisfiesM.pure (Prod.ext ?_ rfl)
      exact Outcome.map_map_unit _ _
  | email =>
      refine (satisfiesM_emailFilter surroundings.settings surroundings.subject _ input
        surroundings.output).imp fun {written} same => ?_
      rw [same]
      exact Sink.deliver_pair

theorem satisfiesM_filter :
    SatisfiesM (· = program.result answers equipment.themes surroundings)
      (program.filter equipment surroundings) := by
  unfold filter result
  cases surroundings.input with
  | error reason => exact SatisfiesM.pure rfl
  | ok input =>
      refine (satisfiesM_settings surroundings).bind fun settings same => ?_
      subst same
      exact satisfiesM_apply gives program surroundings input

theorem satisfiesM_execute :
    SatisfiesM (· = program.result answers equipment.themes surroundings)
      (program.execute equipment surroundings) := by
  refine (satisfiesM_filter gives program surroundings).bind fun ended same => ?_
  subst same
  dsimp only
  split
  next failure failed => exact SatisfiesM.trivial.bind fun _ _ => SatisfiesM.pure rfl
  next => exact SatisfiesM.pure rfl

end Logging

end Program

end PageFilters
