import PageFilters.Proofs.Program.Failures

/-!
# What has no influence

A program looks at the repository and at the log directive, and at arguments
behind the first one, only to tell of what happens.  Two runs that differ in
nothing else write the same page and end in the same status.
-/

namespace PageFilters

/-- Two surroundings agree but for the repository, the log directive and the
arguments behind the first one.  The account matters only where the environment
names no home directory. -/
structure Surroundings.Agree (left right : Surroundings) : Prop where
  input : left.input = right.input
  argument : left.arguments.head? = right.arguments.head?
  environment : ∀ name ∈ ["HOME", "XDG_CONFIG_HOME", "CGIT_FILTER_CONFIG"],
    left.environment name = right.environment name
  account : left.environment.Lacks "HOME" → left.accountHome = right.accountHome
  files : left.files = right.files
  output : left.output = right.output

namespace Surroundings.Agree

variable {left right : Surroundings} (agree : left.Agree right)

include agree

theorem subject : left.subject = right.subject := by
  rw [left.subject_eq, right.subject_eq, agree.argument]

theorem path :
    Settings.path left.environment left.accountHome =
      Settings.path right.environment right.accountHome := by
  have home := agree.environment "HOME" (by simp)
  have directory := agree.environment "XDG_CONFIG_HOME" (by simp)
  have chosen := agree.environment "CGIT_FILTER_CONFIG" (by simp)
  have sameHome : Settings.home? left.environment left.accountHome =
      Settings.home? right.environment right.accountHome := by
    have same : left.environment.nonempty? "HOME" = right.environment.nonempty? "HOME" := by
      rw [Environment.nonempty?, Environment.nonempty?, home]
    rw [Settings.home?, Settings.home?, ← same]
    cases named : left.environment.nonempty? "HOME" with
    | some home => rfl
    | none => rw [agree.account (Environment.nonempty?_eq_none_iff.mp named)]
  simp only [Settings.path, Settings.directory?, Environment.nonempty?, sameHome, directory,
    chosen]

theorem settings : left.settings = right.settings := by
  simp only [Surroundings.settings, agree.path, agree.files]

end Surroundings.Agree

namespace Program

variable {left right : Surroundings} (agree : left.Agree right)

include agree

theorem result_congr (program : Program) (answers : Provider Id) (themes : ThemeSet) :
    program.result answers themes left = program.result answers themes right := by
  simp only [result, agree.input, agree.output, agree.settings, agree.subject]

theorem execute_source_congr (equipment : Equipment) :
    source.execute equipment left = source.execute equipment right := by
  simp only [execute, filter, apply, failureEvent, agree.input, agree.output, agree.files,
    agree.subject, agree.path]

/-- The email filter tells of another page, and does the same otherwise. -/
theorem run_execute_email_congr (equipment : Equipment) :
    ((email.execute equipment left).run []).1 = ((email.execute equipment right).run []).1 := by
  -- It asks nobody for tokenizers, so that any provider will do.
  let unasked : Equipment := { equipment with provider := Provider.unavailable }
  have ended (surroundings : Surroundings) :
      ((email.execute equipment surroundings).run []).1 =
        email.result Provider.unavailable equipment.themes surroundings :=
    @run_execute unasked _ Provider.unavailable_gives email surroundings []
  rw [ended, ended]
  exact result_congr agree email Provider.unavailable equipment.themes

theorem run_execute_congr (program : Program) (equipment : Equipment) :
    ((program.execute equipment left).run []).1 =
      ((program.execute equipment right).run []).1 := by
  cases program with
  | source => rw [execute_source_congr agree equipment]
  | email => exact run_execute_email_congr agree equipment

/-- Neither what the environment says about the repository, nor the directive
for the log, nor any argument behind the first one changes what either program
writes or the status in which it ends, whatever its grammars, its themes and its
provider are. -/
theorem run_uninfluenced (program : Program) (equipment : Equipment) :
    (program.run equipment left).output = (program.run equipment right).output ∧
      (program.run equipment left).exitCode = (program.run equipment right).exitCode := by
  have ended := run_execute_congr agree program equipment
  constructor
  · rw [output_run, output_run, ended]
  · rw [exitCode_run, exitCode_run, ended]

end Program

/-- The page in the second argument, the repository and a directive that admits
everything show in the log and nowhere else.  The avatar is of the size that
stands in the settings file. -/
theorem Program.run_uninfluenced_verbose :
    let equipment : Equipment := ⟨Provider.unavailable, []⟩
    let home : Text.Bytes := Text.encode "/home/cgit".toList
    let place := Text.encode "/home/cgit/.config/cgit-filters/settings.toml".toList
    let quiet : Surroundings := {
      arguments := [Text.encode "dev@example.org".toList]
      environment := fun name => if name = "HOME" then some home else none
      input := .ok (Text.encode "Dev".toList)
      files := fun path =>
        if path = place then .present (Text.encode "avatar_size = 20".toList) else .missing }
    let verbose : Surroundings := { quiet with
      arguments := [Text.encode "dev@example.org".toList, Text.encode "log".toList, [0xFF]]
      environment := fun name =>
        if name = "HOME" then some home
        else if name = "CGIT_FILTER_LOG" then some (Text.encode "debug".toList)
        else if name = "CGIT_REPO_URL" then some (Text.encode "cgit.git".toList)
        else if name = "CGIT_REPO_NAME" then some [0xFF]
        else none
      accountHome := some place }
    quiet.Agree verbose ∧
      (Program.email.run equipment quiet).output = (Program.email.run equipment verbose).output ∧
      (Program.email.run equipment quiet).log ≠ (Program.email.run equipment verbose).log ∧
      quiet.settings = { avatarSize := 20 } := by
  intro equipment home place quiet verbose
  have agree : quiet.Agree verbose := {
    input := rfl
    argument := rfl
    environment := by
      intro name member
      simp only [List.mem_cons, List.not_mem_nil, or_false] at member
      rcases member with rfl | rfl | rfl <;> rfl
    account := by
      intro lacks
      exact absurd (lacks home rfl) (List.cons_ne_nil _ _)
    files := rfl
    output := rfl }
  refine ⟨agree, (Program.run_uninfluenced agree .email equipment).1, ?_, ?_⟩
  · decide +kernel
  · decide +kernel

end PageFilters
