import Mathlib
import PageFilters.Settings.Location

/-!
# Which file the settings are in

`Settings.Located` lists the places of a settings file in the order in which
they are tried, each with what has ruled out those before it.  Whatever the
environment and the account are, there is exactly one such place.
-/

namespace PageFilters

namespace Environment

/-- A variable is not set, or its value is empty. -/
def Lacks (environment : Environment) (name : String) : Prop :=
  ∀ value, environment name = some value → value = []

/-- The variable of the configuration directory holds a path that begins with a
slash. -/
def Configures (environment : Environment) (directory : Path) : Prop :=
  environment "XDG_CONFIG_HOME" = some directory ∧ [0x2F] <+: directory

end Environment

/-- Where the settings file is. -/
inductive Settings.Located (environment : Environment) (accountHome : Option Path) :
    Path → Prop where
  | named {path : Path} :
      environment "CGIT_FILTER_CONFIG" = some path → path ≠ [] →
      Located environment accountHome path
  | configured {directory : Path} :
      environment.Lacks "CGIT_FILTER_CONFIG" →
      environment.Configures directory →
      Located environment accountHome (fileIn directory)
  | home {home : Path} :
      environment.Lacks "CGIT_FILTER_CONFIG" →
      (∀ directory, ¬ environment.Configures directory) →
      environment "HOME" = some home → home ≠ [] →
      Located environment accountHome (fileIn (home.join ".config"))
  | account {home : Path} :
      environment.Lacks "CGIT_FILTER_CONFIG" →
      (∀ directory, ¬ environment.Configures directory) →
      environment.Lacks "HOME" → accountHome = some home →
      Located environment accountHome (fileIn (home.join ".config"))
  | homeless :
      environment.Lacks "CGIT_FILTER_CONFIG" →
      (∀ directory, ¬ environment.Configures directory) →
      environment.Lacks "HOME" → accountHome = none →
      Located environment accountHome (Text.encode "./cgit-filters/settings.toml".toList)

namespace Environment

variable {environment : Environment} {name : String} {value : Text.Bytes} {directory : Path}

theorem nonempty?_eq_some_iff :
    environment.nonempty? name = some value ↔ environment name = some value ∧ value ≠ [] := by
  simp [nonempty?, Option.filter_eq_some_iff]

theorem nonempty?_eq_none_iff : environment.nonempty? name = none ↔ environment.Lacks name := by
  simp [nonempty?, Option.filter_eq_none_iff, Lacks]

theorem filter_isAbsolute_eq_some_iff :
    (environment "XDG_CONFIG_HOME").filter Path.isAbsolute = some directory ↔
      environment.Configures directory := by
  have rooted : directory.isAbsolute = true ↔ [0x2F] <+: directory := by
    cases directory with
    | nil => simp [Path.isAbsolute]
    | cons first rest =>
        rw [Path.isAbsolute, List.head?_cons, beq_iff_eq, Option.some.injEq,
          List.cons_prefix_cons, eq_comm]
        simp [Path.separator]
  rw [Option.filter_eq_some_iff, rooted, Configures]

end Environment

namespace Settings

variable {environment : Environment} {accountHome : Option Path} {path directory : Path}

theorem path_of_lacks (lacks : environment.Lacks "CGIT_FILTER_CONFIG") :
    Settings.path environment accountHome =
      fileIn ((directory? environment accountHome).getD (Text.encode ['.'])) := by
  have absent := Environment.nonempty?_eq_none_iff.mpr lacks
  simp only [Settings.path, absent]

theorem directory?_of_configures (configured : environment.Configures directory) :
    directory? environment accountHome = some directory := by
  rw [directory?, Environment.filter_isAbsolute_eq_some_iff.mpr configured, Option.some_or]

theorem directory?_of_not_configures (passed : ∀ directory, ¬ environment.Configures directory) :
    directory? environment accountHome =
      (home? environment accountHome).map (·.join ".config") := by
  have absent : (environment "XDG_CONFIG_HOME").filter Path.isAbsolute = none := by
    refine Option.eq_none_iff_forall_ne_some.mpr fun directory found => ?_
    exact passed directory (Environment.filter_isAbsolute_eq_some_iff.mp found)
  rw [directory?, absent, Option.none_or]

theorem Located.eq_path (located : Located environment accountHome path) :
    path = Settings.path environment accountHome := by
  cases located with
  | named named nonempty =>
      have found := Environment.nonempty?_eq_some_iff.mpr ⟨named, nonempty⟩
      simp only [Settings.path, found]
  | configured lacks configured =>
      rw [path_of_lacks lacks, directory?_of_configures configured]
      rfl
  | home lacks passed homed nonempty =>
      have found := Environment.nonempty?_eq_some_iff.mpr ⟨homed, nonempty⟩
      rw [path_of_lacks lacks, directory?_of_not_configures passed, home?, found]
      rfl
  | account lacks passed unset known =>
      have absent := Environment.nonempty?_eq_none_iff.mpr unset
      rw [path_of_lacks lacks, directory?_of_not_configures passed, home?, absent, known]
      rfl
  | homeless lacks passed unset unknown =>
      have absent := Environment.nonempty?_eq_none_iff.mpr unset
      rw [path_of_lacks lacks, directory?_of_not_configures passed, home?, absent, unknown]
      decide

theorem exists_located (environment : Environment) (accountHome : Option Path) :
    ∃ path, Located environment accountHome path := by
  cases named : environment.nonempty? "CGIT_FILTER_CONFIG" with
  | some path =>
      obtain ⟨named, nonempty⟩ := Environment.nonempty?_eq_some_iff.mp named
      exact ⟨path, .named named nonempty⟩
  | none =>
      have lacks := Environment.nonempty?_eq_none_iff.mp named
      by_cases configured : ∃ directory, environment.Configures directory
      · obtain ⟨directory, configured⟩ := configured
        exact ⟨_, .configured lacks configured⟩
      · have passed := not_exists.mp configured
        cases homed : environment.nonempty? "HOME" with
        | some home =>
            obtain ⟨homed, nonempty⟩ := Environment.nonempty?_eq_some_iff.mp homed
            exact ⟨_, .home lacks passed homed nonempty⟩
        | none =>
            have unset := Environment.nonempty?_eq_none_iff.mp homed
            cases accountHome with
            | some home => exact ⟨_, .account lacks passed unset rfl⟩
            | none => exact ⟨_, .homeless lacks passed unset rfl⟩

theorem located_iff :
    Located environment accountHome path ↔ path = Settings.path environment accountHome := by
  constructor
  · intro located
    exact located.eq_path
  · intro looked
    obtain ⟨other, located⟩ := exists_located environment accountHome
    rw [looked, ← located.eq_path]
    exact located

end Settings

end PageFilters
