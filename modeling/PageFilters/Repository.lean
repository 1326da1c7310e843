import PageFilters.Text.Utf8

/-!
# Repositories

What the environment says about the repository on whose behalf a filter runs.
It names the repository in the log and has no other use.
-/

namespace PageFilters

/-- The values of environment variables, which are octets of any kind; none for a
variable that is not set. -/
abbrev Environment := String → Option Text.Bytes

namespace Environment

/-- The value of a variable; an empty one counts as not set. -/
def nonempty? (environment : Environment) (name : String) : Option Text.Bytes :=
  (environment name).filter fun value => !value.isEmpty

/-- The value of a variable as a text; one that is not UTF-8 counts as not set. -/
def text? (environment : Environment) (name : String) : Option String :=
  ((environment name).bind Text.decode?).map String.ofList

def nonemptyText? (environment : Environment) (name : String) : Option String :=
  (environment.text? name).filter fun value => !value.isEmpty

end Environment

/-- A repository's description; whatever is not known is left out. -/
structure Repository where
  url : Option String := none
  name : Option String := none
  path : Option String := none
  owner : Option String := none
  defaultBranch : Option String := none
  group : Option String := none
  cloneUrl : Option String := none
  deriving Repr, DecidableEq, Inhabited

namespace Repository

def ofEnvironment (environment : Environment) : Repository where
  url := environment.nonemptyText? "CGIT_REPO_URL"
  name := environment.nonemptyText? "CGIT_REPO_NAME"
  path := environment.nonemptyText? "CGIT_REPO_PATH"
  owner := environment.nonemptyText? "CGIT_REPO_OWNER"
  defaultBranch := environment.nonemptyText? "CGIT_REPO_DEFBRANCH"
  group := environment.nonemptyText? "CGIT_REPO_SECTION"
  cloneUrl := environment.nonemptyText? "CGIT_REPO_CLONE_URL"

/-- The label of a repository: its address, else its name, else a dash. -/
def label (repository : Repository) : String :=
  (repository.url.or repository.name).getD "-"

end Repository

end PageFilters
