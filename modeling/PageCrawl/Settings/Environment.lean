/-!
# Environment variables

The variables that a run consults. The value of a variable may be bytes that are no text; such a
variable counts as unset.
-/

namespace PageCrawl

/-- The value of an environment variable. -/
inductive EnvValue
  | text (s : String)
  /-- Bytes that are no text. -/
  | bytes
deriving Repr, DecidableEq, Inhabited

/-- The variables that are set, with their values. -/
structure Environment where
  vars : List (String × EnvValue) := []
deriving Repr, DecidableEq, Inhabited

namespace Environment

/-- The text of a variable; `none` if it is unset or no text. -/
def get? (env : Environment) (name : String) : Option String :=
  match env.vars.lookup name with
  | some (.text s) => some s
  | _ => none

/-- The environment in which a variable has the given text. -/
def set (env : Environment) (name value : String) : Environment :=
  ⟨(name, .text value) :: env.vars⟩

end Environment

end PageCrawl
