import PageCrawl.Settings.Decimal
import PageCrawl.Settings.Environment

/-!
# Settings of a pool

How many workers a pool has and how long each of them pauses before a request. A pool without
workers could never give one result for each request, so the type holds that there is at least
one, and asking for none gives one.
-/

namespace PageCrawl

/-- A setting from the environment that is no number. -/
structure SettingError where
  /-- The name of the variable. -/
  name : String
  /-- Its value, as it stands there. -/
  value : String
  fault : DecimalFault
deriving Repr, DecidableEq, Inhabited

namespace SettingError

/-- What is wrong. -/
def message (e : SettingError) : String := e.name ++ " must be a number, got: " ++ e.value

/-- What is wrong and why, the outermost first. -/
def chain (e : SettingError) : List String := [e.message, e.fault.display]

end SettingError

namespace Environment

/-- The number in a variable, or the default if it is unset. -/
def number (env : Environment) (name : String) (default : Nat) : Except SettingError Nat :=
  match env.get? name with
  | none => .ok default
  | some value =>
    match Decimal.read value with
    | .ok n => .ok n
    | .error fault => .error ⟨name, value, fault⟩

end Environment

/-- How requests are spread over workers. -/
structure DispatchConfig where
  workers : Nat
  /-- The pause before each request, in milliseconds. -/
  delay : Nat
  workers_pos : 0 < workers
deriving Repr, DecidableEq

namespace DispatchConfig

/-- Settings with the given count of workers, but at least one. -/
def new (workers delay : Nat) : DispatchConfig :=
  ⟨max 1 workers, delay, Nat.lt_of_lt_of_le Nat.zero_lt_one (Nat.le_max_left 1 workers)⟩

/-- The count of workers of a pool that crawls again. -/
def recrawlWorkers : Nat := 10

/-- The settings of a pool that crawls again: ten workers without pause. -/
def recrawl : DispatchConfig := new recrawlWorkers 0

instance : Inhabited DispatchConfig := ⟨recrawl⟩

/-- The variable with the count of workers. -/
def workersVar : String := "SPIDER_WORKERS"

/-- The variable with the pause. -/
def delayVar : String := "SPIDER_DELAY_MS"

/-- The count of workers and the pause that are asked for: those that are given, and those of the
environment for what is not. A variable whose setting is given is not looked at. -/
def requested (workers delay : Option Nat) (env : Environment) :
    Except SettingError (Nat × Nat) := do
  let w ← match workers with
    | some w => pure w
    | none => env.number workersVar recrawlWorkers
  let d ← match delay with
    | some d => pure d
    | none => env.number delayVar 0
  return (w, d)

/-- Settings that are given, and those of the environment for what is not. -/
def fromEnvOr (workers delay : Option Nat) (env : Environment) :
    Except SettingError DispatchConfig :=
  (requested workers delay env).map fun (w, d) => new w d

/-- The settings of the environment. -/
def fromEnv (env : Environment) : Except SettingError DispatchConfig := fromEnvOr none none env

end DispatchConfig

end PageCrawl
