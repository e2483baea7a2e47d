import PageCrawl.CommandLine.Run
import Std.Time.DateTime.Timestamp

/-!
# The program

Hands the arguments, the environment and the time to `CommandLine.run`, and prints what it shows.
Reports go to standard output; events and errors go to standard error. The program opens no
connections, so every fetch ends as it does where no network can be reached.
-/

open PageCrawl

/-- The variables that a run consults. -/
def consultedVariables : List String :=
  [DispatchConfig.workersVar, DispatchConfig.delayVar, SessionConfig.userAgentVar,
   SessionConfig.timeoutVar, Log.Filter.variableName]

/-- How often pages are crawled again before the program gives up. -/
def roundsBound : Nat := 1000000

/-- Runs the program. -/
def main (args : List String) : IO UInt32 := do
  let vars ← consultedVariables.filterMapM fun name => do
    return (← IO.getEnv name).map fun value => (name, EnvValue.text value)
  let time ← Std.Time.Timestamp.now
  let now := Instant.ofNanos time.toNanosecondsSinceUnixEpoch.toInt.toNat
  match CommandLine.run .unreachable ⟨vars⟩ args roundsBound now with
  | none => return 1
  | some o =>
    let out ← IO.getStdout
    let err ← IO.getStderr
    for e in o.events do
      err.putStrLn (String.ofList now.written ++ " " ++ e.line)
    unless o.errors.isEmpty do err.putStrLn o.errors
    for line in o.output do
      out.putStrLn line
    return UInt32.ofNat o.code
