import PageCrawl.Settings.Decimal

/-!
# Arguments

What the program is asked to do. Options and requests may come in any order; an option has its
value behind an equals sign or as the next argument, short flags may be put together, and after two
hyphens everything is a request.

Arguments are read from left to right and the first fault counts. An option is settled, which is
when its value is looked at, only when the next option, flag or request comes, or at the end; so an
argument that is no option at all is a fault before the value of the option in front of it.
-/

namespace PageCrawl.CommandLine

/-- The options that have a value. -/
inductive Key
  | urlTemplate
  | workers
  | delay
  | expect
  | deadline
deriving Repr, DecidableEq, Inhabited

/-- The options that have none. -/
inductive Flag
  | verbose
  | quiet
  | help
  | version
deriving Repr, DecidableEq, Inhabited

/-- What an option is. -/
inductive Switch
  | key (k : Key)
  | flag (f : Flag)
deriving Repr, DecidableEq, Inhabited

namespace Key

/-- The name of an option. -/
def name : Key → String
  | .urlTemplate => "url-template"
  | .workers => "workers"
  | .delay => "delay-ms"
  | .expect => "expect"
  | .deadline => "deadline-secs"

/-- What stands for the value of an option. -/
def valueName : Key → String
  | .urlTemplate => "URL_TEMPLATE"
  | .workers => "WORKERS"
  | .delay => "DELAY_MS"
  | .expect => "EXPECT"
  | .deadline => "DEADLINE_SECS"

/-- An option with what stands for its value. -/
def display (k : Key) : String := "--" ++ k.name ++ " <" ++ k.valueName ++ ">"

/-- All options that have a value. -/
def all : List Key := [.urlTemplate, .workers, .delay, .expect, .deadline]

end Key

namespace Flag

/-- The name of a flag. -/
def name : Flag → String
  | .verbose => "verbose"
  | .quiet => "quiet"
  | .help => "help"
  | .version => "version"

/-- The letter of a flag. -/
def letter : Flag → Char
  | .verbose => 'v'
  | .quiet => 'q'
  | .help => 'h'
  | .version => 'V'

/-- All flags. -/
def all : List Flag := [.verbose, .quiet, .help, .version]

end Flag

/-- The option with a name. -/
def switch? (name : String) : Option Switch :=
  ((Key.all.find? (·.name == name)).map Switch.key) <|>
    ((Flag.all.find? (·.name == name)).map Switch.flag)

/-- What stands for the requests. -/
def requestsDisplay : String := "<REQUESTS>..."

/-- What is wrong with the arguments. -/
inductive UsageFault
  /-- Nothing has this name. -/
  | unexpected (arg : String)
  | valueMissing (k : Key)
  | valueInvalid (k : Key) (value : String) (fault : DecimalFault)
  | valueUnneeded (f : Flag) (value : String)
  /-- An option comes twice. -/
  | repeated (display : String)
  /-- Options or requests that are needed are not there. -/
  | missing (displays : List String)
deriving Repr, DecidableEq, Inhabited

namespace UsageFault

/-- What is wrong. -/
def message : UsageFault → String
  | .unexpected arg => "error: unexpected argument '" ++ arg ++ "' found"
  | .valueMissing k => "error: a value is required for '" ++ k.display ++ "' but none was supplied"
  | .valueInvalid k value fault =>
    "error: invalid value '" ++ value ++ "' for '" ++ k.display ++ "': " ++ fault.display
  | .valueUnneeded f value =>
    "error: unexpected value '" ++ value ++ "' for '--" ++ f.name
      ++ "' found; no more were expected"
  | .repeated display => "error: the argument '" ++ display ++ "' cannot be used multiple times"
  | .missing displays =>
    "error: the following required arguments were not provided:"
      ++ String.join (displays.map ("\n  " ++ ·))

end UsageFault

/-- A run that is asked for. -/
structure Arguments where
  urlTemplate : String
  workers : Option Nat := none
  /-- The pause before each request, in milliseconds. -/
  delay : Option Nat := none
  /-- The selector of what a page must hold. -/
  expect : Option String := none
  /-- The time for crawling again, in seconds. -/
  deadline : Option Nat := none
  verbose : Bool := false
  quiet : Bool := false
  /-- The requests, of which there is at least one. -/
  requests : List String
deriving Repr, DecidableEq, Inhabited

/-- What the program is asked to do. -/
inductive Command
  | run (a : Arguments)
  | help
  | version
deriving Repr, DecidableEq, Inhabited

/-- Why reading arguments ends before their end. -/
inductive Stop
  | fault (f : UsageFault)
  | help
  | version
deriving Repr, DecidableEq, Inhabited

/-- What has been read of the arguments. -/
structure Progress where
  urlTemplate : Option String := none
  workers : Option Nat := none
  delay : Option Nat := none
  expect : Option String := none
  deadline : Option Nat := none
  verbose : Bool := false
  quiet : Bool := false
  requests : List String := []
  /-- An option that is not settled, with its value if it has come. -/
  pending : Option (Key × Option String) := none
  /-- Whether all that follows are requests. -/
  trailing : Bool := false
deriving Repr, DecidableEq, Inhabited

namespace Progress

/-- Reads the value of an option that is a number. -/
def number (k : Key) (value : String) : Except Stop Nat :=
  match Decimal.readTrimmed value.toList with
  | .ok n => .ok n
  | .error fault => .error (.fault (.valueInvalid k value fault))

/-- Whether an option has been settled. -/
def has (p : Progress) : Key → Bool
  | .urlTemplate => p.urlTemplate.isSome
  | .workers => p.workers.isSome
  | .delay => p.delay.isSome
  | .expect => p.expect.isSome
  | .deadline => p.deadline.isSome

/-- Settles an option. -/
def settleAs (p : Progress) (k : Key) (value : Option String) : Except Stop Progress := do
  match value with
  | none => throw (.fault (.valueMissing k))
  | some value =>
    if p.has k then throw (.fault (.repeated k.display))
    match k with
    | .urlTemplate => return { p with urlTemplate := some value }
    | .workers => return { p with workers := some (← number k value) }
    | .delay => return { p with delay := some (← number k value) }
    | .expect => return { p with expect := some value }
    | .deadline => return { p with deadline := some (← number k value) }

/-- Settles the option that is pending. -/
def settle (p : Progress) : Except Stop Progress :=
  match p.pending with
  | none => .ok p
  | some (k, value) => settleAs { p with pending := none } k value

/-- Sets a flag. -/
def raise (p : Progress) (f : Flag) : Except Stop Progress := do
  let p ← p.settle
  match f with
  | .help => throw .help
  | .version => throw .version
  | .verbose =>
    if p.verbose then throw (.fault (.repeated "--verbose"))
    return { p with verbose := true }
  | .quiet =>
    if p.quiet then throw (.fault (.repeated "--quiet"))
    return { p with quiet := true }

/-- Takes a request. -/
def request (p : Progress) (arg : String) : Except Stop Progress := do
  let p ← p.settle
  return { p with requests := p.requests ++ [arg] }

/-- Takes an option by its name, given with or without a value. -/
def long (p : Progress) (name : String) (value : Option String) : Except Stop Progress := do
  match switch? name with
  | none => throw (.fault (.unexpected ("--" ++ name)))
  | some (.flag f) =>
    match value with
    | some value => throw (.fault (.valueUnneeded f value))
    | none => p.raise f
  | some (.key k) =>
    let p ← p.settle
    match value with
    | some value => settleAs p k (some value)
    | none => return { p with pending := some (k, none) }

/-- Takes flags by their letters. -/
def short (p : Progress) : List Char → Except Stop Progress
  | [] => .ok p
  | c :: cs =>
    match Flag.all.find? (·.letter == c) with
    | none => .error (.fault (.unexpected (String.ofList ['-', c])))
    | some f =>
      match p.raise f with
      | .ok p => short p cs
      | .error stop => .error stop

/-- Takes an argument. -/
def take (p : Progress) (arg : String) : Except Stop Progress :=
  if p.trailing then p.request arg
  else
    match arg.toList with
    | ['-', '-'] => .ok { p with trailing := true }
    | '-' :: '-' :: cs =>
      let value := match cs.dropWhile (· != '=') with
        | _ :: rest => some (String.ofList rest)
        | [] => none
      p.long (String.ofList (cs.takeWhile (· != '='))) value
    | '-' :: c :: cs => p.short (c :: cs)
    | _ =>
      match p.pending with
      | some (k, none) => .ok { p with pending := some (k, some arg) }
      | _ => p.request arg

/-- What is asked for at the end of the arguments. -/
def finish (p : Progress) : Except Stop Arguments := do
  let p ← p.settle
  let missing :=
    (if p.urlTemplate.isNone then [Key.urlTemplate.display] else [])
      ++ (if p.requests.isEmpty then [requestsDisplay] else [])
  match p.urlTemplate, p.requests with
  | some urlTemplate, _ :: _ =>
    return { urlTemplate, workers := p.workers, delay := p.delay, expect := p.expect,
             deadline := p.deadline, verbose := p.verbose, quiet := p.quiet,
             requests := p.requests }
  | _, _ => throw (.fault (.missing missing))

end Progress

/-- Reads arguments. -/
def Command.read (args : List String) : Except UsageFault Command :=
  let read : Except Stop Arguments := do (← args.foldlM Progress.take {}).finish
  match read with
  | .ok a => .ok (.run a)
  | .error .help => .ok .help
  | .error .version => .ok .version
  | .error (.fault f) => .error f

end PageCrawl.CommandLine
