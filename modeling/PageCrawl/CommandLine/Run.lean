import PageCrawl.CommandLine.Help
import PageCrawl.Log.Event
import PageCrawl.Report.Basic

/-!
# Running the program

All that a run of the program shows, as a function of its arguments, the environment and the
network. Settings and the selector are looked at before anything is fetched, in a fixed order, and
the first that is wrong ends the run; then the requests are crawled, and crawled again if something
is expected of the pages. Reports are printed at the very end and all together, so a run that fails
prints none.

Pages are read to see what they hold. A page on which reading breaks down is taken to hold nothing,
and the outcome names it in `unread`.
-/

namespace PageCrawl.CommandLine

/-- What a run shows. -/
structure Outcome where
  /-- The exit code. -/
  code : Nat
  /-- The lines of standard output. -/
  output : List String := []
  /-- What is written to standard error apart from events. -/
  errors : String := ""
  /-- The events, in order, whether a filter tells them or not. -/
  events : List Log.Event := []
  /-- The pages that were looked into and on which reading breaks down. -/
  unread : List String := []
  /-- The addresses that were reached, latest first. -/
  hits : Hits := []
  /-- The name that was sent to them. -/
  userAgent : String := ""
deriving Repr, DecidableEq, Inhabited

namespace Outcome

/-- An error with its causes, the outermost first; where there are several they are numbered. -/
def errorText : List String → String
  | [] => ""
  | [message] => "Error: " ++ message
  | message :: causes =>
    let indented (gap text : String) : String :=
      String.intercalate ("\n" ++ gap) ((Text.split (· == '\n') text.toList).map String.ofList)
    let numbered (i : Nat) (cause : String) : String :=
      let label := i.repr
      "\n" ++ String.ofList (List.replicate (5 - label.length) ' ') ++ label ++ ": "
        ++ indented "       " cause
    let listed := match causes with
      | [cause] => "\n    " ++ indented "    " cause
      | causes => String.join (causes.zipIdx.map fun (cause, i) => numbered i cause)
    "Error: " ++ message ++ "\n\nCaused by:" ++ listed

/-- A run that ends with an error. -/
def failed (chain : List String) (events : List Log.Event) : Outcome :=
  { code := 1, errors := errorText chain, events }

end Outcome

/-- What is expected of pages, if anything is. -/
def expected (a : Arguments) : Except ExtractError (Option (List Selector)) :=
  match a.expect with
  | none => .ok none
  | some e => (Extract.selector e).map some

/-- How a run ends whose selector cannot be used. -/
def unusableSelector (a : Arguments) (e : ExtractError) (events : List Log.Event) : Outcome :=
  match e.message? with
  | some m =>
    .failed ["--expect is not a valid CSS selector: " ++ a.expect.getD "", m] events
  | none => { code := 101, events }

/-- The pages of sources on which reading breaks down. -/
def unreadable (sources : List PageSource) : List String :=
  (sources.filterMap (·.page?)).filter fun page => (Html.Document.parse? page).isNone

/-- Crawls the requests, and again what does not hold what is expected. `rounds` bounds how often;
`none` if that is not enough. -/
def crawl (network : Network) (a : Arguments) (config : DispatchConfig)
    (list : Option (List Selector)) (s : Session) (rounds : Nat) (now : Instant)
    (events : List Log.Event) : Option Outcome :=
  let calls (run : Run) : List Log.Event :=
    run.called.reverse.flatMap (Log.Event.ofCall network.naming s.config a.urlTemplate)
  let reports (sources : List PageSource) : List String :=
    sources.map fun source => (PageReport.ofSource source now).toJson
  let (run, first) := s.crawl network a.urlTemplate config a.requests
  let events := events ++ Log.Event.dispatching a.requests.length config.workers ::
    calls run ++ Log.Event.ofDispatch first
  let shown (run : Run) (seen : List PageSource) (o : Outcome) : Outcome :=
    { o with
      unread := unreadable seen
      hits := s.hitsOf network a.urlTemplate run.called
      userAgent := s.config.userAgent }
  match list with
  | none => some (shown run first.results { code := 0, output := reports first.results, events })
  | some list =>
    let deadline := a.deadline.map (· * 1000)
    let r := s.recrawlUntilRendered network a.urlTemplate list deadline rounds first.results run
    let seen := r.evaluations.flatten
    let again : Run := { r.run with
      calls := r.run.calls.take (r.run.calls.length - run.calls.length) }
    let events := events ++ Log.Event.ofRecrawl (Check.hasSelector list).passes r ++ calls again
    match r.ending with
    | .done kept => some (shown r.run seen { code := 0, output := reports kept, events })
    | .failed _ | .timedOut =>
      some (shown r.run seen (.failed (r.errorChain (deadline.getD 0)) events))
    | .unfinished => none

/-- Runs what is asked for. -/
def runWith (network : Network) (env : Environment) (a : Arguments) (rounds : Nat)
    (now : Instant) : Option Outcome :=
  match DispatchConfig.requested a.workers a.delay env with
  | .error e => some (.failed e.chain [])
  | .ok (workers, delay) =>
    let events := if workers == 0 then [Log.Event.noWorkers] else []
    match expected a with
    | .error e => some (unusableSelector a e events)
    | .ok list =>
      match SessionConfig.fromEnv env with
      | .error e => some (.failed e.chain events)
      | .ok c =>
        match Session.new? { c with debug := a.verbose } with
        | none => some (.failed Session.failure events)
        | some s =>
          crawl network a (.new workers delay) list s rounds now
            (events ++ [Log.Event.sessionMade s.config])

/-- Runs the program: what it shows, with the events that are told. `rounds` bounds how often pages
are crawled again; `none` if that is not enough. -/
def run (network : Network) (env : Environment) (args : List String) (rounds : Nat)
    (now : Instant) : Option Outcome :=
  match Command.read args with
  | .error f => some { code := 2, errors := f.message }
  | .ok .help => some { code := 0, output := helpLines }
  | .ok .version => some { code := 0, output := [versionLine] }
  | .ok (.run a) =>
    let filter := Log.Filter.choose a.verbose a.quiet env
    (runWith network env a rounds now).map fun o =>
      { o with events := o.events.filter filter.tells }

end PageCrawl.CommandLine
