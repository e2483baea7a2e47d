import PageCrawl.Fetch
import PageCrawl.Log.Filter

/-!
# Events

What a run tells of itself while it goes on. Each event belongs to a part of the program, by which
filters pick events out.
-/

namespace PageCrawl.Log

/-- Something that is told. -/
structure Event where
  level : Level
  /-- The part of the program that tells it. -/
  target : String
  message : String
  /-- Further values with their names. -/
  fields : List (String × String) := []
deriving Repr, DecidableEq, Inhabited

namespace Event

/-- An event as a line, without time. -/
def line (e : Event) : String :=
  String.intercalate " "
    (e.level.name.toUpper :: e.message :: e.fields.map fun f => f.1 ++ "=" ++ f.2)

/-- The name of a part of the program. -/
def part (name : String) : String := Filter.program ++ "::" ++ name

/-! ## The events of a run -/

/-- A pool without workers was asked for. -/
def noWorkers : Event :=
  ⟨.warn, part "models::config", "number_of_workers must be at least 1, using a single worker", []⟩

/-- A session was made. -/
def sessionMade (c : SessionConfig) : Event :=
  ⟨.debug, part "services::session", "Session initialized",
    [("user_agent", c.userAgent), ("timeout", Text.durationText (c.timeout * 1000))]⟩

/-- The first crawl begins. -/
def dispatching (requests workers : Nat) : Event :=
  ⟨.info, Filter.program,
    "Dispatching " ++ requests.repr ++ " requests across " ++ workers.repr ++ " workers", []⟩

/-- A worker has taken a request. -/
def taken (request : String) : Event :=
  ⟨.debug, part "services::dispatch", "Worker processing request", [("request", request)]⟩

/-- A page is fetched. -/
def fetching (c : SessionConfig) (url : Url) : Event :=
  ⟨if c.debug then .info else .debug, part "services::session", "Fetching " ++ url.text, []⟩

/-- Some crawls of a dispatch failed. -/
def someFailed (d : Dispatch) (e : CrawlError) : Event :=
  ⟨.warn, Filter.program,
    d.failedCount.repr ++ " of " ++ d.results.length.repr ++ " requests failed, last error: "
      ++ e.display, []⟩

/-- A round of crawling again begins. -/
def crawlingAgain (round rejected : Nat) : Event :=
  ⟨.info, part "services::evaluate",
    "Crawling " ++ rejected.repr ++ " problematic sources", [("round", round.repr)]⟩

/-- Nothing was rejected. -/
def allPassed (rounds : Nat) : Event :=
  ⟨.debug, part "services::evaluate", "All page sources passed evaluation",
    [("rounds", rounds.repr)]⟩

/-- What is told of the call for a request. -/
def ofCall (naming : Naming) (c : SessionConfig) (template request : String) : List Event :=
  taken request ::
    match Url.parse naming (Url.Template.fill template request) with
    | .ok url => [fetching c url]
    | .error _ => []

/-- What is told of a dispatch that has ended, apart from its calls. -/
def ofDispatch (d : Dispatch) : List Event := (d.error.map (someFailed d)).toList

/-- What is told of the rounds of crawling again, apart from their calls. -/
def ofRecrawl (passes : PageSource → Bool) (r : Recrawl) : List Event :=
  (r.evaluations.zipIdx.map fun (batch, i) =>
    let rejected := batch.countP fun s => !passes s
    if rejected == 0 then allPassed i else crawlingAgain (i + 1) rejected)

end Event

namespace Directive

/-- Whether a directive speaks of an event. -/
def speaksOf (d : Directive) (e : Event) : Bool :=
  (d.target.all fun t => t.toList.isPrefixOf e.target.toList)
    && d.fields.all fun f => f.name == "message" || e.fields.any fun v => v.1 == f.name

end Directive

namespace Filter

/-- Whether an event is told. -/
def tells (f : Filter) (e : Event) : Bool :=
  match f.statics.find? (·.speaksOf e) with
  | some d => e.level.rank ≤ d.level.rank
  | none => false

end Filter

end PageCrawl.Log
