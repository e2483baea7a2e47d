import PageCrawl.Crawl.Crawler
import PageCrawl.Settings.Dispatch

/-!
# The worker pool

A pool gives every request of a batch to a crawl function and collects one source for each. A
*feeder* holds the requests and hands them over one at a time: a queue of one place lies between
it and the workers. A worker that is free takes the request in the queue, pauses, makes the call
and reports the outcome. Once the pool is cancelled the feeder reports all it still holds as
cancelled, and a worker that finds a request in the queue reports it too; what is in a worker's
hands runs to its end.

**States and moves.** A `Run` is a state of the pool in virtual time, a `Move` one thing that can
happen in it, and `Run.after?` says when it may and what comes of it. Whatever order the moves
come in, they go through this one function.

**Time.** `Pool.nextMove?` is the order in which things happen: everything that can happen now,
and then time passes until the next call begins or ends. `Pool.run` repeats it until the batch is
done, or until a time limit cuts it off. Requests in the hands of workers at that moment become
*strays*, which go on to their end unheard.

**What is left out.** A `Run` says where requests are, not how the tasks of a dispatch get along:
with what a batch ends, what a dropped one leaves running and which token stops it. `Pool.Tasks` has
the tasks with their channel and their tokens, in any order of steps. `Pool.run` is one order of
them, and that its batches end and are dropped as theirs are is proved (`Tasks.Rests.dispatch`).
-/

namespace PageCrawl

/-- A call of the crawl function. -/
structure Call where
  request : String
  /-- Its number among the calls for this request. -/
  attempt : Nat
  start : Nat
  /-- When it ended, if it has; a call that breaks down before it has begun never does. -/
  finish : Option Nat
deriving Repr, DecidableEq, Inhabited

/-- What a worker does with the request in its hands. -/
inductive Stage
  /-- It pauses before the call. -/
  | pausing (deadline : Nat)
  /-- The call with this number is under way. -/
  | calling (attempt : Nat) (reply : Reply) (deadline : Nat)
deriving Repr, DecidableEq, Inhabited

/-- A request in the hands of a worker. -/
structure Hand where
  request : String
  stage : Stage
deriving Repr, DecidableEq, Inhabited

namespace Hand

/-- When the stage ends. -/
def due (h : Hand) : Nat :=
  match h.stage with
  | .pausing t | .calling _ _ t => t

/-- The request of a worker that pauses: its call begins next. -/
def pausing? : Hand → Option String
  | ⟨r, .pausing _⟩ => some r
  | _ => none

end Hand

/-- A state of the pool. -/
structure Run where
  /-- The time in milliseconds. -/
  now : Nat := 0
  /-- Whether the pool is cancelled. -/
  cancelled : Bool := false
  /-- The requests that the feeder holds. -/
  waiting : List String := []
  /-- The request in the queue. -/
  slot : Option String := none
  /-- The requests in the hands of workers, in the order in which they were taken. -/
  hands : List Hand := []
  /-- Requests in the hands of workers to whom nobody listens any more. -/
  strays : List Hand := []
  /-- The sources reported so far, in order. -/
  reported : List PageSource := []
  /-- The error reported last. -/
  error : Option CrawlError := none
  /-- The calls made so far, latest first. -/
  calls : List Call := []
deriving Repr, DecidableEq, Inhabited

/-- A pool: its settings, the crawl function, and when it is cancelled from outside, if it is. -/
structure Pool where
  config : DispatchConfig
  crawler : Crawler
  cancelAt : Option Nat := none

/-- One thing that can happen in a pool. -/
inductive Move
  /-- The pool is cancelled from outside. -/
  | cancel
  /-- The feeder reports the request it holds first as cancelled. -/
  | giveUp
  /-- The feeder puts the request it holds first into the queue. -/
  | feed
  /-- A free worker takes the request out of the queue. -/
  | take
  /-- The stage of the request at this place among the hands ends. -/
  | goOn (i : Nat)
  /-- The stage of the request at this place among the strays ends. -/
  | strayOn (i : Nat)
  /-- Time passes. -/
  | wait (t : Nat)
deriving Repr, DecidableEq, Inhabited

namespace Run

/-- Collects a source. -/
def report (s : Run) (source : PageSource) : Run :=
  { s with reported := s.reported ++ [source], error := source.error?.or s.error }

/-- The requests of all calls made so far, latest first. -/
def called (s : Run) : List String := s.calls.map (·.request)

/-- The number of the next call for a request. -/
def nextAttempt (s : Run) (request : String) : Nat := s.called.count request + 1

/-- Writes down that a call begins. -/
def beginCall (s : Run) (request : String) (attempt : Nat) : Run :=
  { s with calls := ⟨request, attempt, s.now, none⟩ :: s.calls }

/-- Writes down that a call ends. -/
def endCall (s : Run) (request : String) (attempt : Nat) : Run :=
  { s with calls := s.calls.map fun c =>
      if c.request == request && c.attempt == attempt then { c with finish := some s.now } else c }

/-- The state after a request goes on at the end of its stage: the request in its next stage, or
the outcome if it has none. -/
def goOn (s : Run) (crawler : Crawler) (h : Hand) : Run × (Hand ⊕ Outcome) :=
  match h.stage with
  | .pausing _ =>
    let attempt := s.nextAttempt h.request
    let reply := crawler s.called h.request
    let s := { s.beginCall h.request attempt with
      cancelled := s.cancelled || reply.cancelsAtOnce }
    if reply.atCall then (s, .inr reply.ending.outcome)
    else (s, .inl ⟨h.request, .calling attempt reply (s.now + reply.duration)⟩)
  | .calling attempt reply _ =>
    ({ s.endCall h.request attempt with cancelled := s.cancelled || reply.cancels },
      .inr reply.ending.outcome)

/-- What a move makes of a state; `none` if the move is not possible there. -/
def after? (pool : Pool) (s : Run) : Move → Option Run
  | .cancel => if s.cancelled then none else some { s with cancelled := true }
  | .giveUp =>
    match s.cancelled, s.waiting with
    | true, r :: rest => some ({ s with waiting := rest }.report ⟨r, .cancelled⟩)
    | _, _ => none
  | .feed =>
    match s.cancelled, s.slot, s.waiting with
    | false, none, r :: rest => some { s with waiting := rest, slot := some r }
    | _, _, _ => none
  | .take =>
    match s.slot with
    | none => none
    | some r =>
      if s.hands.length < pool.config.workers then
        if s.cancelled then some ({ s with slot := none }.report ⟨r, .cancelled⟩)
        else some { s with
          slot := none
          hands := s.hands ++ [⟨r, .pausing (s.now + pool.config.delay)⟩] }
      else none
  | .goOn i =>
    match s.hands[i]? with
    | none => none
    | some h =>
      if h.due ≤ s.now then
        match s.goOn pool.crawler h with
        | (s, .inl h') => some { s with hands := s.hands.set i h' }
        | (s, .inr outcome) =>
          some ({ s with hands := s.hands.eraseIdx i }.report ⟨h.request, outcome⟩)
      else none
  | .strayOn i =>
    match s.strays[i]? with
    | none => none
    | some h =>
      if h.due ≤ s.now then
        match s.goOn pool.crawler h with
        | (s, .inl h') => some { s with strays := s.strays.set i h' }
        | (s, .inr _) => some { s with strays := s.strays.eraseIdx i }
      else none
  | .wait t => if s.now < t then some { s with now := t } else none

/-- Whether all requests of the batch are reported. -/
def isDone (s : Run) : Bool := s.waiting.isEmpty && s.slot.isNone && s.hands.isEmpty

/-- An upper bound for the number of moves until the batch is done and all strays have ended. -/
def budget (s : Run) : Nat :=
  6 * s.waiting.length + 6 * s.slot.toList.length + 4 * s.hands.length + 4 * s.strays.length + 6

/-- The state in which a batch begins, as far as requests go: `Tasks.begin` starts its tasks. -/
def begin (s : Run) (requests : List String) : Run :=
  { s with waiting := requests, slot := none, hands := [], reported := [], error := none }

/-- The state in which a batch is dropped, as far as requests go: nobody takes the others or listens
to workers. This is what `Tasks.drop` and the steps of the tasks after it come to
(`Tasks.Rests.drop`). -/
def drop (s : Run) : Run :=
  { s with waiting := [], slot := none, hands := [], strays := s.strays ++ s.hands,
           reported := [], error := none }

end Run

/-- All that a dispatch gave. -/
structure Dispatch where
  /-- One source for each request, in the order in which they ended. -/
  results : List PageSource
  /-- The error that was seen last. -/
  error : Option CrawlError
deriving Repr, DecidableEq, Inhabited

namespace Dispatch

/-- The number of requests that gave no page. -/
def failedCount (d : Dispatch) : Nat := d.results.countP fun s => !s.isOk

/-- All results, or the last error if there is one. -/
def intoResult (d : Dispatch) : Except CrawlError (List PageSource) :=
  match d.error with
  | some e => .error e
  | none => .ok d.results

end Dispatch

namespace Pool

/-- The smallest number of a list. -/
def earliest : List Nat → Option Nat
  | [] => none
  | t :: ts =>
    match earliest ts with
    | some u => some (min t u)
    | none => some t

/-- Whether the pool is to be cancelled from outside and is not yet. -/
def cancelPending (pool : Pool) (s : Run) : Option Nat :=
  if s.cancelled then none else pool.cancelAt

/-- What happens next in a state. What can happen now comes before time passes: first the
cancellation, then a free worker takes the request in the queue, then the feeder acts, then
requests in the hands of workers go on, the one taken first before the others. -/
def nextMove? (pool : Pool) (s : Run) : Option Move :=
  if (pool.cancelPending s).any (· ≤ s.now) then some .cancel
  else if s.slot.isSome && s.hands.length < pool.config.workers then some .take
  else if s.cancelled && !s.waiting.isEmpty then some .giveUp
  else if s.slot.isNone && !s.waiting.isEmpty then some .feed
  else
    match s.hands.findIdx? (fun h => h.due ≤ s.now) with
    | some i => some (.goOn i)
    | none =>
      match s.strays.findIdx? (fun h => h.due ≤ s.now) with
      | some i => some (.strayOn i)
      | none =>
        (earliest ((s.hands ++ s.strays).map (·.due) ++ (pool.cancelPending s).toList)).map .wait

/-- What happens next, with time passing no further than a limit. -/
def limitedMove? (pool : Pool) (limit : Option Nat) (s : Run) : Option Move :=
  match pool.nextMove? s, limit with
  | some (.wait t), some l => some (.wait (min t l))
  | m, _ => m

/-- Follows a batch for at most the given number of moves. The answer says whether it is done; a
limit that is reached before cuts it off. The tasks of the batch do not see whether it is done:
their channel is closed then (`Tasks.Rests.path`). -/
def run (pool : Pool) (limit : Option Nat) : Nat → Run → Run × Bool
  | 0, s => (s, s.isDone)
  | n + 1, s =>
    if s.isDone then (s, true)
    else if limit.any (· ≤ s.now) then (s, false)
    else
      match (pool.limitedMove? limit s).bind (s.after? pool) with
      | some s => run pool limit n s
      | none => (s, false)

/-- Dispatches a batch. A batch that is not done at the limit is dropped and gives nothing. -/
def dispatch (pool : Pool) (limit : Option Nat) (requests : List String) (s : Run) :
    Run × Option Dispatch :=
  let s := s.begin requests
  match pool.run limit (s.budget + 2) s with
  | (s, true) => (s, some ⟨s.reported, s.error⟩)
  | (s, false) => (s.drop, none)

/-- Follows the strays to their end, for at most the given number of moves. -/
def drain (pool : Pool) : Nat → Run → Run
  | 0, s => s
  | n + 1, s =>
    if s.strays.isEmpty then s
    else
      match (pool.nextMove? s).bind (s.after? pool) with
      | some s => drain pool n s
      | none => s

/-- Dispatches batches one after another, each of them dropped if it is not done after the given
time. Returns when each ended and what it gave. -/
def dispatchEach (pool : Pool) (dropAfter : Option Nat) :
    List (List String) → Run → Run × List (Nat × Option Dispatch)
  | [], s => (s, [])
  | batch :: batches, s =>
    let (s, d) := pool.dispatch (dropAfter.map (s.now + ·)) batch s
    let (t, ds) := pool.dispatchEach dropAfter batches s
    (t, (s.now, d) :: ds)

/-- Dispatches batches one after another and follows all calls to their end. -/
def dispatchAll (pool : Pool) (dropAfter : Option Nat) (batches : List (List String)) :
    Run × List (Nat × Option Dispatch) :=
  let start : Run := { cancelled := pool.cancelAt == some 0 }
  let (s, ds) := pool.dispatchEach dropAfter batches start
  (pool.drain s.budget s, ds)

end Pool

namespace Run

/-- Whether a call comes before another: by start, request and number. -/
def callBefore (c d : Call) : Bool :=
  c.start < d.start || (c.start == d.start &&
    (c.request < d.request || (c.request == d.request && c.attempt ≤ d.attempt)))

/-- The calls so far, by start, request and number. -/
def callLog (s : Run) : List Call := s.calls.mergeSort callBefore

end Run

end PageCrawl
