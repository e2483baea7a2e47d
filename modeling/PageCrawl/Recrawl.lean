import PageCrawl.Pool

/-!
# Crawling again

An evaluation looks at a batch of sources and says which requests to crawl again and which sources
to keep. `Pool.recrawl` repeats it: rejected requests are dispatched, their fresh sources are put
behind the kept ones, and the whole is evaluated again, until nothing is rejected. A single failed
crawl ends it with an error. Nothing bounds the number of rounds but a time limit.

Where calls are answered at once and nobody pauses, time passes only because evaluations and
dispatches take some themselves. `Pool.recrawl` is told how much, and takes them for instantaneous
unless it is.
-/

namespace PageCrawl

/-- What an evaluation says of a batch. -/
structure Partition where
  /-- The requests to crawl again. -/
  recrawl : List String
  /-- The sources to keep. -/
  kept : List PageSource
deriving Repr, DecidableEq, Inhabited

/-- An evaluation of batches. What it says of a batch may depend on the batches that it was given
before, latest first. -/
abbrev Evaluation := List (List PageSource) → List PageSource → Partition

namespace Evaluation

/-- The evaluation that keeps the sources that satisfy a test and rejects the others. -/
def ofTest (valid : PageSource → Bool) : Evaluation := fun _ batch =>
  ⟨(batch.filter fun s => !valid s).map (·.request), batch.filter valid⟩

end Evaluation

/-- How crawling again ends. -/
inductive RecrawlEnding
  /-- Nothing was rejected; these were kept. -/
  | done (kept : List PageSource)
  /-- A crawl failed; this is the last error of its round. -/
  | failed (error : CrawlError)
  /-- The time limit was reached. -/
  | timedOut
  /-- The bound on rounds was reached. -/
  | unfinished
deriving Repr, DecidableEq, Inhabited

/-- All that crawling again shows. -/
structure Recrawl where
  ending : RecrawlEnding
  /-- The batches that were evaluated, in order. -/
  evaluations : List (List PageSource)
  /-- The state of the pool at the end. -/
  run : Run
deriving Repr, DecidableEq, Inhabited

namespace Recrawl

/-- What the error says when a crawl fails. -/
def failure : String := "failed to crawl page sources"

end Recrawl

/-- Time passes while nothing is under way, no further than a limit. -/
def Run.pass (s : Run) (limit : Option Nat) (time : Nat) : Run :=
  { s with now := s.now + limit.elim time fun l => min time (l - s.now) }

namespace Pool

/-- Evaluates a batch and crawls what is rejected, until nothing is, for at most the given number
of rounds. `past` are the batches evaluated before, latest first; `limit` is the time at which it
ends in any case; `pace` is how long it takes to evaluate a batch and to begin a dispatch. -/
def recrawlFrom (pool : Pool) (evaluate : Evaluation) (limit : Option Nat) (rounds : Nat)
    (past : List (List PageSource)) (batch : List PageSource) (s : Run)
    (pace : Run → Nat := fun _ => 0) : Recrawl :=
  match rounds with
  | 0 => ⟨.unfinished, past.reverse, s⟩
  | n + 1 =>
    let part := evaluate past batch
    let past := batch :: past
    if part.recrawl.isEmpty then ⟨.done part.kept, past.reverse, s⟩
    else
      match pool.dispatch limit part.recrawl (s.pass limit (pace s)) with
      | (s, none) => ⟨.timedOut, past.reverse, s⟩
      | (s, some d) =>
        match d.intoResult with
        | .error e => ⟨.failed e, past.reverse, s⟩
        | .ok fresh => pool.recrawlFrom evaluate limit n past (part.kept ++ fresh) s pace

/-- Evaluates the given sources and crawls what is rejected, until nothing is. -/
def recrawl (pool : Pool) (evaluate : Evaluation) (limit : Option Nat) (rounds : Nat)
    (initial : List PageSource) (pace : Run → Nat := fun _ => 0) : Recrawl :=
  pool.recrawlFrom evaluate limit rounds [] initial { cancelled := pool.cancelAt == some 0 } pace

end Pool

end PageCrawl
