import PageCrawl.Crawl.Source

/-!
# Crawl functions

What a pool knows of a crawl function: how a call for a request goes, after the calls that were
made before it. A call takes some time, ends in a page, an error or a breakdown, and may cancel the
pool that made it on the way. `Crawler.ofScripts` is the crawl function whose calls are written
down beforehand.
-/

namespace PageCrawl

/-- What a crawl function that breaks down throws. -/
inductive Payload
  | text (message : String)
  /-- Something that is no text. -/
  | other
deriving Repr, DecidableEq, Inhabited

/-- How a call of a crawl function ends. -/
inductive CallEnding
  | page (text : String)
  /-- An error with its causes, the outermost first. -/
  | error (chain : List String)
  | panic (payload : Payload)
deriving Repr, DecidableEq, Inhabited

namespace CallEnding

/-- What the source of a call says. -/
def outcome : CallEnding → Outcome
  | .page text => .page text
  | .error chain => .failed (String.intercalate ": " chain)
  | .panic (.text message) => .panicked message
  | .panic .other => .panicked "unknown panic payload"

end CallEnding

/-- A call of a crawl function. -/
structure Reply where
  /-- How long the call takes, in milliseconds. -/
  duration : Nat := 0
  ending : CallEnding
  /-- Whether the call breaks down before it has begun. -/
  atCall : Bool := false
  /-- Whether the call cancels the pool just before it ends, however it ends. -/
  cancels : Bool := false
  /-- Whether the call cancels the pool as soon as it begins. -/
  cancelsAtStart : Bool := false
deriving Repr, DecidableEq, Inhabited

namespace Reply

/-- Whether the pool is cancelled when the call has begun: a call that breaks down at once is over
then. -/
def cancelsAtOnce (r : Reply) : Bool := r.cancelsAtStart || (r.atCall && r.cancels)

/-- Whether the call cancels the pool at all. -/
def mayCancel (r : Reply) : Bool := r.cancelsAtStart || r.cancels

/-- The call as it goes if it leaves the pool alone. -/
def uncancelling (r : Reply) : Reply := { r with cancels := false, cancelsAtStart := false }

@[simp] theorem cancelsAtOnce_uncancelling (r : Reply) :
    r.uncancelling.cancelsAtOnce = false := by
  simp [cancelsAtOnce, uncancelling]

/-- A call that cancels nothing does not do so at its beginning either. -/
theorem cancelsAtOnce_of_mayCancel {r : Reply} (h : r.mayCancel = false) :
    r.cancelsAtOnce = false := by
  simp only [mayCancel, Bool.or_eq_false_iff] at h
  simp [cancelsAtOnce, h]

theorem cancels_of_mayCancel {r : Reply} (h : r.mayCancel = false) : r.cancels = false := by
  simp only [mayCancel, Bool.or_eq_false_iff] at h
  exact h.2

end Reply

/-- A crawl function: how the call for a request goes, given the requests of all calls that began
before it, latest first. -/
abbrev Crawler := List String → String → Reply

namespace Crawler

/-- The crawl function that follows scripts: call number `k` for a request goes as step `k` of its
script says, and the last step repeats. A request without a script is answered at once with itself
as the page. -/
def ofScripts (scripts : List (String × List Reply)) : Crawler := fun earlier request =>
  let answered : Reply := { ending := .page request }
  match scripts.lookup request with
  | some steps => ((steps[earlier.count request]?).or steps.getLast?).getD answered
  | none => answered

/-- The crawl function whose calls cancel nothing. -/
def uncancelling (crawler : Crawler) : Crawler := fun earlier request =>
  (crawler earlier request).uncancelling

end Crawler

end PageCrawl
