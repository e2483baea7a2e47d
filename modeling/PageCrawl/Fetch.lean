import PageCrawl.Http.Network
import PageCrawl.Recrawl.Check
import PageCrawl.Settings.Session
import PageCrawl.Text.Duration
import PageCrawl.Url.Form
import PageCrawl.Url.Parse

/-!
# Fetching pages

A session fetches the page at an address: the address has to be one, the request has to be
answered, the answer has to be a success, and its body has to be complete. Each of these steps has
an error of its own, and what is none of them is a page.

`Session.crawler` makes a crawl function of a template of addresses. `Session.crawl` crawls
requests with it, and `Session.recrawlUntilRendered` goes on until all pages hold what is expected
of them or time is up.
-/

namespace PageCrawl

/-- Why a page could not be fetched. -/
inductive FetchError
  | invalidUrl (address : String) (fault : UrlFault)
  | unanswered (address : String) (causes : List String)
  | unexpectedStatus (address : String) (status : Nat)
  | brokenBody (address : String) (causes : List String)
deriving Repr, DecidableEq, Inhabited

namespace FetchError

/-- What went wrong and why, the outermost first. -/
def chain : FetchError → List String
  | .invalidUrl a fault => ["Invalid URL " ++ a ++ ": " ++ fault.display]
  | .unanswered a causes => ("Failed to fetch content: " ++ a) :: causes
  | .unexpectedStatus a status => ["Unexpected status " ++ Http.statusText status ++ " for " ++ a]
  | .brokenBody a causes => ("Failed to read body of " ++ a) :: causes

/-- What went wrong. -/
def message (e : FetchError) : String := e.chain.headD ""

end FetchError

/-- What came of fetching a page. -/
structure Fetched where
  result : Except FetchError String
  /-- The addresses that were reached for it, latest first. -/
  hits : Hits
  /-- How long it took, in milliseconds. -/
  time : Nat

/-- What comes of fetching the page at an address by an exchange. -/
def Http.Exchange.fetched (e : Http.Exchange) (address : String) : Fetched :=
  let result := match e.result with
    | .error causes => .error (.unanswered address causes)
    | .ok response =>
      if Http.isSuccess response.status then response.text.mapError (.brokenBody address)
      else .error (.unexpectedStatus address response.status)
  ⟨result, e.hits, e.time⟩

namespace Session

/-- The time allowed for a fetch, in milliseconds. -/
def allowed (s : Session) : Nat := s.config.timeout * 1000

/-- Fetches a page, after the addresses that were asked for before. -/
def fetch (s : Session) (network : Network) (earlier : List String) (address : String) : Fetched :=
  match Url.parse network.naming address with
  | .error fault => ⟨.error (.invalidUrl address fault), [], 0⟩
  | .ok url => (network.send s.allowed earlier url).fetched address

/-- Fetches pages one after another. -/
def fetchAll (s : Session) (network : Network) :
    List String → List String → Hits × List (Except FetchError String)
  | _, [] => ([], [])
  | earlier, a :: rest =>
    let f := s.fetch network earlier a
    let (hits, results) := s.fetchAll network (a :: earlier) rest
    (hits ++ f.hits, f.result :: results)

/-- Fetches the page at the address of a request, after those of earlier requests. -/
def fetchFor (s : Session) (network : Network) (template : String) (earlier : List String)
    (request : String) : Fetched :=
  s.fetch network (earlier.map (Url.Template.fill template)) (Url.Template.fill template request)

/-- The hits of calls, given by their requests, latest first. The hits of a call stand together,
also where calls have gone on at the same time. -/
def hitsOf (s : Session) (network : Network) (template : String) : List String → Hits
  | [] => []
  | request :: earlier =>
    (s.fetchFor network template earlier request).hits ++ s.hitsOf network template earlier

/-- The crawl function that fetches the page at the address of a request. -/
def crawler (s : Session) (network : Network) (template : String) : Crawler :=
  fun earlier request =>
    let f := s.fetchFor network template earlier request
    { duration := f.time
      ending := match f.result with
        | .ok page => .page page
        | .error e => .error e.chain }

/-- Crawls requests. -/
def crawl (s : Session) (network : Network) (template : String) (config : DispatchConfig)
    (requests : List String) : Run × Dispatch :=
  let pool : Pool := ⟨config, s.crawler network template, none⟩
  match pool.dispatch none requests {} with
  | (run, some d) => (run, d)
  | (run, none) => (run, ⟨run.reported, run.error⟩)

/-- The time at which a deadline is noticed, if it is set. A timer is set for a tick to come, so
that a deadline of zero is noticed with the first one. -/
def noticedAt (now : Nat) (deadline : Option Nat) : Option Nat := deadline.map (now + max 1 ·)

/-- Crawls again what does not hold what is expected, after the first crawl, until the deadline or
for at most the given number of rounds. -/
def recrawlUntilRendered (s : Session) (network : Network) (template : String)
    (expected : List Selector) (deadline : Option Nat) (rounds : Nat)
    (first : List PageSource) (run : Run) (pace : Run → Nat := fun _ => 0) : Recrawl :=
  let pool : Pool := ⟨.recrawl, s.crawler network template, none⟩
  pool.recrawlFrom (Evaluation.ofTest (Check.hasSelector expected).passes)
    (noticedAt run.now deadline) rounds [] first run pace

end Session

namespace Recrawl

/-- What the error says when time is up. -/
def incomplete (deadline : Nat) : String :=
  "pages still incomplete after " ++ Text.durationText deadline

/-- The causes of the error with which crawling again ends, the outermost first. -/
def errorChain (r : Recrawl) (deadline : Nat) : List String :=
  match r.ending with
  | .failed e => [failure, e.display]
  | .timedOut => [incomplete deadline, "deadline has elapsed"]
  | .done _ | .unfinished => []

end Recrawl

end PageCrawl
