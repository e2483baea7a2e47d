/-!
# Requests and what became of them

A request is a text that identifies a page, such as the number of a case. Crawling it gives one
`PageSource`, which says for which request it is and how the crawl ended: with a page, or with an
error. Since the ending is one value, a source has exactly one of the two, and an error always
speaks of the source's own request.
-/

namespace PageCrawl

/-- A single unit of work. -/
structure Request where
  /-- The identifier that the crawl is given. -/
  searchString : String
deriving Repr, DecidableEq, Inhabited

/-- Why a request did not give a page. -/
inductive CrawlError
  | failed (request message : String)
  | panicked (request message : String)
  | cancelled (request : String)
deriving Repr, DecidableEq, Inhabited

namespace CrawlError

/-- The request that the error belongs to. -/
def request : CrawlError → String
  | .failed r _ | .panicked r _ | .cancelled r => r

/-- The error as a text. -/
def display : CrawlError → String
  | .failed r m => "crawl failed for " ++ r ++ ": " ++ m
  | .panicked r m => "crawl panicked for " ++ r ++ ": " ++ m
  | .cancelled r => "request " ++ r ++ " was cancelled before a worker picked it up"

end CrawlError

/-- How crawling a request ended. -/
inductive Outcome
  /-- With the text of a page. -/
  | page (text : String)
  /-- With an error of the crawl. -/
  | failed (message : String)
  /-- The crawl broke down. -/
  | panicked (message : String)
  /-- The request was never crawled. -/
  | cancelled
deriving Repr, DecidableEq, Inhabited

/-- What became of a request. -/
structure PageSource where
  /-- The identifier of the request. -/
  request : String
  outcome : Outcome
deriving Repr, DecidableEq, Inhabited

namespace PageSource

/-- A crawl that gave a page. -/
def success (request page : String) : PageSource := ⟨request, .page page⟩

/-- A crawl that gave an error. -/
def failure : CrawlError → PageSource
  | .failed r m => ⟨r, .failed m⟩
  | .panicked r m => ⟨r, .panicked m⟩
  | .cancelled r => ⟨r, .cancelled⟩

/-- The page, if there is one. -/
def page? (s : PageSource) : Option String :=
  match s.outcome with
  | .page text => some text
  | _ => none

/-- The error, if there is one. -/
def error? (s : PageSource) : Option CrawlError :=
  match s.outcome with
  | .page _ => none
  | .failed m => some (.failed s.request m)
  | .panicked m => some (.panicked s.request m)
  | .cancelled => some (.cancelled s.request)

/-- Whether the crawl gave a page. -/
def isOk (s : PageSource) : Bool := s.error?.isNone

/-- The request to crawl once more. -/
def toRequest (s : PageSource) : Request := ⟨s.request⟩

/-- A source has a page exactly when it has no error. -/
theorem page?_isSome_eq_isOk (s : PageSource) : s.page?.isSome = s.isOk := by
  obtain ⟨r, o⟩ := s
  cases o <;> rfl

/-- The error of a source speaks of its own request. -/
theorem request_of_error? {s : PageSource} {e : CrawlError} (h : s.error? = some e) :
    e.request = s.request := by
  obtain ⟨r, o⟩ := s
  cases o <;> simp [error?] at h <;> subst h <;> rfl

end PageSource

/-- Takes the element at a place out of a list. A place outside the list changes nothing. -/
def removeAt {α : Type} (xs : List α) (i : Nat) : Option α × List α :=
  match xs[i]? with
  | some x => (some x, xs.eraseIdx i)
  | none => (none, xs)

end PageCrawl
