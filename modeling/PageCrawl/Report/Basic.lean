import PageCrawl.Crawl.Source
import PageCrawl.Digest.MD5
import PageCrawl.Extract
import PageCrawl.Json.Fields
import PageCrawl.Report.Instant

/-!
# Reports

What is written of a source: one line of JSON with the request, whether it gave a page, and what
can be told of the page without it. A report can be read back; what is absent from it is not
written, and a null stands for an absent value.
-/

namespace PageCrawl

namespace Request

/-- A request as JSON. -/
def toJson (r : Request) : String := Json.object [.text "search_string" r.searchString]

/-- The fields of a request. -/
def fields : List (Json.Field (Option String)) :=
  [⟨"search_string", Option.isSome, fun _ cs => do
    let (s, cs) ← Json.text cs
    return (some s, cs)⟩]

/-- Reads a request. -/
def ofJson (s : String) : Except Json.Fault Request :=
  Json.complete (Json.record fields none fun found => found.map Request.mk) s

end Request

/-- What is told of a source. -/
structure PageReport where
  request : String
  /-- Whether there is a page. -/
  ok : Bool
  /-- The title of the page. -/
  title : Option String
  /-- The digest of the page. -/
  contentHash : Option String
  /-- The number of bytes of the page. -/
  contentLength : Nat
  /-- The error, if there is no page. -/
  error : Option String
  crawledAt : Instant
deriving Repr, DecidableEq, Inhabited

namespace PageReport

/-- The report of a source that was crawled at the given time. -/
def ofSource (s : PageSource) (crawledAt : Instant) : PageReport where
  request := s.request
  ok := s.isOk
  title := s.page?.bind Extract.title?
  contentHash := s.page?.map fun p => Digest.MD5.hex p.toUTF8.toList
  contentLength := (s.page?.map String.utf8ByteSize).getD 0
  error := s.error?.map CrawlError.display
  crawledAt

/-- A member for a text that may be absent. -/
def optionalText (name : String) (value : Option String) : List Json.Member :=
  (value.map (Json.Member.text name)).toList

/-- The members of a report. -/
def members (r : PageReport) : List Json.Member :=
  [.text "request" r.request, .bool "ok" r.ok]
    ++ optionalText "title" r.title
    ++ optionalText "content_hash" r.contentHash
    ++ [.nat "content_length" r.contentLength]
    ++ optionalText "error" r.error
    ++ [.text "crawled_at" (String.ofList r.crawledAt.written)]

/-- A report as JSON, on one line. -/
def toJson (r : PageReport) : String := Json.object r.members

/-- What has been read of a report. -/
structure Found where
  request : Option String := none
  ok : Option Bool := none
  title : Option (Option String) := none
  contentHash : Option (Option String) := none
  contentLength : Option Nat := none
  error : Option (Option String) := none
  crawledAt : Option Instant := none

/-- A field whose value a reader gives. -/
def field {α : Type} (name : String) (get : Found → Option α) (set : Found → α → Found)
    (reader : Json.Reader α) : Json.Field Found :=
  ⟨name, fun f => (get f).isSome, fun f cs => do
    let (x, cs) ← reader cs
    return (set f x, cs)⟩

/-- Reads a text that shows an instant. -/
def instant : Json.Reader Instant := fun cs => do
  let (s, cs) ← Json.text cs
  match Instant.read s.toList with
  | some t => return (t, cs)
  | none => throw .mismatch

/-- The fields of a report, in order. -/
def fields : List (Json.Field Found) :=
  [field "request" (·.request) (fun f x => { f with request := some x }) Json.text,
   field "ok" (·.ok) (fun f x => { f with ok := some x }) Json.bool,
   field "title" (·.title) (fun f x => { f with title := some x }) (Json.optional Json.text),
   field "content_hash" (·.contentHash) (fun f x => { f with contentHash := some x })
    (Json.optional Json.text),
   field "content_length" (·.contentLength) (fun f x => { f with contentLength := some x })
    Json.natural,
   field "error" (·.error) (fun f x => { f with error := some x }) (Json.optional Json.text),
   field "crawled_at" (·.crawledAt) (fun f x => { f with crawledAt := some x }) instant]

/-- The report of what has been read, if nothing that it needs is absent. -/
def ofFound (f : Found) : Option PageReport := do
  return {
    request := ← f.request
    ok := ← f.ok
    title := f.title.join
    contentHash := f.contentHash.join
    contentLength := ← f.contentLength
    error := f.error.join
    crawledAt := ← f.crawledAt }

/-- Reads a report. -/
def ofJson (s : String) : Except Json.Fault PageReport :=
  Json.complete (Json.record fields {} ofFound) s

end PageReport

end PageCrawl
