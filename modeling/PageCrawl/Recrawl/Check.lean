import PageCrawl.Extract
import PageCrawl.Recrawl

/-!
# Checks of crawled pages

The usual reasons to crawl a page again. A `Check` looks at one source; `Criterion` adds the
evaluations that look at a batch as a whole or remember earlier ones.
-/

namespace PageCrawl

/-- A test of one source. All but the first three fail on a source without a page. -/
inductive Check
  /-- The same answer for every source. -/
  | always (valid : Bool)
  /-- The crawl gave a page. -/
  | isOk
  /-- The request is none of these. -/
  | requestNotIn (requests : List String)
  | pageContains (text : String)
  | pageEquals (text : String)
  /-- The page has at least this many bytes. -/
  | pageMinBytes (n : Nat)
  /-- The page has this title, or none. -/
  | titleEquals (title : Option String)
  /-- The page holds an element that one of the selectors matches. -/
  | hasSelector (list : List Selector)

namespace Check

/-- Whether a source passes. -/
def passes (c : Check) (s : PageSource) : Bool :=
  match c with
  | .always valid => valid
  | .isOk => s.isOk
  | .requestNotIn requests => !requests.contains s.request
  | .pageContains text =>
    s.page?.any fun p => AttrCondition.contains text.toList p.toList
  | .pageEquals text => s.page?.any (· == text)
  | .pageMinBytes n => s.page?.any fun p => n ≤ p.utf8ByteSize
  | .titleEquals title => s.page?.any fun p => Extract.title? p == title
  | .hasSelector list => s.page?.any fun p => Extract.hasSelector p list

end Check

/-- What decides about a batch. -/
inductive Criterion
  /-- A check of each source. -/
  | check (c : Check)
  /-- The first source of each request is rejected, whatever it is. -/
  | seenBefore
  /-- Everything is rejected in the first rounds. -/
  | afterRounds (n : Nat)
  /-- Nothing is rejected, but failed sources are left out. -/
  | dropFailed

namespace Criterion

/-- Splits a batch by whether the request of a source was seen before. -/
def splitSeen : List String → List PageSource → Partition
  | _, [] => ⟨[], []⟩
  | seen, s :: rest =>
    if seen.contains s.request then
      let part := splitSeen seen rest
      { part with kept := s :: part.kept }
    else
      let part := splitSeen (s.request :: seen) rest
      { part with recrawl := s.request :: part.recrawl }

/-- The evaluation of a criterion. -/
def evaluation : Criterion → Evaluation
  | .check c => Evaluation.ofTest c.passes
  | .seenBefore => fun past batch => splitSeen (past.flatten.map (·.request)) batch
  | .afterRounds n => fun past batch =>
    if past.length < n then ⟨batch.map (·.request), []⟩ else ⟨[], batch⟩
  | .dropFailed => fun _ batch => ⟨[], batch.filter (·.isOk)⟩

/-- What a criterion says of batches that come one after another. -/
def rounds (c : Criterion) : List (List PageSource) → List (List PageSource) → List Partition
  | _, [] => []
  | past, batch :: batches => c.evaluation past batch :: c.rounds (batch :: past) batches

end Criterion

end PageCrawl
