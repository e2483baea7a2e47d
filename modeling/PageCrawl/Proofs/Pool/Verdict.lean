import PageCrawl.Proofs.Pool.History

/-!
# What a dispatch says about failures

There are three ways to learn from a dispatch whether requests failed: its error, the number of
failed results, and the conversion into a list of results or an error.  They always agree
(`Dispatch.Consistent`).

The error is kept while sources come in from the feeder and the workers, in any order: one that
fails replaces it.  So on every path it is that of the last source that failed (`Path.error_eq`),
and all else is about lists of sources (`consistent_of_lastError`).
-/

namespace PageCrawl

/-- **The error, the count and the conversion of a dispatch agree.** -/
structure Dispatch.Consistent (d : Dispatch) : Prop where
  /-- The error is that of the last result that failed: all results behind it are pages. -/
  error_eq_some : ∀ e, d.error = some e ↔ ∃ past source rest,
    d.results = past ++ source :: rest ∧ source.error? = some e ∧
      ∀ other ∈ rest, other.isOk = true
  error_eq_none : d.error = none ↔ d.failedCount = 0
  /-- The conversion gives all results as they are if none of them failed. -/
  intoResult_ok : ∀ sources, d.intoResult = .ok sources ↔
    (∀ source ∈ d.results, source.isOk = true) ∧ sources = d.results
  /-- Otherwise it gives the error. -/
  intoResult_error : ∀ e, d.intoResult = .error e ↔
    (∃ source ∈ d.results, source.isOk = false) ∧ d.error = some e

namespace Pool

variable {pool : Pool} {s t : Run} {trail : List Transition} {requests : List String}
  {sources : List PageSource} {d : Dispatch} {e : CrawlError}

/-- The last error is that of a source behind which no other one failed. -/
lemma lastError_eq_some : lastError sources = some e ↔ ∃ past source rest,
    sources = past ++ source :: rest ∧ source.error? = some e ∧
      ∀ other ∈ rest, other.isOk = true := by
  simp only [lastError, List.findSome?_eq_some_iff, PageSource.isOk, Option.isNone_iff_eq_none]
  constructor
  · rintro ⟨rest, source, past, heq, he, hrest⟩
    refine ⟨past.reverse, source, rest.reverse, ?_, he, fun other hm => ?_⟩
    · rw [← List.reverse_reverse sources, heq]
      simp
    · exact hrest other (List.mem_reverse.mp hm)
  · rintro ⟨past, source, rest, rfl, he, hrest⟩
    refine ⟨rest.reverse, source, past.reverse, by simp, he, fun other hm => ?_⟩
    exact hrest other (List.mem_reverse.mp hm)

lemma failedCount_eq_zero :
    d.failedCount = 0 ↔ ∀ source ∈ d.results, source.isOk = true := by
  simp [Dispatch.failedCount, List.countP_eq_zero]

lemma intoResult_of_none (h : d.error = none) : d.intoResult = .ok d.results := by
  rw [Dispatch.intoResult, h]

lemma intoResult_of_some (h : d.error = some e) : d.intoResult = .error e := by
  rw [Dispatch.intoResult, h]

/-- **What follows from the error of the last source that failed.** -/
lemma consistent_of_lastError (h : d.error = lastError d.results) : d.Consistent := by
  have hnone : d.error = none ↔ ∀ source ∈ d.results, source.isOk = true := by
    rw [h, lastError_eq_none]
  refine ⟨fun e => by rw [h, lastError_eq_some], hnone.trans failedCount_eq_zero.symm, ?_, ?_⟩
  · intro sources
    cases he : d.error with
    | none =>
        rw [intoResult_of_none he, Except.ok.injEq]
        exact ⟨fun heq => ⟨hnone.mp he, heq.symm⟩, fun hall => hall.2.symm⟩
    | some e =>
        rw [intoResult_of_some he]
        refine iff_of_false nofun fun hall => ?_
        rw [hnone.mpr hall.1] at he
        cases he
  · intro e
    cases he : d.error with
    | none =>
        rw [intoResult_of_none he]
        exact iff_of_false nofun (by simp)
    | some e' =>
        obtain ⟨source, hm, hsource⟩ := exists_of_lastError (h.symm.trans he)
        have hfailed : source.isOk = false := by
          rw [PageSource.isOk, hsource]
          rfl
        rw [intoResult_of_some he, Except.error.injEq, Option.some.injEq]
        exact ⟨fun heq => ⟨⟨source, hm, hfailed⟩, heq⟩, fun heq => heq.2⟩

/-- **The error of a dispatch is that of its last result that failed.**

On every path of a batch, in whatever order requests end and whenever the pool is cancelled, the
error kept so far is that of the last source reported so far that failed, and there is none exactly
if none failed.  So every dispatch that is not dropped has the error of its last failed result, and
its conversion gives all results in order if there is no such result, and this error otherwise. -/
theorem dispatch_error_is_last (pool : Pool) (requests : List String) (s : Run) :
    (∀ trail t, pool.Path (s.begin requests) trail t →
      Dispatch.Consistent ⟨t.reported, t.error⟩) ∧
    (∀ limit t d, pool.dispatch limit requests s = (t, some d) → d.Consistent) ∧
    ∃ t d, pool.dispatch none requests s = (t, some d) ∧ d.Consistent := by
  have hpath : ∀ trail t, pool.Path (s.begin requests) trail t →
      Dispatch.Consistent ⟨t.reported, t.error⟩ :=
    fun trail t h => consistent_of_lastError h.error_eq
  refine ⟨hpath, ?_, ?_⟩
  · intro limit t d h
    obtain ⟨⟨trail, hp, -⟩, -, rfl⟩ := dispatch_eq_some h
    exact hpath trail t hp
  · obtain ⟨t, -, ht⟩ := dispatch_none pool s requests
    obtain ⟨⟨trail, hp, -⟩, -, -⟩ := dispatch_eq_some ht
    exact ⟨t, _, ht, hpath trail t hp⟩

/-- A batch of two workers with all kinds of failures: the pool is cancelled while both make their
calls, and the one that ends last gives a page. -/
theorem dispatch_error_is_last_mixed :
    let pool : Pool := ⟨.new 2 1, Crawler.ofScripts
      [("a", [{ duration := 9, ending := .page "A" }]),
       ("b", [{ duration := 1, ending := .error ["no case", "404"] }]),
       ("c", [{ duration := 5, ending := .panic (.text "boom") }])], some 4⟩
    let d : Dispatch := ⟨[⟨"b", .failed "no case: 404"⟩, ⟨"e", .cancelled⟩,
      ⟨"c", .panicked "boom"⟩, ⟨"d", .cancelled⟩, ⟨"a", .page "A"⟩], some (.cancelled "d")⟩
    ∃ t, pool.dispatch none ["a", "b", "c", "d", "e"] pool.start = (t, some d) ∧ d.Consistent ∧
      d.failedCount = 4 ∧ d.intoResult = .error (.cancelled "d") := by
  intro pool d
  obtain ⟨t, ht, -⟩ : ∃ t, pool.dispatch none ["a", "b", "c", "d", "e"] pool.start
      = (t, some d) ∧ t.cancelled = true := by
    refine exists_dispatch_eq ?_ ?_
    · decide +kernel
    · decide +kernel
  have hconsistent :=
    (dispatch_error_is_last pool ["a", "b", "c", "d", "e"] pool.start).2.1 none t d ht
  exact ⟨t, ht, hconsistent, by decide, (hconsistent.intoResult_error _).mpr
    ⟨⟨⟨"d", .cancelled⟩, by simp [d], by decide⟩, rfl⟩⟩

end Pool

end PageCrawl
