import PageCrawl.Proofs.Recrawl.Cancellation

/-!
# When crawling again fails

A round is crawled to its end whatever happens in it, and only then is it looked at: a single source
without a page makes an end of crawling again.  So the error depends on nothing but the sources that
came back in the last round, in the order in which they did.

**Exactly then.**  Crawling again fails when something comes back without a page, and at no other
time (`Chronicle.fails_iff`).  What the initial sources are like plays no part in it.

**The last round.**  `FailsIn` says what is known of a run that fails: all rounds before the last
one gave pages only, the requests of the last one were called all the same unless they were
cancelled, and the error is that of the last source of this round that has one
(`Chronicle.exists_failsIn`).
-/

namespace PageCrawl

namespace Pool

/-- **How crawling again fails** in its last round. -/
structure FailsIn (pool : Pool) (earlier : List Round) (last : Round) (r : Recrawl)
    (e : CrawlError) : Prop where
  /-- Everything that came back in the rounds before has a page. -/
  earlier_isOk : ∀ previous ∈ earlier, ∀ source ∈ previous.fresh, source.isOk = true
  /-- Something in the last round has none, -/
  exists_error : ∃ source ∈ last.fresh, source.isOk = false
  /-- and the error is that of the last source that has one. -/
  error_eq : lastError last.fresh = some e
  /-- One source came back for each request of the round. -/
  requests_perm : (last.fresh.map (·.request)).Perm last.rejected
  /-- Each of them was called once, unless it came back as cancelled, -/
  crawled_perm : (last.crawled ++ last.refused).Perm last.rejected
  /-- and what is not cancelled are the sources of these calls. -/
  fresh_perm : (last.fresh.filter (!·.isCancelled)).Perm (last.calls.map pool.answer)
  /-- No source is returned, but the error under its message. -/
  fails : r.FailsWith e

variable {pool : Pool} {evaluate : Evaluation} {limit : Option Nat} {pace : Run → Nat}
  {past : List (List PageSource)} {batch : List PageSource} {s : Run} {round : Round}
  {rounds : List Round} {r : Recrawl} {e : CrawlError}

lemma Whole.exists_error (h : pool.Whole round) (he : round.after.error = some e) :
    ∃ source ∈ round.fresh, source.isOk = false := by
  obtain ⟨source, hm, hs⟩ := exists_of_lastError (h.error_eq.symm.trans he)
  exact ⟨source, hm, by simp [PageSource.isOk, hs]⟩

namespace Chronicle

/-- **Crawling again fails exactly when something comes back without a page.** -/
lemma fails_iff (h : pool.Chronicle evaluate limit pace past batch s rounds r)
    (ht : r.ending ≠ .timedOut) :
    (∃ e, r.ending = .failed e) ↔ ∃ round ∈ rounds, ∃ source ∈ round.fresh,
      source.isOk = false := by
  induction h with
  | unfinished => simp
  | done hr => simp [Round.fresh]
  | timedOut => exact absurd rfl ht
  | failed hr hw he => simpa using hw.exists_error he
  | again hr hw he h ih =>
      rw [ih ht]
      constructor
      · rintro ⟨round, hm, hsource⟩
        exact ⟨round, List.mem_cons_of_mem _ hm, hsource⟩
      · rintro ⟨round, hm, source, hsource, hfailed⟩
        rcases List.mem_cons.mp hm with rfl | hm
        · -- the round is followed by another, so nothing in it failed
          rw [hw.isOk he source hsource] at hfailed
          cases hfailed
        · exact ⟨round, hm, source, hsource, hfailed⟩

/-- **A run that fails does so in its last round.** -/
lemma exists_failsIn (h : pool.Chronicle evaluate limit pace past batch s rounds r)
    (hr : r.ending = .failed e) :
    ∃ earlier last, rounds = earlier ++ [last] ∧ pool.FailsIn earlier last r e := by
  induction h with
  | unfinished | done | timedOut => cases hr
  | failed hrej hw he =>
      cases hr
      exact ⟨[], _, rfl,
        { earlier_isOk := by simp
          exists_error := hw.exists_error he
          error_eq := hw.error_eq.symm.trans he
          requests_perm := hw.requests_perm
          crawled_perm := hw.crawled_perm
          fresh_perm := hw.fresh_perm
          fails := Recrawl.failsWith rfl }⟩
  | again hrej hw he h ih =>
      obtain ⟨earlier, last, rfl, hlast⟩ := ih hr
      exact ⟨_ :: earlier, last, rfl,
        { hlast with
          earlier_isOk := List.forall_mem_cons.mpr ⟨hw.isOk he, hlast.earlier_isOk⟩ }⟩

end Chronicle

/-- **Crawling again fails exactly when something comes back without a page**, whatever the
evaluation and the pool.  Then this round is the last one and its evaluation the last evaluation;
the whole round was crawled, except for what was cancelled, however early a failure came; and the
error is that of the last source of the round that has one.  The initial sources cause no error: as
long as nothing is rejected, nothing fails.  A run that has come to no end has gone through all the
rounds that it was allowed, since nothing else cuts it off. -/
theorem recrawl_fails_in_last_round (pool : Pool) (evaluate : Evaluation)
    (initial : List PageSource) :
    (∀ bound, ∃ rounds,
      pool.Story evaluate initial rounds (pool.recrawl evaluate none bound initial) ∧
      ((∃ e, (pool.recrawl evaluate none bound initial).ending = .failed e) ↔
        ∃ round ∈ rounds, ∃ source ∈ round.fresh, source.isOk = false) ∧
      (∀ e, (pool.recrawl evaluate none bound initial).ending = .failed e →
        (∃ earlier last, rounds = earlier ++ [last] ∧
          pool.FailsIn earlier last (pool.recrawl evaluate none bound initial) e) ∧
        ∀ bound', bound ≤ bound' → pool.recrawl evaluate none bound' initial
          = pool.recrawl evaluate none bound initial) ∧
      ((pool.recrawl evaluate none bound initial).ending = .unfinished → rounds.length = bound) ∧
      (pool.recrawl evaluate none bound initial).ending ≠ .timedOut) ∧
    ((evaluate [] initial).recrawl = [] → ∀ bound, 0 < bound →
      (pool.recrawl evaluate none bound initial).ending = .done (evaluate [] initial).kept) := by
  refine ⟨fun bound => ?_, fun hr bound hb => ?_⟩
  · obtain ⟨rounds, h, hlength⟩ := exists_chronicle pool evaluate none bound initial
    have ht := recrawl_ne_timedOut pool evaluate bound initial
    refine ⟨rounds, h.story, h.fails_iff ht, fun e he => ⟨h.exists_failsIn he, ?_⟩, hlength, ht⟩
    have hu : (pool.recrawl evaluate none bound initial).ending ≠ .unfinished := by simp [he]
    exact fun bound' hle => recrawlFrom_of_le pool evaluate none hu hle
  · obtain ⟨n, rfl⟩ := Nat.exists_eq_succ_of_ne_zero hb.ne'
    rw [recrawl, recrawlFrom_done hr]

/-- Of four requests the first call of the second round fails at once, and the pool is cancelled
while the call for the second one is on the way, which breaks down later.  That the initial sources
have failed as well changes nothing of the first round. -/
theorem recrawl_fails_in_last_round_early :
    let pool : Pool := ⟨.new 1 1, Crawler.ofScripts
      [("a", [{ ending := .page "A" }, { ending := .error ["lost", "root"] }]),
       ("b", [{ ending := .page "B" }, { duration := 6, ending := .panic (.text "boom") }])],
      some 8⟩
    let evaluate : Evaluation := fun _ batch => ⟨batch.map (·.request), []⟩
    let initial : List PageSource :=
      [⟨"a", .failed "refused"⟩, ⟨"b", .cancelled⟩, ⟨"c", .panicked "oops"⟩, ⟨"d", .page "d"⟩]
    let r := pool.recrawl evaluate none 2 initial
    r.ending = .failed (.cancelled "c") ∧
      (∃ earlier last, pool.Story evaluate initial (earlier ++ [last]) r ∧
        pool.FailsIn earlier last r (.cancelled "c") ∧ earlier.length = 1 ∧
        (last.fresh.map (·.request)).Perm ["a", "b", "c", "d"]) ∧
      (∀ bound, 2 ≤ bound → pool.recrawl evaluate none bound initial = r) ∧
      (evaluate [] []).recrawl = [] ∧ (pool.recrawl evaluate none 1 []).ending = .done [] := by
  intro pool evaluate initial r
  have hend : r.ending = .failed (.cancelled "c") := by decide +kernel
  have hbatches : r.evaluations = [initial] ++ [[⟨"a", .page "A"⟩, ⟨"b", .page "B"⟩,
      ⟨"c", .page "c"⟩, ⟨"d", .page "d"⟩]] := by
    decide +kernel
  obtain ⟨rounds, hstory, -, hfails, -⟩ := (recrawl_fails_in_last_round pool evaluate initial).1 2
  obtain ⟨⟨earlier, last, rfl, hlast⟩, hsame⟩ := hfails _ hend
  have hrounds := hstory.evaluations_eq
  rw [hbatches, List.map_append, List.map_singleton] at hrounds
  obtain ⟨hearlier, hbatch⟩ := List.append_inj' hrounds rfl
  have hlength : earlier.length = 1 := by simpa using congrArg List.length hearlier.symm
  have hrejected : last.rejected = ["a", "b", "c", "d"] := by
    rw [Round.rejected, hstory.part_eq earlier last [] rfl, ← List.singleton_inj.mp hbatch]
    rfl
  have hnone := (recrawl_fails_in_last_round pool evaluate []).2 rfl 1 Nat.one_pos
  exact ⟨hend, ⟨earlier, last, hstory, hlast, hlength, hrejected ▸ hlast.requests_perm⟩, hsame,
    rfl, hnone⟩

end Pool

end PageCrawl
