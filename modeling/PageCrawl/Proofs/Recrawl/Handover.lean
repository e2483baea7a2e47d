import PageCrawl.Proofs.Recrawl.Chronicle

/-!
# What one round hands over to the next

The evaluation is arbitrary: it may remember earlier batches, leave sources out and reject requests
that were never in a batch.  All that can be said of crawling again is what each round makes of the
answer of the evaluation, and that is said here, for every number of rounds.

**The hand-over.**  `HandsOver` relates two rounds that follow each other: the later batch is what
was kept in the earlier round, as it is, and then one fresh source with a page for each rejected
request, in the order in which they came back.  `Chronicle.handsOver` says that all rounds are
linked like this.

**What is crawled.**  Each rejected request of a round is called, unless the pool is cancelled:
then those that no worker had taken come back as cancelled, and the round is the last one
(`Chronicle.crawled_perm`).  A round whose time is over has called some of them
(`Chronicle.crawled_subperm`).

**The end.**  The loop is done in the first round that rejects nothing, and only there
(`Chronicle.done_iff`).  So an evaluation that gives back what it was given, in two heaps, neither
loses nor invents a request over the whole run (`Chronicle.kept_perm`).
-/

namespace PageCrawl

namespace Pool

/-- **Two rounds that follow each other.** -/
structure HandsOver (pool : Pool) (round next : Round) : Prop where
  rejects : round.rejected ≠ []
  before_eq : next.before = round.after
  /-- What was kept comes first, as it is, and then what came back. -/
  batch_eq : next.batch = round.kept ++ round.fresh
  /-- One source came back for each rejected request, -/
  requests_perm : (round.fresh.map (·.request)).Perm round.rejected
  /-- all of them with a page, -/
  isOk : ∀ source ∈ round.fresh, source.isOk = true
  /-- one by one, in the order of time, -/
  in_order : ((reports round.trail).map (·.1)).Pairwise (· ≤ ·)
  /-- as the sources of the calls of the round, -/
  fresh_perm : round.fresh.Perm (round.calls.map pool.answer)
  /-- which are calls for the rejected requests and for nothing else. -/
  crawled_perm : round.crawled.Perm round.rejected

/-- **What a run of crawling again tells of its rounds.** -/
structure Story (pool : Pool) (evaluate : Evaluation) (initial : List PageSource)
    (rounds : List Round) (r : Recrawl) : Prop where
  /-- The rounds are those of the run: their batches are the ones that were evaluated, and their
  calls, one round after the other, are its log. -/
  evaluations_eq : r.evaluations = rounds.map (·.batch)
  log_eq : r.run.calls.map Call.key = ((rounds.flatMap (·.calls)).map Beginning.key).reverse
  /-- The first batch is the initial one. -/
  head : ∀ round ∈ rounds.head?, round.batch = initial ∧
    round.before = { cancelled := pool.cancelAt == some 0 }
  /-- Each evaluation may depend on the batches before. -/
  part_eq : ∀ earlier round rest, rounds = earlier ++ round :: rest →
    round.part = evaluate (earlier.map (·.batch)).reverse round.batch
  handsOver : rounds.IsChain pool.HandsOver
  /-- No round makes a call for a request that it did not reject, or more calls than it
  rejected. -/
  crawled_subperm : ∀ round ∈ rounds, round.crawled.Subperm round.rejected
  /-- Unless the time was over, each rejected request is called or comes back as cancelled, -/
  crawled_perm : r.ending ≠ .timedOut → ∀ round ∈ rounds,
    (round.crawled ++ round.refused).Perm round.rejected
  /-- and only a cancelled pool gives back anything as cancelled. -/
  refused_nil : r.run.cancelled = false → ∀ round ∈ rounds, round.refused = []
  /-- The loop is done exactly in the first round that rejects nothing, with what was kept. -/
  done_iff : ∀ kept, r.ending = .done kept ↔ ∃ earlier round rest,
    rounds = earlier ++ round :: rest ∧ (∀ previous ∈ earlier, previous.rejected ≠ []) ∧
      round.rejected = [] ∧ round.kept = kept

variable {pool : Pool} {evaluate : Evaluation} {limit : Option Nat} {pace : Run → Nat}
  {past : List (List PageSource)} {batch kept : List PageSource} {s : Run} {rounds : List Round}
  {r : Recrawl}

namespace Chronicle

/-- **Each round hands over to the next one.** -/
lemma handsOver (h : pool.Chronicle evaluate limit (fun _ => 0) past batch s rounds r) :
    rounds.IsChain pool.HandsOver := by
  induction h with
  | unfinished => exact List.IsChain.nil
  | done | timedOut | failed => exact List.isChain_singleton _
  | again hr hw he h ih =>
      refine List.isChain_cons.mpr ⟨fun next hnext => ?_, ih⟩
      obtain ⟨hbatch, hbefore⟩ := h.head next hnext
      have hexact := hw.exact he
      exact
        { rejects := hr
          before_eq := hbefore
          batch_eq := by rw [hbatch, hw.fresh_eq]; rfl
          requests_perm := hw.requests_perm
          isOk := hw.isOk he
          in_order := hw.path.reports_sorted
          fresh_perm := hexact.2
          crawled_perm := hexact.1 }

/-- **A round calls nothing but what it rejected.** -/
lemma crawled_subperm (h : pool.Chronicle evaluate limit pace past batch s rounds r) :
    ∀ round ∈ rounds, round.crawled.Subperm round.rejected := by
  intro round hm
  rcases h.round_cases round hm with hw | ⟨-, ht, -⟩ | ⟨-, hn, hp⟩
  · exact (List.sublist_append_left _ _).subperm.trans hw.crawled_perm.subperm
  · simp [Round.crawled, Round.calls, ht]
  · have hu := hp.uncalled_perm
    rw [hp.calls_own hn] at hu
    have hrej : (round.before.begin round.rejected).uncalled = round.rejected := by
      simp [Run.uncalled, Run.begin, Run.refused]
    rw [hrej] at hu
    exact (List.sublist_append_left _ _).subperm.trans hu.subperm

/-- **Each rejected request is called or comes back as cancelled.** -/
lemma crawled_perm (h : pool.Chronicle evaluate limit pace past batch s rounds r)
    (ht : r.ending ≠ .timedOut) :
    ∀ round ∈ rounds, (round.crawled ++ round.refused).Perm round.rejected := by
  intro round hm
  rcases h.round_cases round hm with hw | ⟨hr, htrail, -⟩ | ⟨hend, -⟩
  · exact hw.crawled_perm
  · simp [Round.crawled, Round.calls, Round.refused, Round.fresh, hr, htrail]
  · exact absurd hend ht

/-- A pool that is not cancelled gives back nothing as cancelled. -/
lemma refused_nil (h : pool.Chronicle evaluate limit pace past batch s rounds r)
    (hc : r.run.cancelled = false) : ∀ round ∈ rounds, round.refused = [] := by
  intro round hm
  have hafter := (h.uncancelled hc).2 round hm
  rcases h.round_cases round hm with hw | ⟨-, htrail, -⟩ | ⟨-, -, hp⟩
  · exact hw.refused_nil hafter
  · simp [Round.refused, Round.fresh, htrail]
  · have hr := hp.refused_eq hafter
    have he := hp.reported_eq
    simp only [Run.begin, Run.refused, List.filter_nil, List.nil_append] at hr he
    rw [Round.refused, Round.fresh, ← he, hr, List.map_nil]

/-- **The loop is done in the first round that rejects nothing, and only there.** -/
lemma done_iff (h : pool.Chronicle evaluate limit pace past batch s rounds r) :
    r.ending = .done kept ↔ ∃ earlier round rest, rounds = earlier ++ round :: rest ∧
      (∀ previous ∈ earlier, previous.rejected ≠ []) ∧ round.rejected = [] ∧
        round.kept = kept := by
  induction h with
  | unfinished => simp
  | done hr =>
      constructor
      · intro hend
        cases hend
        exact ⟨[], _, [], rfl, by simp, hr, rfl⟩
      · rintro ⟨earlier, round, rest, heq, -, -, rfl⟩
        obtain ⟨-, rfl⟩ := eq_of_split heq
        rfl
  | timedOut hr | failed hr =>
      constructor
      · intro hend
        cases hend
      · rintro ⟨earlier, round, rest, heq, -, hnone, -⟩
        obtain ⟨-, rfl⟩ := eq_of_split heq
        exact absurd hnone hr
  | again hr hw he h ih =>
      rw [ih]
      constructor
      · rintro ⟨earlier, round, rest, rfl, hall, hround⟩
        exact ⟨_ :: earlier, round, rest, rfl, List.forall_mem_cons.mpr ⟨hr, hall⟩, hround⟩
      · rintro ⟨earlier, round, rest, heq, hall, hnone, hk⟩
        cases earlier with
        | nil =>
            cases heq
            exact absurd hnone hr
        | cons first earlier =>
            cases heq
            exact ⟨earlier, round, rest, rfl, (List.forall_mem_cons.mp hall).2, hnone, hk⟩

/-- **An evaluation that gives back all requests of each batch** keeps all requests of the
first. -/
lemma kept_perm (h : pool.Chronicle evaluate limit pace past batch s rounds r)
    (hr : r.ending = .done kept)
    (hall : ∀ round ∈ rounds, (round.rejected ++ round.kept.map (·.request)).Perm
      (round.batch.map (·.request))) :
    (kept.map (·.request)).Perm (batch.map (·.request)) := by
  induction h with
  | unfinished | timedOut | failed => cases hr
  | done hrej =>
      cases hr
      have hround := List.forall_mem_singleton.mp hall
      rwa [Round.rejected, hrej, List.nil_append] at hround
  | again hne hw he h ih =>
      obtain ⟨hround, hrest⟩ := List.forall_mem_cons.mp hall
      refine (ih hr hrest).trans ?_
      have hfresh := hw.requests_perm
      rw [hw.fresh_eq] at hfresh
      rw [List.map_append]
      exact ((hfresh.append_left _).trans List.perm_append_comm).trans hround

/-- The chronicle of a run from its initial sources on tells the story of its rounds. -/
lemma story {initial : List PageSource}
    (h : pool.Chronicle evaluate limit (fun _ => 0) [] initial
      { cancelled := pool.cancelAt == some 0 } rounds r) :
    pool.Story evaluate initial rounds r where
  evaluations_eq := h.evaluations_eq
  log_eq := by simpa using h.log_eq
  head := h.head
  part_eq := fun earlier round rest heq => by simpa using h.part_eq earlier round rest heq
  handsOver := h.handsOver
  crawled_subperm := h.crawled_subperm
  crawled_perm := h.crawled_perm
  refused_nil := h.refused_nil
  done_iff := fun _ => h.done_iff

end Chronicle

/-- **Crawling again is a chain of rounds**, whatever the evaluation does.  Every run has the rounds
of a `Story`: the first batch is the initial list, each later one is what was kept in the round
before and one fresh source with a page for each request rejected there, the rejected requests are
called or, in a cancelled pool, come back as cancelled, and the loop is done in the first round that
rejects nothing.  If each evaluation of the run gives back all requests of its batch, the initial
requests are those that are kept in the end.  A run that has come to no end has gone through all the
rounds that it was allowed, and one without a limit is not cut off. -/
theorem recrawl_is_chain (pool : Pool) (evaluate : Evaluation) (limit : Option Nat) (bound : Nat)
    (initial : List PageSource) :
    ∃ rounds, pool.Story evaluate initial rounds (pool.recrawl evaluate limit bound initial) ∧
      (∀ kept, (pool.recrawl evaluate limit bound initial).ending = .done kept →
        (∀ round ∈ rounds, (round.rejected ++ round.kept.map (·.request)).Perm
          (round.batch.map (·.request))) →
        (kept.map (·.request)).Perm (initial.map (·.request))) ∧
      ((pool.recrawl evaluate limit bound initial).ending = .unfinished →
        rounds.length = bound) ∧
      (limit = none → (pool.recrawl evaluate limit bound initial).ending ≠ .timedOut) := by
  obtain ⟨rounds, h, hlength⟩ := exists_chronicle pool evaluate limit bound initial
  refine ⟨rounds, h.story, fun kept hr hall => h.kept_perm hr hall, hlength, ?_⟩
  rintro rfl
  exact recrawl_ne_timedOut pool evaluate bound initial

/-- An evaluation that remembers whether it was asked before, and rejects everything the first time:
two sources of one request, of which the later attempt comes back first. -/
theorem recrawl_is_chain_remembering :
    let pool : Pool := ⟨.new 3 0, Crawler.ofScripts
      [("a", [{ duration := 5, ending := .page "A" }, { duration := 1, ending := .page "B" }])],
      none⟩
    let evaluate : Evaluation := fun past batch =>
      if past = [] then ⟨batch.map (·.request), []⟩ else ⟨[], batch⟩
    let initial : List PageSource := [⟨"a", .failed "lost"⟩, ⟨"b", .page "b"⟩, ⟨"a", .page "A"⟩]
    let kept : List PageSource := [⟨"b", .page "b"⟩, ⟨"a", .page "B"⟩, ⟨"a", .page "A"⟩]
    (pool.recrawl evaluate none 3 initial).ending = .done kept ∧
      (∃ rounds, pool.Story evaluate initial rounds (pool.recrawl evaluate none 3 initial) ∧
        ∀ round ∈ rounds, (round.rejected ++ round.kept.map (·.request)).Perm
          (round.batch.map (·.request))) ∧
      (kept.map (·.request)).Perm (initial.map (·.request)) := by
  intro pool evaluate initial kept
  have hend : (pool.recrawl evaluate none 3 initial).ending = .done kept := by
    decide +kernel
  obtain ⟨rounds, hstory, hkept, -⟩ := recrawl_is_chain pool evaluate none 3 initial
  have hall : ∀ round ∈ rounds, (round.rejected ++ round.kept.map (·.request)).Perm
      (round.batch.map (·.request)) := by
    intro round hm
    obtain ⟨earlier, rest, heq⟩ := List.append_of_mem hm
    rw [Round.rejected, Round.kept, hstory.part_eq earlier round rest heq]
    simp only [evaluate]
    split_ifs <;> simp
  exact ⟨hend, ⟨rounds, hstory, hall⟩, hkept kept hend hall⟩

/-- **Not every rejected request is crawled**: the pool is cancelled while its only worker makes the
first of three calls, and the other two requests are called in no round. -/
theorem cancelled_round_leaves_requests :
    let pool : Pool := ⟨.new 1 0, Crawler.ofScripts
      [("a", [{ duration := 10, ending := .page "full" }]), ("b", [{ ending := .page "full" }]),
       ("c", [{ ending := .page "full" }])], some 5⟩
    let evaluate := Evaluation.ofTest fun source => source.page? == some "full"
    let initial : List PageSource := [⟨"a", .page ""⟩, ⟨"b", .page ""⟩, ⟨"c", .page ""⟩]
    ¬∃ rounds, pool.Story evaluate initial rounds (pool.recrawl evaluate none 3 initial) ∧
      ∀ round ∈ rounds, round.crawled.Perm round.rejected := by
  rintro pool evaluate initial ⟨rounds, hstory, hall⟩
  have hbatches : rounds.map (·.batch) = [initial] := by
    rw [← hstory.evaluations_eq]
    decide +kernel
  obtain ⟨round, rfl, hbatch⟩ := List.map_eq_singleton_iff.mp hbatches
  have hrejected : round.rejected = ["a", "b", "c"] := by
    rw [Round.rejected, hstory.part_eq [] round [] rfl, hbatch]
    decide +kernel
  have hcalls : round.calls.length = 1 := by
    have hlog := congrArg List.length hstory.log_eq
    simp only [List.flatMap_singleton, List.length_reverse, List.length_map] at hlog
    rw [← hlog]
    decide +kernel
  have hlength := (hall round (List.mem_singleton_self round)).length_eq
  rw [hrejected, Round.crawled, List.length_map, hcalls] at hlength
  cases hlength

end Pool

end PageCrawl
