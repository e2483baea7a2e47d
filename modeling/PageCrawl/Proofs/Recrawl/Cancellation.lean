import PageCrawl.Fetch
import PageCrawl.Proofs.Recrawl.Handover

/-!
# A cancellation ends crawling again

Nothing bounds the rounds of crawling again but the evaluation, which may reject something for ever.
A cancellation of the pool bounds them all the same.

**The round in which it comes.**  A chronicle of a pool that is cancelled in the end, but not in the
beginning, has one round into which the cancellation falls (`Chronicle.exists_stop`).  `RoundCut`
takes the path of this round apart at that point: calls are made in it for the requests that
workers took before, and for no others.

**The rounds after it.**  If a request of this round was left over, the round gives an error and is
the last one.  Otherwise the whole is evaluated once more, and this is the last time: what is
rejected now is given to a cancelled pool, which makes no call and gives an error
(`Chronicle.of_cancelled`).

**Return.**  One more round than those that led to the cancellation is bound enough
(`recrawlFrom_ends`).  So a run that never returns is never cancelled, and the time set for a
cancellation from outside never comes in it (`Chronicle.now_lt`).
-/

namespace PageCrawl

/-- Crawling again ends with the given error, under the message that is shown for it. -/
def Recrawl.FailsWith (r : Recrawl) (e : CrawlError) : Prop :=
  r.ending = .failed e ∧
    ∀ deadline, r.errorChain deadline = ["failed to crawl page sources", e.display]

lemma Recrawl.failsWith {r : Recrawl} {e : CrawlError} (h : r.ending = .failed e) :
    r.FailsWith e :=
  ⟨h, fun deadline => by rw [errorChain, h]; rfl⟩

namespace Pool

/-- **How a cancellation cuts a round**: `before` is what happens until the cancellation in the
state `u`, and `after` what happens from then on. -/
structure RoundCut (pool : Pool) (round : Round) (before after : List Transition) (u : Run) :
    Prop where
  trail_eq : round.trail = before ++ after
  path_before : pool.Path (round.before.begin round.rejected) before u
  path_after : pool.Path u after round.after
  uncancelled : ∀ st ∈ before, st.before.cancelled = false
  cancelled : u.cancelled = true
  cancelledBy : pool.CancelledBy (round.before.begin round.rejected) before u
  /-- Calls are made for what workers took before the cancellation, and for nothing else. -/
  crawled_eq : round.crawled = taken before

/-- **How crawling again stops** when a cancellation falls into `round`, which comes after the
rounds `earlier` and before the rounds `later`. -/
structure Stops (pool : Pool) (earlier : List Round) (round : Round) (later : List Round)
    (r : Recrawl) : Prop where
  /-- All evaluations up to this round come before the cancellation, -/
  earlier_uncancelled : ∀ previous ∈ earlier, previous.after.cancelled = false
  before_uncancelled : round.before.cancelled = false
  before_lt : ∀ c, pool.cancelAt = some c → round.before.now < c
  /-- which falls into its path. -/
  cut : ∃ before after u, pool.RoundCut round before after u
  /-- There is at most one more evaluation, -/
  later_length : later.length ≤ 1
  /-- and no more call. -/
  later_calls : ∀ last ∈ later, last.calls = []
  /-- Either this evaluation rejects nothing, or crawling again fails. -/
  ending : (∃ last ∈ later, last.rejected = [] ∧ r.ending = .done last.kept) ∨
    ∃ e, r.FailsWith e

variable {pool : Pool} {evaluate : Evaluation} {limit : Option Nat} {pace : Run → Nat}
  {past : List (List PageSource)} {batch : List PageSource} {s t : Run} {round : Round}
  {rounds : List Round} {requests : List String} {d : Dispatch} {r : Recrawl}

namespace Whole

/-- **A cancellation cuts the round into which it falls.** -/
lemma exists_cut (h : pool.Whole round) (hb : round.before.cancelled = false)
    (ha : round.after.cancelled = true) : ∃ before after u, pool.RoundCut round before after u := by
  obtain ⟨past, v, m, u, after, htrail, hpast, hstep, hafter, hv, hu⟩ :=
    h.path.exists_cancellation hb ha
  have hs := h.scheduled
  rw [htrail] at hs
  have hcrawled := h.path.called_eq_taken h.scheduled h.isDone
  rw [h.ownCalls_eq, htrail, Pool.taken_append, hafter.taken_cancelled hu, List.append_nil]
    at hcrawled
  exact ⟨past ++ [(⟨v, m, u⟩ : Transition)], after, u,
    { trail_eq := htrail
      path_before := hpast.append (Path.cons hstep (Path.nil u))
      path_after := hafter
      uncancelled := List.forall_mem_append.mpr
        ⟨fun st hst => ((hpast.uncancelled hv).2 st hst).1, List.forall_mem_singleton.mpr hv⟩
      cancelled := hu
      cancelledBy := hpast.cancelledBy hstep (scheduled_append.mp hs).1 hv hu
      crawled_eq := hcrawled }⟩

/-- A round that is over before the pool is cancelled is over before the time for that. -/
lemma now_lt {c : Nat} (h : pool.Whole round) (hne : round.rejected ≠ [])
    (hc : round.after.cancelled = false) (hp : pool.cancelAt = some c) : round.after.now < c := by
  refine (h.path.done_before h.scheduled hc h.isDone hp).resolve_left fun hnil => hne ?_
  have hpath := h.path
  have hdone := h.isDone
  rw [hnil] at hpath
  generalize round.after = t at hpath hdone
  cases hpath
  exact (isDone_iff.mp hdone).1

end Whole

namespace Chronicle

/-- **In a cancelled pool there is at most one round**, which makes no call: either it rejects
nothing, or it gives the error of a cancelled request. -/
lemma of_cancelled (h : pool.Chronicle evaluate limit pace past batch s rounds r)
    (hc : s.cancelled = true)
    (ht : r.ending ≠ .timedOut) (hu : r.ending ≠ .unfinished) :
    ∃ last, rounds = [last] ∧ last.batch = batch ∧ last.part = evaluate past batch ∧
      last.calls = [] ∧
      (last.rejected = [] ∧ r.ending = .done last.kept ∨
        last.rejected ≠ [] ∧ ∃ q ∈ last.rejected, r.FailsWith (.cancelled q)) := by
  cases h with
  | unfinished => exact absurd rfl hu
  | done hr => exact ⟨_, rfl, rfl, rfl, rfl, .inl ⟨hr, rfl⟩⟩
  | timedOut => exact absurd rfl ht
  | failed hr hw he =>
      obtain ⟨hcalls, herror⟩ := hw.of_cancelled hc
      obtain ⟨q, hq, hcancelled⟩ := herror hr
      obtain rfl := Option.some.inj (he.symm.trans hcancelled)
      exact ⟨_, rfl, rfl, rfl, hcalls, .inr ⟨hr, q, hq, Recrawl.failsWith rfl⟩⟩
  | again hr hw he h =>
      obtain ⟨q, -, hcancelled⟩ := (hw.of_cancelled hc).2 hr
      cases he.symm.trans hcancelled

/-- **A chronicle that is cancelled on the way has a round into which the cancellation falls**, and
stops soon after it. -/
lemma exists_stop (h : pool.Chronicle evaluate limit (fun _ => 0) past batch s rounds r)
    (hs : s.cancelled = false)
    (hlt : ∀ c, pool.cancelAt = some c → s.now < c) (hc : r.run.cancelled = true)
    (ht : r.ending ≠ .timedOut) (hu : r.ending ≠ .unfinished) :
    ∃ earlier round later, rounds = earlier ++ round :: later ∧
      pool.Stops earlier round later r := by
  induction h with
  | unfinished => exact absurd rfl hu
  | done hr =>
      rw [hs] at hc
      cases hc
  | timedOut => exact absurd rfl ht
  | failed hr hw he =>
      exact ⟨[], _, [], rfl,
        { earlier_uncancelled := by simp
          before_uncancelled := hs
          before_lt := by simpa using hlt
          cut := hw.exists_cut hs hc
          later_length := Nat.zero_le 1
          later_calls := by simp
          ending := .inr ⟨_, Recrawl.failsWith rfl⟩ }⟩
  | @again past batch s t trail rest r hr hw he h ih =>
      cases hct : t.cancelled with
      | true =>
          -- all requests of this round were taken in time, so another evaluation follows
          obtain ⟨last, rfl, -, -, hcalls, hend⟩ := h.of_cancelled hct ht hu
          refine ⟨[], _, [last], rfl,
            { earlier_uncancelled := by simp
              before_uncancelled := hs
              before_lt := by simpa using hlt
              cut := hw.exists_cut hs hct
              later_length := le_rfl
              later_calls := List.forall_mem_singleton.mpr hcalls
              ending := ?_ }⟩
          rcases hend with ⟨hnone, hend⟩ | ⟨-, q, -, hend⟩
          · exact .inl ⟨last, List.mem_singleton_self last, hnone, hend⟩
          · exact .inr ⟨_, hend⟩
      | false =>
          obtain ⟨earlier, round, later, rfl, hstop⟩ :=
            ih hct (fun c hp => hw.now_lt hr hct hp) hc ht hu
          exact ⟨_ :: earlier, round, later, rfl,
            { hstop with
              earlier_uncancelled := List.forall_mem_cons.mpr ⟨hct, hstop.earlier_uncancelled⟩ }⟩

/-- **As long as it goes on and is not cancelled**, the time for that has not come. -/
lemma now_lt {c : Nat} (h : pool.Chronicle evaluate limit pace past batch s rounds r)
    (hu : r.ending = .unfinished) (hc : r.run.cancelled = false) (hp : pool.cancelAt = some c)
    (hlt : s.now < c) : r.run.now < c := by
  induction h with
  | unfinished => exact hlt
  | done | timedOut | failed => cases hu
  | again hr hw he h ih => exact ih hu hc (hw.now_lt hr (h.uncancelled hc).1 hp)

end Chronicle

/-! ## Return -/

/-- A cancelled pool gives the error of a cancelled request. -/
lemma dispatch_cancelled (h : pool.dispatch limit requests s = (t, some d))
    (hn : s.strays = []) (hc : s.cancelled = true) (hne : requests ≠ []) :
    ∃ q ∈ requests, d.error = some (.cancelled q) := by
  obtain ⟨⟨trail, hp, hs⟩, hdone, rfl⟩ := dispatch_eq_some h
  have hw : pool.Whole ⟨[], ⟨requests, []⟩, s, trail, t⟩ := ⟨hp, hs, hdone, hn⟩
  exact (hw.of_cancelled hc).2 hne

/-- **Crawling again ends when the pool is cancelled**: one round more than led there is bound
enough, and the pool is still cancelled after it. -/
lemma recrawlFrom_ends (pool : Pool) (evaluate : Evaluation) (limit : Option Nat)
    (pace : Run → Nat) :
    ∀ (n : Nat) {past : List (List PageSource)} {batch : List PageSource} {s : Run},
      s.strays = [] → (pool.recrawlFrom evaluate limit n past batch s pace).run.cancelled = true →
        (pool.recrawlFrom evaluate limit (n + 1) past batch s pace).ending ≠ .unfinished ∧
          (pool.recrawlFrom evaluate limit (n + 1) past batch s pace).run.cancelled = true
  | 0, past, batch, s, hn, hc => by
      obtain ⟨rounds, h, -⟩ := chronicle_recrawlFrom pool evaluate limit pace 1 past batch hn
      refine ⟨?_, h.cancelled_mono.1 hc⟩
      obtain ⟨r, hend, -, heq⟩ | ⟨t, d, hr, hd, he, -⟩ :=
        recrawlFrom_succ pool evaluate limit pace past batch s
      · rw [heq]
        exact hend
      · -- the pool is cancelled already, and gives an error for whatever is rejected
        obtain ⟨q, -, hcancelled⟩ := dispatch_cancelled hd hn hc hr
        cases he.symm.trans hcancelled
  | n + 1, past, batch, s, hn, hc => by
      obtain ⟨r, hend, -, heq⟩ | ⟨t, d, -, hd, -, heq⟩ :=
        recrawlFrom_succ pool evaluate limit pace past batch s
      · rw [heq] at hc ⊢
        exact ⟨hend, hc⟩
      · rw [heq] at hc ⊢
        obtain ⟨⟨trail, hp, -⟩, -⟩ := dispatch_eq_some hd
        exact recrawlFrom_ends pool evaluate limit pace n (hp.strays_nil hn) hc

variable {bound : Nat} {initial : List PageSource}

/-- **Crawling again returns when the pool is cancelled**: from the next bound on, all runs are
the same one, and it has an end. -/
lemma recrawl_returns (hc : (pool.recrawl evaluate none bound initial).run.cancelled = true) :
    (pool.recrawl evaluate none (bound + 1) initial).ending ≠ .unfinished ∧
      (pool.recrawl evaluate none (bound + 1) initial).run.cancelled = true ∧
      ∀ bound', bound < bound' → pool.recrawl evaluate none bound' initial
        = pool.recrawl evaluate none (bound + 1) initial := by
  obtain ⟨hend, hcancelled⟩ := recrawlFrom_ends pool evaluate none _ bound rfl hc
  exact ⟨hend, hcancelled, fun bound' hb => recrawlFrom_of_le pool evaluate none hend hb⟩

/-- **A pool that is cancelled before the first evaluation** is evaluated once and crawls
nothing. -/
lemma recrawl_cancelled_before (hc : pool.cancelAt = some 0) (hb : 0 < bound) :
    (pool.recrawl evaluate none bound initial).evaluations = [initial] ∧
      (pool.recrawl evaluate none bound initial).run.calls = [] ∧
      ((evaluate [] initial).recrawl = [] ∧ (pool.recrawl evaluate none bound initial).ending
            = .done (evaluate [] initial).kept ∨
        (evaluate [] initial).recrawl ≠ [] ∧ ∃ q ∈ (evaluate [] initial).recrawl,
          (pool.recrawl evaluate none bound initial).FailsWith (.cancelled q)) := by
  have hstart : (pool.recrawl evaluate none 0 initial).run.cancelled = true := by
    simp [recrawl, recrawlFrom, hc]
  obtain ⟨hu, -, hsame⟩ := recrawl_returns hstart
  rw [hsame bound hb]
  obtain ⟨rounds, h, -⟩ := exists_chronicle pool evaluate none 1 initial
  obtain ⟨last, rfl, rfl, hpart, hcalls, hend⟩ :=
    h.of_cancelled hstart (recrawl_ne_timedOut pool evaluate 1 initial) hu
  refine ⟨h.evaluations_eq, ?_, ?_⟩
  · have hlog := h.log_eq
    simpa [hcalls] using hlog
  · simpa only [Round.rejected, Round.kept, hpart] using hend

/-- **A cancellation ends crawling again**, however long the evaluation would go on.

If the pool is cancelled before the first evaluation, nothing is crawled: either this evaluation
rejects nothing, or crawling again fails.  If it is cancelled later, crawling again returns, and it
`Stops`: after the cancellation no call is made for a request that no worker had taken before, there
is at most one more evaluation, and either that one rejects nothing or crawling again fails.  And if
it never returns, it is never cancelled, and the time set for a cancellation from outside never
comes. -/
theorem cancellation_ends_recrawl (pool : Pool) (evaluate : Evaluation)
    (initial : List PageSource) :
    (pool.cancelAt = some 0 → ∀ bound, 0 < bound →
      (pool.recrawl evaluate none bound initial).evaluations = [initial] ∧
        (pool.recrawl evaluate none bound initial).run.calls = [] ∧
        ((evaluate [] initial).recrawl = [] ∧ (pool.recrawl evaluate none bound initial).ending
              = .done (evaluate [] initial).kept ∨
          (evaluate [] initial).recrawl ≠ [] ∧ ∃ q ∈ (evaluate [] initial).recrawl,
            (pool.recrawl evaluate none bound initial).FailsWith (.cancelled q))) ∧
    (pool.cancelAt ≠ some 0 → ∀ bound,
      (pool.recrawl evaluate none bound initial).run.cancelled = true →
        ∃ r earlier round later,
          (∀ bound', bound < bound' → pool.recrawl evaluate none bound' initial = r) ∧
            pool.Story evaluate initial (earlier ++ round :: later) r ∧
            pool.Stops earlier round later r) ∧
    ((∃ bound, (pool.recrawl evaluate none bound initial).ending ≠ .unfinished) ∨
      ∀ bound, (pool.recrawl evaluate none bound initial).run.cancelled = false ∧
        ∀ c, pool.cancelAt = some c → (pool.recrawl evaluate none bound initial).run.now < c) := by
  refine ⟨fun hc bound hb => recrawl_cancelled_before hc hb, fun h0 bound hc => ?_, ?_⟩
  · obtain ⟨hu, hcancelled, hsame⟩ := recrawl_returns hc
    obtain ⟨rounds, h, -⟩ := exists_chronicle pool evaluate none (bound + 1) initial
    have hstart : ∀ c, pool.cancelAt = some c → 0 < c := fun c hp =>
      Nat.pos_of_ne_zero fun hc0 => h0 (hc0 ▸ hp)
    obtain ⟨earlier, round, later, rfl, hstop⟩ :=
      h.exists_stop (by simpa using h0) hstart hcancelled
        (recrawl_ne_timedOut pool evaluate (bound + 1) initial) hu
    exact ⟨_, earlier, round, later, hsame, h.story, hstop⟩
  · by_cases hend : ∃ bound, (pool.recrawl evaluate none bound initial).ending ≠ .unfinished
    · exact .inl hend
    · rw [not_exists] at hend
      have hc : ∀ bound, (pool.recrawl evaluate none bound initial).run.cancelled = false := by
        intro bound
        by_contra hne
        exact hend (bound + 1) (recrawl_returns (by simpa using hne)).1
      refine .inr fun bound => ⟨hc bound, fun c hp => ?_⟩
      obtain ⟨rounds, h, -⟩ := exists_chronicle pool evaluate none bound initial
      refine h.now_lt (not_not.mp (hend bound)) (hc bound) hp (Nat.pos_of_ne_zero fun hc0 => ?_)
      have hzero := hc 0
      simp [recrawl, recrawlFrom, hp, hc0] at hzero

/-- An evaluation that rejects everything for ever: in a pool that is cancelled from the beginning
nothing is crawled; in one that is cancelled in the second round, when all of its requests are
taken, these are crawled and everything is evaluated once more. -/
theorem cancellation_ends_recrawl_endless :
    let crawler := Crawler.ofScripts
      [("a", [{ duration := 4, ending := .page "A" }]),
       ("b", [{ duration := 1, ending := .page "B" }])]
    let evaluate : Evaluation := fun _ batch => ⟨batch.map (·.request), []⟩
    let initial : List PageSource := [⟨"a", .failed "lost"⟩, ⟨"b", .page "B"⟩, ⟨"c", .page "C"⟩]
    let early : Pool := ⟨.new 3 0, crawler, some 0⟩
    let late : Pool := ⟨.new 3 0, crawler, some 7⟩
    ((early.recrawl evaluate none 1 initial).evaluations = [initial] ∧
      (early.recrawl evaluate none 1 initial).run.calls = [] ∧
      ∃ q, (early.recrawl evaluate none 1 initial).FailsWith (.cancelled q)) ∧
    (late.recrawl evaluate none 2 initial).run.cancelled = true ∧
    ∃ earlier round later, late.Story evaluate initial (earlier ++ round :: later)
        (late.recrawl evaluate none 3 initial) ∧
      late.Stops earlier round later (late.recrawl evaluate none 3 initial) ∧
      (late.recrawl evaluate none 3 initial).run.called = ["a", "b", "c", "c", "b", "a"] ∧
      (late.recrawl evaluate none 3 initial).evaluations.length = 3 := by
  intro crawler evaluate initial early late
  have hcancelled : (late.recrawl evaluate none 2 initial).run.cancelled = true := by
    decide +kernel
  obtain ⟨hevaluations, hcalls, hend⟩ :=
    (cancellation_ends_recrawl early evaluate initial).1 rfl 1 Nat.one_pos
  have hfails : ∃ q, (early.recrawl evaluate none 1 initial).FailsWith (.cancelled q) := by
    rcases hend with ⟨hnone, -⟩ | ⟨-, q, -, hq⟩
    · cases hnone
    · exact ⟨q, hq⟩
  obtain ⟨r, earlier, round, later, hsame, hstory, hstops⟩ :=
    (cancellation_ends_recrawl late evaluate initial).2.1 (by decide) 2 hcancelled
  obtain rfl := hsame 3 (by decide)
  refine ⟨⟨hevaluations, hcalls, hfails⟩, hcancelled, earlier, round, later, hstory, hstops, ?_, ?_⟩
  · decide +kernel
  · decide +kernel

end Pool

end PageCrawl
