import PageCrawl.Proofs.Pool.Cancellation
import PageCrawl.Proofs.Recrawl.Rounds

/-!
# The chronicle of crawling again

`Pool.recrawl` shows the batches that were evaluated and the log of all calls, but not which calls
belong to which round.  A `Round` keeps what belongs together: the batch, what the evaluation says
of it, and the path on which the rejected requests are crawled.  `Pool.Chronicle` is the run of the
loop with all its rounds retained, and `exists_chronicle` says that every run has one, whatever the
evaluation does.

**One round.**  A round is `Whole` when its requests are crawled to the end of the batch.  Then
each rejected request is called or reported as cancelled (`Whole.crawled_perm`), each source that
is not cancelled is that of a call of the round (`Whole.fresh_perm`), and without an error every
request is called and every source has a page (`Whole.exact`).  In a cancelled pool no call is made
at all (`Whole.of_cancelled`).

**Many rounds.**  The batches of a chronicle are those that were evaluated
(`Chronicle.evaluations_eq`), its calls are the log (`Chronicle.log_eq`), and each round begins in
the state in which the one before it ended, as soon as the evaluation is done.
-/

namespace PageCrawl

namespace Pool

/-! ## One round -/

/-- **One round of crawling again.** -/
structure Round where
  /-- The batch that is evaluated, -/
  batch : List PageSource
  /-- what the evaluation says of it, -/
  part : Partition
  /-- the state of the pool at that time, -/
  before : Run
  /-- what happens while the rejected requests are crawled, -/
  trail : List Transition
  /-- and the state after that. -/
  after : Run

namespace Round

/-- The requests to crawl again. -/
def rejected (round : Round) : List String := round.part.recrawl

/-- The sources to keep. -/
def kept (round : Round) : List PageSource := round.part.kept

/-- The calls made in the round, in the order in which they began. -/
def calls (round : Round) : List Beginning := Pool.calls round.trail

/-- The requests of these calls. -/
def crawled (round : Round) : List String := round.calls.map (·.request)

/-- The sources that came back, in the order in which they did. -/
def fresh (round : Round) : List PageSource := (reports round.trail).map (·.2)

/-- The requests that came back as cancelled. -/
def refused (round : Round) : List String :=
  (round.fresh.filter (·.isCancelled)).map (·.request)

end Round

/-- **The rejected requests are crawled to the end of their batch.** -/
structure Whole (pool : Pool) (round : Round) : Prop where
  path : pool.Path (round.before.begin round.rejected) round.trail round.after
  scheduled : pool.Scheduled round.trail
  isDone : round.after.isDone = true
  strays_nil : round.before.strays = []

variable {pool : Pool} {s t v : Run} {trail : List Transition} {requests : List String}
  {round : Round} {limit : Option Nat}

namespace Whole

lemma fresh_eq (h : pool.Whole round) : round.fresh = round.after.reported := by
  rw [h.path.reported_eq]
  rfl

lemma error_eq (h : pool.Whole round) : round.after.error = lastError round.fresh := by
  rw [h.fresh_eq]
  exact h.path.error_eq

/-- One source comes back for each rejected request. -/
lemma requests_perm (h : pool.Whole round) :
    (round.fresh.map (·.request)).Perm round.rejected := by
  rw [h.fresh_eq]
  exact h.path.reported_perm h.isDone

lemma ownCalls_eq (h : pool.Whole round) : ownCalls round.trail = round.calls :=
  h.path.calls_own h.strays_nil

/-- **Each rejected request is called or comes back as cancelled**, and not both. -/
lemma crawled_perm (h : pool.Whole round) :
    (round.crawled ++ round.refused).Perm round.rejected := by
  have hp := h.path.requests_perm h.isDone
  rwa [h.ownCalls_eq, ← h.fresh_eq] at hp

/-- **What came back and is not cancelled are the sources of the calls.** -/
lemma fresh_perm (h : pool.Whole round) :
    (round.fresh.filter (!·.isCancelled)).Perm (round.calls.map pool.answer) := by
  have hp := h.path.answers_perm h.isDone
  rwa [h.ownCalls_eq, ← h.fresh_eq] at hp

lemma isOk (h : pool.Whole round) (he : round.after.error = none) :
    ∀ source ∈ round.fresh, source.isOk = true :=
  lastError_eq_none.mp (h.error_eq.symm.trans he)

/-- **Without an error every rejected request is called**, and each call gives one of the
sources. -/
lemma exact (h : pool.Whole round) (he : round.after.error = none) :
    round.crawled.Perm round.rejected ∧ round.fresh.Perm (round.calls.map pool.answer) := by
  have hall := filter_isCancelled_of_isOk (h.isOk he)
  have hnone : round.refused = [] := by
    rw [Round.refused, PageSource.filter_isCancelled_eq_nil.mpr hall, List.map_nil]
  refine ⟨?_, hall ▸ h.fresh_perm⟩
  simpa [hnone] using h.crawled_perm

/-- Nothing comes back as cancelled from a pool that is not. -/
lemma refused_nil (h : pool.Whole round) (hc : round.after.cancelled = false) :
    round.refused = [] := by
  rw [Round.refused, h.fresh_eq, List.map_eq_nil_iff]
  exact h.path.refused_eq hc

/-- **In a cancelled pool no call is made**, and a batch that is not empty gives the error of a
cancelled request. -/
lemma of_cancelled (h : pool.Whole round) (hc : round.before.cancelled = true) :
    round.calls = [] ∧
      (round.rejected ≠ [] → ∃ q ∈ round.rejected, round.after.error = some (.cancelled q)) := by
  have hcalls : round.calls = [] := by
    have hcalled := h.path.called_eq_taken h.scheduled h.isDone
    rwa [h.path.taken_cancelled hc, h.ownCalls_eq, List.map_eq_nil_iff] at hcalled
  refine ⟨hcalls, fun hne => ?_⟩
  have hall : ∀ source ∈ round.fresh, source.isCancelled = true := by
    have hp := h.fresh_perm
    rw [hcalls, List.map_nil, List.perm_nil, List.filter_eq_nil_iff] at hp
    simpa using hp
  rw [h.error_eq]
  cases he : lastError round.fresh with
  | none =>
      -- a source without an error is not cancelled, so there would be none at all
      exfalso
      have hnil := filter_isCancelled_of_isOk (lastError_eq_none.mp he)
      have hp := h.fresh_perm
      rw [hnil, hcalls, List.map_nil, List.perm_nil] at hp
      have hr := h.requests_perm
      rw [hp, List.map_nil, List.nil_perm] at hr
      exact hne hr
  | some e =>
      obtain ⟨source, hm, hs⟩ := List.exists_of_findSome?_eq_some he
      rw [List.mem_reverse] at hm
      rw [PageSource.eq_of_isCancelled (hall source hm)] at hs
      refine ⟨source.request, h.requests_perm.subset (List.mem_map_of_mem hm), ?_⟩
      rw [← hs]
      rfl

end Whole

/-! ## Many rounds -/

/-- **A run of the loop with all its rounds retained**, from a batch that is to be evaluated on. -/
inductive Chronicle (pool : Pool) (evaluate : Evaluation) (limit : Option Nat) (pace : Run → Nat) :
    List (List PageSource) → List PageSource → Run → List Round → Recrawl → Prop
  | unfinished (past : List (List PageSource)) (batch : List PageSource) (s : Run) :
      Chronicle pool evaluate limit pace past batch s [] ⟨.unfinished, past.reverse, s⟩
  /-- Nothing is rejected. -/
  | done {past : List (List PageSource)} {batch : List PageSource} {s : Run}
      (hr : (evaluate past batch).recrawl = []) :
      Chronicle pool evaluate limit pace past batch s [⟨batch, evaluate past batch, s, [], s⟩]
        ⟨.done (evaluate past batch).kept, (batch :: past).reverse, s⟩
  /-- The last round is dropped in the middle of its path. -/
  | timedOut {past : List (List PageSource)} {batch : List PageSource} {s v : Run}
      {trail : List Transition} (hr : (evaluate past batch).recrawl ≠ [])
      (hp : pool.Path ((s.pass limit (pace s)).begin (evaluate past batch).recrawl) trail v)
      (hn : s.strays = []) :
      Chronicle pool evaluate limit pace past batch s
        [⟨batch, evaluate past batch, s.pass limit (pace s), trail, v⟩]
        ⟨.timedOut, (batch :: past).reverse, v.drop⟩
  | failed {past : List (List PageSource)} {batch : List PageSource} {s t : Run}
      {trail : List Transition} {e : CrawlError} (hr : (evaluate past batch).recrawl ≠ [])
      (hw : pool.Whole ⟨batch, evaluate past batch, s.pass limit (pace s), trail, t⟩)
      (he : t.error = some e) :
      Chronicle pool evaluate limit pace past batch s
        [⟨batch, evaluate past batch, s.pass limit (pace s), trail, t⟩]
        ⟨.failed e, (batch :: past).reverse, t⟩
  /-- The whole is evaluated again. -/
  | again {past : List (List PageSource)} {batch : List PageSource} {s t : Run}
      {trail : List Transition} {rest : List Round} {r : Recrawl}
      (hr : (evaluate past batch).recrawl ≠ [])
      (hw : pool.Whole ⟨batch, evaluate past batch, s.pass limit (pace s), trail, t⟩)
      (he : t.error = none)
      (h : Chronicle pool evaluate limit pace (batch :: past)
        ((evaluate past batch).kept ++ t.reported) t rest r) :
      Chronicle pool evaluate limit pace past batch s
        (⟨batch, evaluate past batch, s.pass limit (pace s), trail, t⟩ :: rest) r

variable {evaluate : Evaluation} {pace : Run → Nat} {past : List (List PageSource)}
  {batch : List PageSource} {rounds : List Round} {r : Recrawl}

/-- **Every run of the loop has a chronicle.** -/
lemma Course.exists_chronicle (h : pool.Course evaluate limit pace past batch s r)
    (hn : s.strays = []) : ∃ rounds, pool.Chronicle evaluate limit pace past batch s rounds r := by
  induction h with
  | unfinished past batch s => exact ⟨[], Chronicle.unfinished past batch s⟩
  | done hr => exact ⟨_, Chronicle.done hr⟩
  | timedOut hr hd =>
      obtain ⟨trail, v, hp, rfl⟩ := dispatch_eq_none hd
      exact ⟨_, Chronicle.timedOut hr hp hn⟩
  | failed hr hd he =>
      obtain ⟨⟨trail, hp, hs⟩, hdone, rfl⟩ := dispatch_eq_some hd
      exact ⟨_, Chronicle.failed hr ⟨hp, hs, hdone, hn⟩ he⟩
  | again hr hd he h ih =>
      obtain ⟨⟨trail, hp, hs⟩, hdone, rfl⟩ := dispatch_eq_some hd
      obtain ⟨rest, hrest⟩ := ih (hp.strays_nil hn)
      exact ⟨_, Chronicle.again hr ⟨hp, hs, hdone, hn⟩ he hrest⟩

/-- **A run that has not come to its end has gone through as many rounds as it was allowed.** -/
lemma chronicle_recrawlFrom (pool : Pool) (evaluate : Evaluation) (limit : Option Nat)
    (pace : Run → Nat) : ∀ (n : Nat) (past : List (List PageSource)) (batch : List PageSource)
    {s : Run}, s.strays = [] → ∃ rounds,
      pool.Chronicle evaluate limit pace past batch s rounds
        (pool.recrawlFrom evaluate limit n past batch s pace) ∧
      ((pool.recrawlFrom evaluate limit n past batch s pace).ending = .unfinished →
        rounds.length = n)
  | 0, past, batch, s, _ => ⟨[], Chronicle.unfinished past batch s, fun _ => rfl⟩
  | n + 1, past, batch, s, hn => by
      obtain ⟨r, hend, hcourse, heq⟩ | ⟨t, d, hr, hd, he, heq⟩ :=
        recrawlFrom_succ pool evaluate limit pace past batch s
      · rw [heq]
        obtain ⟨rounds, h⟩ := hcourse.exists_chronicle hn
        exact ⟨rounds, h, fun hu => absurd hu hend⟩
      · rw [heq]
        obtain ⟨⟨trail, hp, hs⟩, hdone, rfl⟩ := dispatch_eq_some hd
        obtain ⟨rest, hrest, hlength⟩ := chronicle_recrawlFrom pool evaluate limit pace n
          (batch :: past) ((evaluate past batch).kept ++ t.reported) (hp.strays_nil hn)
        exact ⟨_, Chronicle.again hr ⟨hp, hs, hdone, hn⟩ he hrest, fun hu => by
          rw [List.length_cons, hlength hu]⟩

/-- The chronicle of a run from its initial sources on. -/
lemma exists_chronicle (pool : Pool) (evaluate : Evaluation) (limit : Option Nat) (bound : Nat)
    (initial : List PageSource) :
    ∃ rounds, pool.Chronicle evaluate limit (fun _ => 0) [] initial
        { cancelled := pool.cancelAt == some 0 } rounds
        (pool.recrawl evaluate limit bound initial) ∧
      ((pool.recrawl evaluate limit bound initial).ending = .unfinished →
        rounds.length = bound) :=
  chronicle_recrawlFrom pool evaluate limit _ bound [] initial rfl

namespace Chronicle

/-- **The batches of the rounds are those that were evaluated.** -/
lemma evaluations_eq (h : pool.Chronicle evaluate limit pace past batch s rounds r) :
    r.evaluations = past.reverse ++ rounds.map (·.batch) := by
  induction h with
  | again hr hw he h ih => simp [ih]
  | _ => simp

/-- **The calls of the rounds are what the log grows by.** -/
lemma log_eq (h : pool.Chronicle evaluate limit pace past batch s rounds r) :
    r.run.calls.map Call.key
      = ((rounds.flatMap (·.calls)).map Beginning.key).reverse ++ s.calls.map Call.key := by
  induction h with
  | unfinished => rfl
  | done => rfl
  | timedOut hr hp => simpa [Round.calls, Run.begin, Run.drop, Run.pass] using hp.log_eq
  | failed hr hw he => simpa [Round.calls, Run.begin, Run.pass] using hw.path.log_eq
  | again hr hw he h ih =>
      rw [ih, hw.path.log_eq, List.flatMap_cons, List.map_append, List.reverse_append,
        List.append_assoc]
      rfl

/-- A round begins where the one before it ended, if its evaluation takes no time. -/
lemma head (h : pool.Chronicle evaluate limit (fun _ => 0) past batch s rounds r) :
    ∀ round ∈ rounds.head?, round.batch = batch ∧ round.before = s := by
  cases h <;> simp

/-- A list of one round can be split nowhere but at this round. -/
lemma eq_of_split {only : Round} {earlier rest : List Round}
    (h : [only] = earlier ++ round :: rest) : earlier = [] ∧ only = round := by
  cases earlier with
  | nil => exact ⟨rfl, (List.cons.inj h).1⟩
  | cons first earlier => simp at h

/-- **Each evaluation knows the batches before.** -/
lemma part_eq (h : pool.Chronicle evaluate limit pace past batch s rounds r) :
    ∀ earlier round rest, rounds = earlier ++ round :: rest →
      round.part = evaluate ((earlier.map (·.batch)).reverse ++ past) round.batch := by
  induction h with
  | unfinished => simp
  | done hr | timedOut hr | failed hr =>
      intro earlier round rest heq
      obtain ⟨rfl, rfl⟩ := eq_of_split heq
      rfl
  | again hr hw he h ih =>
      intro earlier round rest heq
      cases earlier with
      | nil =>
          cases heq
          rfl
      | cons first earlier =>
          cases heq
          simpa using ih earlier round rest rfl

/-- **What a round of a chronicle is like**: it is whole, or it rejects nothing, or it is the one
in which the time was over. -/
lemma round_cases (h : pool.Chronicle evaluate limit pace past batch s rounds r) :
    ∀ round ∈ rounds, pool.Whole round ∨
      (round.rejected = [] ∧ round.trail = [] ∧ round.after = round.before) ∨
      (r.ending = .timedOut ∧ round.before.strays = [] ∧
        pool.Path (round.before.begin round.rejected) round.trail round.after) := by
  induction h with
  | unfinished => simp
  | done hr => exact List.forall_mem_singleton.mpr (.inr (.inl ⟨hr, rfl, rfl⟩))
  | timedOut hr hp hn => exact List.forall_mem_singleton.mpr (.inr (.inr ⟨rfl, hn, hp⟩))
  | failed hr hw he => exact List.forall_mem_singleton.mpr (.inl hw)
  | again hr hw he h ih => exact List.forall_mem_cons.mpr ⟨.inl hw, ih⟩

/-- **A pool that is cancelled at some time is cancelled at the end.** -/
lemma cancelled_mono (h : pool.Chronicle evaluate limit pace past batch s rounds r) :
    (s.cancelled = true → r.run.cancelled = true) ∧
      ∀ round ∈ rounds, round.after.cancelled = true → r.run.cancelled = true := by
  induction h with
  | unfinished => exact ⟨id, by simp⟩
  | done hr => exact ⟨id, List.forall_mem_singleton.mpr id⟩
  | timedOut hr hp hn => exact ⟨fun hc => hp.cancelled_mono hc, List.forall_mem_singleton.mpr id⟩
  | failed hr hw he =>
      exact ⟨fun hc => hw.path.cancelled_mono hc, List.forall_mem_singleton.mpr id⟩
  | again hr hw he h ih =>
      exact ⟨fun hc => ih.1 (hw.path.cancelled_mono hc), List.forall_mem_cons.mpr ⟨ih.1, ih.2⟩⟩

lemma uncancelled (h : pool.Chronicle evaluate limit pace past batch s rounds r)
    (hc : r.run.cancelled = false) :
    s.cancelled = false ∧ ∀ round ∈ rounds, round.after.cancelled = false := by
  rw [Bool.eq_false_iff] at hc
  exact ⟨Bool.eq_false_iff.mpr (mt h.cancelled_mono.1 hc), fun round hm =>
    Bool.eq_false_iff.mpr (mt (h.cancelled_mono.2 round hm) hc)⟩

end Chronicle

end Pool

end PageCrawl
