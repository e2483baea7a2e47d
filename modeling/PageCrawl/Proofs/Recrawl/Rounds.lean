import PageCrawl.Proofs.Pool.Order
import PageCrawl.Recrawl

/-!
# Rounds of crawling again

`Pool.recrawlFrom` is a loop whose only bound is the number of rounds that it is given.
`Pool.Course` states what it does as a relation, with one constructor for each way in which a round
can go: nothing is rejected, the time is over, a crawl fails, or there is another round.  Facts
about crawling again are inductions over `Course`; `course_recrawlFrom` says that every run of the
loop is one.

**One round.**  A round crawls what was rejected as one batch.  If it goes on, no source of the
batch has an error (`fresh_isOk`), there is one for each rejected request (`dispatch_perm`), and
each is what one call of the crawl function gave (`dispatch_answers`).

**Time** passes between an evaluation and its dispatch as the *pace* says.  Nothing is under way
then, so that only the clock changes (`Run.pass`).

**The bound on rounds** only cuts a run off: each round is the same under every bound that allows
it (`recrawlFrom_succ`), so once a run has ended, a larger bound changes nothing
(`recrawlFrom_of_le`).
-/

namespace PageCrawl

namespace Pool

variable {pool : Pool} {limit : Option Nat} {requests : List String} {s t : Run} {d : Dispatch}

/-! ## What a round gives -/

/-- A batch without an error has a page for each of its requests. -/
lemma fresh_isOk (h : pool.dispatch limit requests s = (t, some d)) (he : d.error = none) :
    ∀ source ∈ d.results, source.isOk = true := by
  obtain ⟨⟨trail, hp, -⟩, -, rfl⟩ := dispatch_eq_some h
  exact lastError_eq_none.mp (hp.error_eq.symm.trans he)

/-- A source with a page is no cancelled one. -/
lemma filter_isCancelled_of_isOk {sources : List PageSource}
    (h : ∀ source ∈ sources, source.isOk = true) :
    sources.filter (!·.isCancelled) = sources := by
  refine List.filter_eq_self.mpr fun source hm => ?_
  by_contra hc
  have hcancelled : source.isCancelled = true := by simpa using hc
  have hok := h source hm
  rw [PageSource.eq_of_isCancelled hcancelled] at hok
  cases hok

/-- **The sources of a batch that are not cancelled are those of calls made for it**, each of
another call. -/
lemma dispatch_answers (h : pool.dispatch limit requests s = (t, some d)) :
    ∃ made, pool.answers t.called = made ++ pool.answers s.called ∧
      (d.results.filter (!·.isCancelled)).Subperm made := by
  obtain ⟨⟨trail, hp, -⟩, hd, rfl⟩ := dispatch_eq_some h
  refine ⟨((calls trail).map pool.answer).reverse, hp.answers_eq, ?_⟩
  have hown : ((ownCalls trail).map pool.answer).Sublist ((calls trail).map pool.answer) :=
    List.filter_sublist.map _
  have hall : ((ownCalls trail).map pool.answer).Subperm ((calls trail).map pool.answer).reverse :=
    hown.subperm.trans (List.reverse_perm _).symm.subperm
  exact (hp.answers_perm hd).subperm.trans hall

/-! ## The loop -/

variable {evaluate : Evaluation} {pace : Run → Nat} {past : List (List PageSource)}
  {batch : List PageSource} {u : Run} {r : Recrawl}

@[simp] lemma pass_zero (s : Run) (limit : Option Nat) : s.pass limit 0 = s := by
  cases limit <;> simp [Run.pass]

@[simp] lemma pass_none_now (s : Run) (time : Nat) : (s.pass none time).now = s.now + time := rfl

@[simp] lemma pass_called (s : Run) (limit : Option Nat) (time : Nat) :
    (s.pass limit time).called = s.called := rfl

lemma le_pass_now (s : Run) (limit : Option Nat) (time : Nat) :
    s.now ≤ (s.pass limit time).now := Nat.le_add_right _ _

/-- **What crawling again does**, from a batch that is to be evaluated on. -/
inductive Course (pool : Pool) (evaluate : Evaluation) (limit : Option Nat) (pace : Run → Nat) :
    List (List PageSource) → List PageSource → Run → Recrawl → Prop
  | unfinished (past : List (List PageSource)) (batch : List PageSource) (s : Run) :
      Course pool evaluate limit pace past batch s ⟨.unfinished, past.reverse, s⟩
  /-- Nothing is rejected. -/
  | done {past : List (List PageSource)} {batch : List PageSource} {s : Run}
      (hr : (evaluate past batch).recrawl = []) :
      Course pool evaluate limit pace past batch s
        ⟨.done (evaluate past batch).kept, (batch :: past).reverse, s⟩
  | timedOut {past : List (List PageSource)} {batch : List PageSource} {s t : Run}
      (hr : (evaluate past batch).recrawl ≠ [])
      (hd : pool.dispatch limit (evaluate past batch).recrawl (s.pass limit (pace s)) = (t, none)) :
      Course pool evaluate limit pace past batch s ⟨.timedOut, (batch :: past).reverse, t⟩
  | failed {past : List (List PageSource)} {batch : List PageSource} {s t : Run} {d : Dispatch}
      {e : CrawlError} (hr : (evaluate past batch).recrawl ≠ [])
      (hd : pool.dispatch limit (evaluate past batch).recrawl (s.pass limit (pace s))
        = (t, some d)) (he : d.error = some e) :
      Course pool evaluate limit pace past batch s ⟨.failed e, (batch :: past).reverse, t⟩
  /-- What was rejected is crawled, and the whole is evaluated again. -/
  | again {past : List (List PageSource)} {batch : List PageSource} {s t : Run} {d : Dispatch}
      {r : Recrawl} (hr : (evaluate past batch).recrawl ≠ [])
      (hd : pool.dispatch limit (evaluate past batch).recrawl (s.pass limit (pace s))
        = (t, some d)) (he : d.error = none)
      (h : Course pool evaluate limit pace (batch :: past) ((evaluate past batch).kept ++ d.results)
        t r) :
      Course pool evaluate limit pace past batch s r

lemma recrawlFrom_done (hr : (evaluate past batch).recrawl = []) (n : Nat) :
    pool.recrawlFrom evaluate limit (n + 1) past batch s pace
      = ⟨.done (evaluate past batch).kept, (batch :: past).reverse, s⟩ := by
  simp [recrawlFrom, hr]

section Equations

variable (hr : (evaluate past batch).recrawl ≠ []) (hp : s.pass limit (pace s) = u)
include hr hp

lemma recrawlFrom_timedOut (hd : pool.dispatch limit (evaluate past batch).recrawl u = (t, none))
    (n : Nat) : pool.recrawlFrom evaluate limit (n + 1) past batch s pace
      = ⟨.timedOut, (batch :: past).reverse, t⟩ := by
  simp [recrawlFrom, hr, hp, hd]

lemma recrawlFrom_failed {e : CrawlError}
    (hd : pool.dispatch limit (evaluate past batch).recrawl u = (t, some d))
    (he : d.error = some e) (n : Nat) : pool.recrawlFrom evaluate limit (n + 1) past batch s pace
      = ⟨.failed e, (batch :: past).reverse, t⟩ := by
  simp [recrawlFrom, hr, hp, hd, Dispatch.intoResult, he]

lemma recrawlFrom_again
    (hd : pool.dispatch limit (evaluate past batch).recrawl u = (t, some d))
    (he : d.error = none) (n : Nat) : pool.recrawlFrom evaluate limit (n + 1) past batch s pace
      = pool.recrawlFrom evaluate limit n (batch :: past)
          ((evaluate past batch).kept ++ d.results) t pace := by
  simp [recrawlFrom, hr, hp, hd, Dispatch.intoResult, he]

end Equations

/-- **One round of the loop**, the same under every bound that allows it: either it is the last
one, or what came back is evaluated together with what was kept. -/
lemma recrawlFrom_succ (pool : Pool) (evaluate : Evaluation) (limit : Option Nat)
    (pace : Run → Nat) (past : List (List PageSource)) (batch : List PageSource) (s : Run) :
    (∃ r, r.ending ≠ .unfinished ∧ pool.Course evaluate limit pace past batch s r ∧
        ∀ n, pool.recrawlFrom evaluate limit (n + 1) past batch s pace = r) ∨
      ∃ t d, (evaluate past batch).recrawl ≠ [] ∧
        pool.dispatch limit (evaluate past batch).recrawl (s.pass limit (pace s)) = (t, some d) ∧
        d.error = none ∧
        ∀ n, pool.recrawlFrom evaluate limit (n + 1) past batch s pace
          = pool.recrawlFrom evaluate limit n (batch :: past)
              ((evaluate past batch).kept ++ d.results) t pace := by
  by_cases hr : (evaluate past batch).recrawl = []
  · exact .inl ⟨_, by simp, Course.done hr, recrawlFrom_done hr⟩
  · rcases hd : pool.dispatch limit (evaluate past batch).recrawl (s.pass limit (pace s))
      with ⟨t, _ | d⟩
    · exact .inl ⟨_, by simp, Course.timedOut hr hd, recrawlFrom_timedOut hr rfl hd⟩
    · cases he : d.error with
      | some e => exact .inl ⟨_, by simp, Course.failed hr hd he, recrawlFrom_failed hr rfl hd he⟩
      | none => exact .inr ⟨t, d, hr, rfl, he, recrawlFrom_again hr rfl hd he⟩

/-- **Every run of the loop is a course.** -/
lemma course_recrawlFrom (pool : Pool) (evaluate : Evaluation) (limit : Option Nat)
    (pace : Run → Nat) :
    ∀ (n : Nat) (past : List (List PageSource)) (batch : List PageSource) (s : Run),
      pool.Course evaluate limit pace past batch s
        (pool.recrawlFrom evaluate limit n past batch s pace)
  | 0, past, batch, s => Course.unfinished past batch s
  | n + 1, past, batch, s => by
      obtain ⟨r, -, hcourse, heq⟩ | ⟨t, d, hr, hd, he, heq⟩ :=
        recrawlFrom_succ pool evaluate limit pace past batch s
      · rw [heq]
        exact hcourse
      · rw [heq]
        exact Course.again hr hd he (course_recrawlFrom pool evaluate limit pace n _ _ t)

/-- Without a limit the time is never over. -/
lemma Course.ne_timedOut (h : pool.Course evaluate none pace past batch s r) :
    r.ending ≠ .timedOut := by
  induction h with
  | @timedOut past batch s t hr hd =>
      obtain ⟨t', -, ht⟩ := dispatch_none pool (s.pass none (pace s)) (evaluate past batch).recrawl
      rw [hd] at ht
      cases ht
  | again hr hd he h ih => exact ih
  | _ => simp

lemma recrawl_ne_timedOut (pool : Pool) (evaluate : Evaluation) (bound : Nat)
    (initial : List PageSource) : (pool.recrawl evaluate none bound initial).ending ≠ .timedOut :=
  (course_recrawlFrom pool evaluate none _ bound [] initial _).ne_timedOut

/-- **The bound on rounds is only a bound**: crawling again that ended before it was reached goes
the same way under every larger one. -/
lemma recrawlFrom_of_le (pool : Pool) (evaluate : Evaluation) (limit : Option Nat)
    {pace : Run → Nat} {m : Nat} :
    ∀ {n : Nat} {past : List (List PageSource)} {batch : List PageSource} {s : Run},
      (pool.recrawlFrom evaluate limit n past batch s pace).ending ≠ .unfinished → n ≤ m →
        pool.recrawlFrom evaluate limit m past batch s pace
          = pool.recrawlFrom evaluate limit n past batch s pace
  | 0, _, _, _, h, _ => absurd rfl h
  | n + 1, past, batch, s, h, hm => by
      obtain ⟨m, rfl⟩ := Nat.exists_eq_add_of_le' (Nat.lt_of_lt_of_le (Nat.succ_pos n) hm)
      obtain ⟨r, -, -, heq⟩ | ⟨t, d, -, -, -, heq⟩ :=
        recrawlFrom_succ pool evaluate limit pace past batch s
      · rw [heq, heq]
      · rw [heq] at h
        rw [heq, heq]
        exact recrawlFrom_of_le pool evaluate limit h (Nat.le_of_succ_le_succ hm)

end Pool

end PageCrawl
