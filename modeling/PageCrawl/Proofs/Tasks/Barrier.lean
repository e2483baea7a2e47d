import PageCrawl.Proofs.Tasks.Scheduled

/-!
# A dispatch returns with its last source

Nobody counts the sources of a batch.  A dispatch collects until its channel is closed, and that is
when the feeder, every worker and the dispatch itself have let go of their senders, on whatever way:
the feeder has handed everything over or given it up, a worker has found the queue empty and the
feeder gone, though it never had a request.  A sender that is kept too long would leave the dispatch
waiting for ever, one that goes too early would end it before its results are in.

Neither happens, in whatever order the tasks do what they do.  A dispatch that has not returned is
not stuck, it returns inevitably, and when it does it has a source for each request, at the time at
which it got the last of them, and its calls are over (`Tasks.Barrier`).  What is called later
begins after that: `dispatch_is_barrier`.
-/

namespace PageCrawl

namespace Tasks

open Pool

variable {pool : Pool} {T U : Tasks} {calls past : List (Actor × Beginning)} {s : Run}
  {requests : List String} {time : Nat}

/-- **A dispatch holds the caller up until its batch is over**, and no longer.  The dispatch of
`requests` began in the state `T` and has come to `U`. -/
structure Barrier (pool : Pool) (T : Tasks) (requests : List String)
    (calls : List (Actor × Beginning)) (U : Tasks) : Prop where
  collected_le : U.crew.collected.length ≤ requests.length
  /-- As long as it has not returned one of its tasks can do something, or a worker pauses or makes
  a call. -/
  unstuck : U.crew.listening = true → (∃ r V, U.Step pool .crew r V) ∨ U.crew.hands ≠ []
  /-- Whatever happens, it returns. -/
  returns : Inevitable pool (fun V => ∃ time, V.crew.phase = .returned time) U
  /-- When it has returned its batch is over. -/
  ended : ∀ time, U.crew.phase = .returned time → Ended pool T requests calls U time
  /-- What is called later begins after that. -/
  later : ∀ time, U.crew.phase = .returned time → ∀ calls' V, U.Later pool calls' V →
    ∀ c ∈ calls', time ≤ c.2.start

lemma Steps.barrier (hs : (T.begin pool requests).Steps pool calls U)
    (hT : Reached pool requests (T.begin pool requests) (s.begin requests)) :
    Barrier pool T requests calls U := by
  have hU := hs.sound hT.sound
  refine ⟨hU.crew.collected_le, hU.unstuck, hU.returns, fun time hp => hs.ended hT hp,
    fun time hp calls' V hV c hc => ?_⟩
  have hprompt := hs.prompt hT.sound (prompt_begin pool requests T)
  exact (hprompt.returned time hp).2.trans (hV.le_start c hc)

lemma Performs.exists_returned {t : Run} {d : Dispatch} (h : Performs pool T requests (t, some d)) :
    ∃ calls U, (T.begin pool requests).Steps pool calls U ∧ U.crew.phase = .returned t.now ∧
      U.crew.result = d ∧ Rests pool U t := by
  cases h with
  | returned hs hp hd hr => exact ⟨_, _, hs, hp, hd, hr⟩

lemma Performs.exists_dropped {t : Run} (h : Performs pool T requests (t, none)) :
    ∃ calls U V, (T.begin pool requests).Steps pool calls U ∧ U.crew.listening = true ∧
      U.crew.starter = false ∧ U.drop.Steps pool [] V ∧ Rests pool V t := by
  cases h with
  | dropped hs hl hr hv hr' => exact ⟨_, _, _, hs, hl, hr, hv, hr'⟩

end Tasks

namespace Pool

open Tasks

/-- **A dispatch is a barrier.**

Of whatever was dispatched through a pool before, awaited or dropped, and whatever the tasks of a
dispatch have done so far, it holds its caller up until its batch is over and returns then.  This
holds in particular of what `Pool.dispatch` computes: it is an execution of the tasks, and one that
returns if nobody drops it. -/
theorem dispatch_is_barrier (pool : Pool) :
    (∀ past T time, (fresh 0).Later pool past T → T.crew.phase = .returned time →
      ∀ requests calls U, (T.begin pool requests).Steps pool calls U →
        Barrier pool T requests calls U) ∧
    Rests pool (fresh 0) {} ∧
    ∀ T s, Rests pool T s → ∀ limit requests,
      Performs pool T requests (pool.dispatch limit requests s) ∧
      ∃ t d, pool.dispatch none requests s = (t, some d) := by
  refine ⟨fun past T time h hp requests calls U hs => ?_, rests_fresh pool 0,
    fun T s h limit requests => ⟨h.dispatch limit requests, ?_⟩⟩
  · obtain ⟨_, s, hT⟩ := h.reached (reached_fresh pool 0)
    exact hs.barrier (hT.begin hp requests)
  · obtain ⟨t, -, ht⟩ := dispatch_none pool s requests
    exact ⟨t, _, ht⟩

/-- Three batches, the second one without requests.  The third is cancelled while a worker pauses
and the other one makes a call that breaks down. -/
theorem dispatch_is_barrier_cancelled :
    let pool : Pool := ⟨.new 2 1, Crawler.ofScripts
      [("a", [{ duration := 4, ending := .page "A" },
              { duration := 2, ending := .panic (.text "boom") }]),
       ("b", [{ ending := .panic .other, atCall := true }])], some 7⟩
    ∃ calls T calls' T' calls'' T'',
      ((fresh 0).begin pool ["a", "b"]).Steps pool calls T ∧
      T.crew.result = ⟨[⟨"b", .panicked "unknown panic payload"⟩, ⟨"a", .page "A"⟩],
        some (.panicked "b" "unknown panic payload")⟩ ∧
      Ended pool (fresh 0) ["a", "b"] calls T 5 ∧
      (T.begin pool []).Steps pool calls' T' ∧ Ended pool T [] calls' T' 5 ∧
      (T'.begin pool ["a", "b", "c", "d", "e"]).Steps pool calls'' T'' ∧
      T''.crew.result = ⟨[⟨"b", .panicked "unknown panic payload"⟩, ⟨"e", .cancelled⟩,
        ⟨"c", .page "c"⟩, ⟨"d", .cancelled⟩, ⟨"a", .panicked "boom"⟩],
        some (.panicked "a" "boom")⟩ ∧
      Ended pool T' ["a", "b", "c", "d", "e"] calls'' T'' 8 ∧
      (∀ c ∈ calls'', 5 ≤ c.2.start) ∧
      Inevitable pool (fun U => ∃ time, U.crew.phase = .returned time)
        (T'.begin pool ["a", "b", "c", "d", "e"]) := by
  intro pool
  obtain ⟨hall, hfresh, hdispatch⟩ := dispatch_is_barrier pool
  obtain ⟨s, s', s'', hrun, hnow, hrun', hnow', hrun'', hnow''⟩ : ∃ s s' s'',
      pool.dispatch none ["a", "b"] {} = (s, some ⟨[⟨"b", .panicked "unknown panic payload"⟩,
        ⟨"a", .page "A"⟩], some (.panicked "b" "unknown panic payload")⟩) ∧ s.now = 5 ∧
      pool.dispatch none [] s = (s', some ⟨[], none⟩) ∧ s'.now = 5 ∧
      pool.dispatch none ["a", "b", "c", "d", "e"] s' = (s'', some ⟨[
        ⟨"b", .panicked "unknown panic payload"⟩, ⟨"e", .cancelled⟩, ⟨"c", .page "c"⟩,
        ⟨"d", .cancelled⟩, ⟨"a", .panicked "boom"⟩], some (.panicked "a" "boom")⟩) ∧
      s''.now = 8 := by
    refine ⟨(pool.dispatch none ["a", "b"] {}).1,
      (pool.dispatch none [] (pool.dispatch none ["a", "b"] {}).1).1,
      (pool.dispatch none ["a", "b", "c", "d", "e"]
        (pool.dispatch none [] (pool.dispatch none ["a", "b"] {}).1).1).1, ?_⟩
    decide +kernel
  have hperforms := (hdispatch _ _ hfresh none ["a", "b"]).1
  rw [hrun] at hperforms
  obtain ⟨calls, T, hs, hp, hd, hr⟩ := hperforms.exists_returned
  have hperforms' := (hdispatch _ _ hr none []).1
  rw [hrun'] at hperforms'
  obtain ⟨calls', T', hs', hp', -, hr'⟩ := hperforms'.exists_returned
  have hperforms'' := (hdispatch _ _ hr' none ["a", "b", "c", "d", "e"]).1
  rw [hrun''] at hperforms''
  obtain ⟨calls'', T'', hs'', hp'', hd'', -⟩ := hperforms''.exists_returned
  rw [hnow] at hp
  rw [hnow'] at hp'
  rw [hnow''] at hp''
  have hlater : (fresh 0).Later pool calls T :=
    (Later.begin Later.refl rfl ["a", "b"]).trans hs.later
  have hlater' : (fresh 0).Later pool (calls ++ calls') T' :=
    (Later.begin hlater hp []).trans hs'.later
  have hbarrier' := hall _ T 5 hlater hp [] calls' T' hs'
  have hbarrier'' := hall _ T' 5 hlater' hp' _ calls'' T'' hs''
  refine ⟨calls, T, calls', T', calls'', T'', hs, hd,
    (hall [] _ 0 Later.refl rfl _ calls T hs).ended 5 hp, hs', hbarrier'.ended 5 hp', hs'', hd'',
    hbarrier''.ended 8 hp'', ?_, (hall _ T' 5 hlater' hp' _ [] _ Steps.refl).returns⟩
  exact hbarrier'.later 5 hp' calls'' T'' ((Later.begin Later.refl hp' _).trans hs''.later)

end Pool

end PageCrawl
