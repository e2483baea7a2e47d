import PageCrawl.Proofs.Pool.Schedule

/-!
# No request is lost

A request of a batch can leave the pool by four ways: with the outcome of its call, with the
breakdown of its call, reported as cancelled by the feeder, or reported as cancelled by the worker
that found it in the queue.  Whatever the way, it is reported, and until then somebody has it.

`Run.held` collects the requests from everybody who may have them: the feeder, the queue, the
workers, and the sources reported so far.  `Step.held_perm` says that no transition changes this
collection but for its order; the transitions of strays do not touch it at all.  By induction the
same holds of every path, whatever the order of its moves and wherever the cancellation falls, and
at the end of a batch only the sources are left: `requests_conserved`.
-/

namespace PageCrawl

/-- Every request of the batch, whoever has it now. -/
def Run.held (s : Run) : List String :=
  s.waiting ++ s.slot.toList ++ s.hands.map (·.request) ++ s.reported.map (·.request)

namespace Pool

variable {pool : Pool} {s t : Run} {m : Move} {trail : List Transition} {requests : List String}

@[simp] lemma held_begin (s : Run) (requests : List String) :
    (s.begin requests).held = requests := by
  simp [Run.held, Run.begin]

lemma count_held (s : Run) (a : String) :
    s.held.count a = s.waiting.count a + s.slot.toList.count a
      + (s.hands.map (·.request)).count a + (s.reported.map (·.request)).count a := by
  simp only [Run.held, List.count_append]

/-- **One transition hands requests over, but loses none and doubles none.** -/
lemma Step.held_perm (h : pool.Step s m t) : t.held.Perm s.held := by
  rw [List.perm_iff_count]
  intro a
  rw [count_held, count_held]
  cases h with
  | giveUp hc hw =>
      simp only [Run.report, hw, List.count_cons, List.map_append, List.map_cons, List.map_nil,
        List.count_append, List.count_nil]
      omega
  | feed hc hs hw =>
      simp only [hs, hw, List.count_cons, Option.toList_some, Option.toList_none, List.count_nil]
      omega
  | refuse hc hs hf =>
      simp only [Run.report, hs, List.count_cons, Option.toList_some, Option.toList_none,
        List.map_append, List.map_cons, List.map_nil, List.count_append, List.count_nil]
      omega
  | take hc hs hf =>
      simp only [hs, List.count_cons, Option.toList_some, Option.toList_none, List.map_append,
        List.map_cons, List.map_nil, List.count_append, List.count_nil]
      omega
  | call hh hd ha =>
      obtain ⟨l, l', hx, hset, -, -⟩ := exists_split hh
      simp only [Run.beginCall, hset]
      simp only [hx, List.map_append, List.map_cons]
  | breakDown hh hd ha =>
      obtain ⟨l, l', hx, -, he, -⟩ := exists_split hh
      simp only [Run.beginCall, Run.report, he]
      simp only [hx, List.map_append, List.map_cons, List.map_nil, List.count_append,
        List.count_cons, List.count_nil]
      omega
  | finish hh hd =>
      obtain ⟨l, l', hx, -, he, -⟩ := exists_split hh
      simp only [Run.endCall, Run.report, he]
      simp only [hx, List.map_append, List.map_cons, List.map_nil, List.count_append,
        List.count_cons, List.count_nil]
      omega
  | cancel | wait | strayCall | strayBreakDown | strayFinish => rfl

lemma Path.held_perm (h : pool.Path s trail t) : t.held.Perm s.held := by
  induction h with
  | nil => exact List.Perm.refl _
  | cons hs _ ih => exact ih.trans hs.held_perm

/-- At the end of a batch everything is reported. -/
lemma held_of_isDone (h : t.isDone = true) : t.held = t.reported.map (·.request) := by
  obtain ⟨hw, hs, hh⟩ := isDone_iff.mp h
  simp [Run.held, hw, hs, hh]

/-- A batch that is done has one source for each of its requests. -/
lemma Path.reported_perm (h : pool.Path (s.begin requests) trail t) (hd : t.isDone = true) :
    (t.reported.map (·.request)).Perm requests := by
  have hp := h.held_perm
  rwa [held_of_isDone hd, held_begin] at hp

lemma dispatch_perm {limit : Option Nat} {d : Dispatch}
    (h : pool.dispatch limit requests s = (t, some d)) :
    (d.results.map (·.request)).Perm requests := by
  obtain ⟨⟨trail, hp, -⟩, hd, rfl⟩ := dispatch_eq_some h
  exact hp.reported_perm hd

/-- **Every request is somewhere, once, and in the end it is reported.**  On every path of a batch,
in whatever order its moves come, what the feeder holds, what lies in the queue, what is in the
hands of workers and what is reported make up the batch; so they do after any number of moves of
`Pool.run`; and a dispatch ends, unless it is dropped, with one source for each request. -/
theorem requests_conserved (pool : Pool) (requests : List String) (s : Run) :
    (∀ trail t, pool.Path (s.begin requests) trail t → t.held.Perm requests) ∧
      (∀ limit n, (pool.run limit n (s.begin requests)).1.held.Perm requests) ∧
      (∃ t d, pool.dispatch none requests s = (t, some d) ∧
        (d.results.map (·.request)).Perm requests) ∧
      (∀ limit t d, pool.dispatch limit requests s = (t, some d) →
        (d.results.map (·.request)).Perm requests) := by
  have hpath : ∀ trail t, pool.Path (s.begin requests) trail t → t.held.Perm requests := by
    intro trail t h
    simpa using h.held_perm
  refine ⟨hpath, fun limit n => ?_, ?_, fun limit t d h => dispatch_perm h⟩
  · obtain ⟨trail, hp⟩ := run_path pool limit n (s.begin requests)
    exact hpath trail _ hp
  · obtain ⟨t, -, ht⟩ := dispatch_none pool s requests
    exact ⟨t, _, ht, dispatch_perm ht⟩

/-- A batch with a request that comes twice: after the first move one of the two is in the queue;
the pool is cancelled while the other one waits for the only worker, and both are reported. -/
theorem requests_conserved_twice :
    let pool : Pool := ⟨.new 1 5, fun _ r => { ending := .page r }, some 3⟩
    let s : Run := {}
    ((∃ trail t, pool.Path (s.begin ["a", "a"]) trail t ∧ t.slot = some "a" ∧
        t.waiting = ["a"] ∧ t.held.Perm ["a", "a"]) ∧
      (pool.dispatch none ["a", "a"] s).2 =
        some ⟨[⟨"a", .page "a"⟩, ⟨"a", .cancelled⟩], some (.cancelled "a")⟩ ∧
      (([⟨"a", .page "a"⟩, ⟨"a", .cancelled⟩] : List PageSource).map (·.request)).Perm
        ["a", "a"]) := by
  intro pool s
  have h := requests_conserved pool ["a", "a"] s
  have hp : pool.Path (s.begin ["a", "a"]) _ _ := Path.cons (Step.feed rfl rfl rfl) (Path.nil _)
  have hd : (pool.dispatch none ["a", "a"] s).2 =
      some ⟨[⟨"a", .page "a"⟩, ⟨"a", .cancelled⟩], some (.cancelled "a")⟩ := by
    decide +kernel
  exact ⟨⟨_, _, hp, rfl, rfl, h.1 _ _ hp⟩, hd, h.2.2.2 none _ _ (Prod.ext rfl hd)⟩

end Pool

end PageCrawl
