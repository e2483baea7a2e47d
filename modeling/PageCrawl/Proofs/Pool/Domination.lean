import PageCrawl.Proofs.Pool.Makespan

/-!
# More workers and shorter pauses never hurt

Take two pools with the same crawl function, one with at least as many workers and a pause that is
no longer.  It makes every call of a batch no later than the other one.  There are pools in which
this is false, because a request that is started early gets in the way of another one; here requests
are started in the order of the batch, whoever starts them.

**The same calls.**  In both pools the call at a place of the batch is made after the calls at the
places before it, so the crawl function answers it in the same way (`Path.reply_eq`).

**One place after the other.**  A request is taken at the earliest time at which enough of the calls
before it are over (`Path.begun_at`).  If these end no later in one of the pools, then at no time
fewer of them are over there (`finished_le`).  So at the time at which the slower pool takes a
request, the other one has a worker free for it as well (`Path.called_earlier`).  Nothing has to be
said about which worker is free when.
-/

namespace PageCrawl

namespace Pool

variable {pool pool' : Pool} {s t t' : Run} {trail trail' : List Transition}
  {requests : List String} {c c' : Beginning} {calls calls' : List Beginning} {b b' : Batch}

/-- **A call that comes no later in the second pool**, and ends no later. -/
structure Earlier (pool pool' : Pool) (c c' : Beginning) : Prop where
  request_eq : c'.request = c.request
  start_le : c'.start ≤ c.start
  finish_le : pool'.finishOf c' ≤ pool.finishOf c

/-- Of calls that end no later as many are over at any time. -/
lemma finished_le (h : List.Forall₂ (Earlier pool pool') calls calls') (n : Nat) :
    pool.finished calls n ≤ pool'.finished calls' n := by
  induction h with
  | nil => exact Nat.le_refl _
  | @cons c c' calls calls' hc _ ih =>
      have hfinish := hc.finish_le
      simp only [finished, List.countP_cons, decide_eq_true_eq] at ih ⊢
      split_ifs <;> omega

/-- **The crawl function is asked the same**: calls at the same place of a batch come after the same
calls. -/
lemma Path.reply_eq {i : Nat} (h : pool.Path (s.begin requests) trail t)
    (h' : pool'.Path (s.begin requests) trail' t') (hs : s.strays = [])
    (hcalls : (ownCalls trail).map (·.request) = (ownCalls trail').map (·.request))
    (hcrawler : pool'.crawler = pool.crawler) (hc : (ownCalls trail)[i]? = some c)
    (hc' : (ownCalls trail')[i]? = some c') :
    c'.request = c.request ∧ pool'.replyTo c' = pool.replyTo c := by
  have hrequest : c'.request = c.request := by
    have hget := congrArg (·[i]?) hcalls
    simpa [hc, hc'] using hget.symm
  have hearlier : c'.earlier = c.earlier := by
    rw [h.calls_own hs] at hc hcalls
    rw [h'.calls_own hs] at hc' hcalls
    rw [h.earlier_eq hc, h'.earlier_eq hc', List.map_take, List.map_take, hcalls]
  exact ⟨hrequest, by rw [replyTo, replyTo, hrequest, hearlier, hcrawler]⟩

/-- **A call comes no later in the second pool if all calls before it end no later there.** -/
lemma Path.called_earlier {i : Nat} (h : pool.Path (s.begin requests) trail t)
    (h' : pool'.Path (s.begin requests) trail' t') (hp : pool.Punctual trail)
    (hp' : pool'.Punctual trail') (hworkers : pool.config.workers ≤ pool'.config.workers)
    (hdelay : pool'.config.delay ≤ pool.config.delay) (hc : (ownCalls trail)[i]? = some c)
    (hc' : (ownCalls trail')[i]? = some c')
    (hreply : c'.request = c.request ∧ pool'.replyTo c' = pool.replyTo c)
    (hbefore : List.Forall₂ (Earlier pool pool') ((ownCalls trail).take i)
      ((ownCalls trail').take i)) : Earlier pool pool' c c' := by
  obtain ⟨n, hstart, ⟨hn, hfree⟩, -⟩ := h.begun_at hp hc
  obtain ⟨n', hstart', -, hleast'⟩ := h'.begun_at hp' hc'
  have hover := finished_le hbefore n
  have hle : n' ≤ n := hleast' ⟨hn, by omega⟩
  refine ⟨hreply.1, by omega, ?_⟩
  rw [finishOf, finishOf, hreply.2]
  omega

/-- **Place by place the calls of the second pool come no later.** -/
lemma Path.forall_earlier (h : pool.Path (s.begin requests) trail t)
    (h' : pool'.Path (s.begin requests) trail' t') (hp : pool.Punctual trail)
    (hp' : pool'.Punctual trail') (hs : s.strays = [])
    (hworkers : pool.config.workers ≤ pool'.config.workers)
    (hdelay : pool'.config.delay ≤ pool.config.delay) (hcrawler : pool'.crawler = pool.crawler)
    (hcalls : (ownCalls trail).map (·.request) = (ownCalls trail').map (·.request)) :
    List.Forall₂ (Earlier pool pool') (ownCalls trail) (ownCalls trail') := by
  have hlength : (ownCalls trail).length = (ownCalls trail').length := by
    simpa using congrArg List.length hcalls
  have htake : ∀ i, i ≤ (ownCalls trail).length → List.Forall₂ (Earlier pool pool')
      ((ownCalls trail).take i) ((ownCalls trail').take i) := by
    intro i
    induction i with
    | zero => simp
    | succ i ih =>
        intro hi
        have hi' : i < (ownCalls trail').length := hlength ▸ hi
        have hc : (ownCalls trail)[i]? = some (ownCalls trail)[i] := List.getElem?_eq_getElem hi
        have hc' : (ownCalls trail')[i]? = some (ownCalls trail')[i] := List.getElem?_eq_getElem hi'
        have hbefore := ih (Nat.le_of_succ_le hi)
        have hcall := h.called_earlier h' hp hp' hworkers hdelay hc hc'
          (h.reply_eq h' hs hcalls hcrawler hc hc') hbefore
        rw [List.take_add_one, List.take_add_one, hc, hc']
        exact List.rel_append hbefore (.cons hcall .nil)
  have hall := htake _ (Nat.le_refl _)
  rwa [List.take_length, hlength, List.take_length] at hall

/-- When all calls of the first pool are over, so are those of the second one. -/
lemma finishOf_le_of_earlier {n : Nat} (h : List.Forall₂ (Earlier pool pool') calls calls')
    (hall : ∀ c ∈ calls, pool.finishOf c ≤ n) : ∀ c' ∈ calls', pool'.finishOf c' ≤ n := by
  have hover : pool.finished calls n = calls.length :=
    List.countP_eq_length.mpr fun c hc => by simpa using hall c hc
  have hover' : pool'.finished calls' n = calls'.length := by
    have hle := finished_le h n
    rw [hover, h.length_eq] at hle
    exact le_antisymm List.countP_le_length hle
  intro c' hc'
  simpa using List.countP_eq_length.mp hover' c' hc'

/-! ## The batch -/

/-- **What a batch gains** from a second pool: both call all its requests, the second one each of
them no later, and there it ends no later. -/
structure NoLater (pool pool' : Pool) (b b' : Batch) : Prop where
  called : (ownCalls b.trail).map (·.request) = b.requests
  calls : List.Forall₂ (Earlier pool pool') (ownCalls b.trail) (ownCalls b'.trail)
  /-- The ends of the calls are the times at which their sources come. -/
  sources : (crawledAt b.trail).Perm
    ((ownCalls b.trail).map fun c => (pool.finishOf c, pool.answer c))
  sources' : (crawledAt b'.trail).Perm
    ((ownCalls b'.trail).map fun c => (pool'.finishOf c, pool'.answer c))
  after_le : b'.after.now ≤ b.after.now

/-- A batch without requests is done when it begins. -/
lemma Path.now_of_nil (h : pool.Path (s.begin []) trail t) (ho : Unfinished trail) :
    t.now = s.now := by
  cases h with
  | nil => rfl
  | cons hstep hp =>
      have hopen : (s.begin []).isDone = false := ho _ List.mem_cons_self
      cases hopen

lemma Dispatched.noLater (h : pool.Dispatched b) (h' : pool'.Dispatched b')
    (hs : b.before.strays = []) (hbefore : b'.before = b.before)
    (hrequests : b'.requests = b.requests)
    (hworkers : pool.config.workers ≤ pool'.config.workers)
    (hdelay : pool'.config.delay ≤ pool.config.delay) (hcrawler : pool'.crawler = pool.crawler)
    (hr : b.result ≠ none) (hr' : b'.result ≠ none) (hc : b.after.cancelled = false)
    (hc' : b'.after.cancelled = false) : NoLater pool pool' b b' := by
  obtain ⟨d, hd⟩ := Option.ne_none_iff_exists'.mp hr
  obtain ⟨d', hd'⟩ := Option.ne_none_iff_exists'.mp hr'
  have hdone := (h.awaited d hd).2.1
  have hdone' := (h'.awaited d' hd').2.1
  have hp' := h'.path
  rw [hbefore, hrequests] at hp'
  rw [Batch.after_cancelled] at hc hc'
  have hcalled := h.path.requests_eq h.punctual hdone hc
  have hcalled' := hp'.requests_eq h'.punctual hdone' hc'
  have hcalls := h.path.forall_earlier hp' h.punctual h'.punctual hs hworkers hdelay hcrawler
    (hcalled.trans hcalled'.symm)
  refine ⟨hcalled, hcalls, h.path.crawled_at_end h.punctual.timely hdone,
    h'.path.crawled_at_end h'.punctual.timely hdone', ?_⟩
  rw [Batch.after_now, Batch.after_now]
  by_cases hne : b.requests = []
  · rw [hne] at hp'
    rw [hp'.now_of_nil h'.unfinished]
    exact h.path.now_mono
  · -- the batch ends with the last call, which is over by then in the first pool as well
    obtain ⟨c', hmem, hlast⟩ := hp'.exists_last h'.punctual h'.unfinished hdone' hc' hne
    rw [← hlast]
    exact finishOf_le_of_earlier hcalls (h.path.finishOf_le h.punctual.timely hdone) c' hmem

/-- Where a dispatch ends. -/
lemma Dispatched.after_eq {limit : Option Nat} (h : pool.Dispatched b) (hbefore : b.before = s)
    (hrequests : b.requests = requests) (hlimit : b.limit = limit) :
    (pool.dispatch limit requests s).1 = b.after := by
  subst hbefore hrequests hlimit
  exact congrArg Prod.fst h.dispatch_eq

/-- Every clear pool that is never cancelled comes to the end of its batch. -/
lemma exists_batch_clear (hn : pool.NeverCancelled) (hs : Clear s) (requests : List String) :
    ∃ b : Batch, pool.Dispatched b ∧ b.before = s ∧ b.requests = requests ∧ b.limit = none ∧
      b.result ≠ none ∧ b.after.cancelled = false := by
  obtain ⟨b, h, -, rfl, rfl, hlimit⟩ := exists_batch pool none requests s
  obtain ⟨t, trail, hdispatch, -, -, hclear⟩ := dispatch_clear hn hs b.requests
  have heq := h.dispatch_eq
  rw [hlimit, hdispatch, Prod.mk.injEq] at heq
  refine ⟨b, h, rfl, rfl, hlimit, ?_, ?_⟩
  · rw [← heq.2]
    simp
  · rw [← heq.1]
    exact hclear.uncancelled

/-- **More workers and shorter pauses never hurt.**

Two pools have the same crawl function; the second one has no fewer workers and pauses no longer.
Both are given the same batch, in the same clear state.  If neither of them is cancelled or drops
the batch, both make a call for each of its requests, in the order of the batch, and the call at
each place begins and ends no later in the second pool, which is done with the batch no later.  If
the crawl function does not cancel anything, both dispatches come to that end. -/
theorem more_workers_never_hurt {workers workers' delay delay' : Nat} (crawler : Crawler)
    (hworkers : workers ≤ workers') (hdelay : delay' ≤ delay) {s : Run} (hs : Clear s)
    (requests : List String) :
    let pool : Pool := ⟨.new workers delay, crawler, none⟩
    let pool' : Pool := ⟨.new workers' delay', crawler, none⟩
    (∀ b b', pool.Dispatched b → pool'.Dispatched b' → b.before = s → b'.before = s →
      b.requests = requests → b'.requests = requests → b.result ≠ none → b'.result ≠ none →
      b.after.cancelled = false → b'.after.cancelled = false → NoLater pool pool' b b') ∧
    ((∀ earlier request, (crawler earlier request).mayCancel = false) →
      ∃ b b', pool.Dispatched b ∧ pool'.Dispatched b' ∧ b.before = s ∧ b'.before = s ∧
        b.requests = requests ∧ b'.requests = requests ∧ b.limit = none ∧ b'.limit = none ∧
        b.result ≠ none ∧ b'.result ≠ none ∧ NoLater pool pool' b b') := by
  intro pool pool'
  have hmore : pool.config.workers ≤ pool'.config.workers := max_le_max_left 1 hworkers
  have hall : ∀ b b', pool.Dispatched b → pool'.Dispatched b' → b.before = s → b'.before = s →
      b.requests = requests → b'.requests = requests → b.result ≠ none → b'.result ≠ none →
      b.after.cancelled = false → b'.after.cancelled = false → NoLater pool pool' b b' := by
    rintro b b' h h' rfl hbefore rfl hrequests hr hr' hc hc'
    exact h.noLater h' hs.strays_nil hbefore hrequests hmore hdelay rfl hr hr' hc hc'
  refine ⟨hall, fun hn => ?_⟩
  have hnever : pool.NeverCancelled := ⟨rfl, hn⟩
  have hnever' : pool'.NeverCancelled := ⟨rfl, hn⟩
  obtain ⟨b, h, hbefore, hrequests, hlimit, hr, hc⟩ := exists_batch_clear hnever hs requests
  obtain ⟨b', h', hbefore', hrequests', hlimit', hr', hc'⟩ :=
    exists_batch_clear hnever' hs requests
  exact ⟨b, b', h, h', hbefore, hbefore', hrequests, hrequests', hlimit, hlimit', hr, hr',
    hall b b' h h' hbefore hbefore' hrequests hrequests' hr hr' hc hc'⟩

/-- Two workers that pause for long, and three that do not: a slow request, one whose call breaks
down before it has begun, and one that fails. -/
theorem more_workers_never_hurt_paused :
    let crawler := (Crawler.ofScripts
      [("a", [{ duration := 9, ending := .page "A" }]),
       ("b", [{ ending := .panic .other, atCall := true }]),
       ("c", [{ duration := 7, ending := .error ["outer", "root"] }]),
       ("d", [{ duration := 2, ending := .page "D" }])]).uncancelling
    let pool : Pool := ⟨.new 2 3, crawler, none⟩
    let pool' : Pool := ⟨.new 3 1, crawler, none⟩
    let requests := ["a", "b", "c", "d", "e"]
    let times (b : Batch) := b.after.calls.map fun c => (c.request, c.start, c.finish)
    Clear pool.start ∧ ∃ b b', pool.Dispatched b ∧ pool'.Dispatched b' ∧ b.requests = requests ∧
      b'.requests = requests ∧ NoLater pool pool' b b' ∧ b.after.now = 17 ∧ b'.after.now = 10 ∧
      times b = [("e", 16, some 16), ("d", 15, some 17), ("c", 6, some 13), ("b", 3, none),
        ("a", 3, some 12)] ∧
      times b' = [("e", 5, some 5), ("d", 2, some 4), ("c", 1, some 8), ("b", 1, none),
        ("a", 1, some 10)] := by
  intro crawler pool pool' requests times
  have hs : Clear pool.start := ⟨rfl, rfl⟩
  obtain ⟨b, b', h, h', hbefore, hbefore', hrequests, hrequests', hlimit, hlimit', -, -, hle⟩ :=
    (more_workers_never_hurt crawler (show 2 ≤ 3 by decide) (show 1 ≤ 3 by decide) hs
      requests).2 fun _ _ => rfl
  refine ⟨hs, b, b', h, h', hrequests, hrequests', hle, ?_⟩
  simp only [times, ← h.after_eq hbefore hrequests hlimit,
    ← h'.after_eq hbefore' hrequests' hlimit']
  decide +kernel

end Pool

end PageCrawl
