import PageCrawl.Proofs.Pool.LastReport
import PageCrawl.Proofs.Pool.Workload

/-!
# No request holds up the rest

A worker that has a slow request leaves the others to the other workers.  So how long a batch takes
is determined, up to the longest of its requests, by how long they all take together.

**Two counts.**  From the time a request is taken until its call is over a worker has it in its
hands: `heldFor` is how long that is, and `busy` is how many requests are held at a time.  Those
that have been taken are held or over (`begun_eq`), and requests are taken at the earliest time at
which a worker is free (`Path.taken_at`).  So at most as many are held as there are workers
(`Path.busy_le`), and before a request is taken all workers hold requests that come before it
(`Path.le_busy`).

**One area.**  What is held at every moment, summed over the time of the batch, is how long all
requests are held (`sum_busy_eq`).  With the first of the two bounds a batch takes no less than its
share of this; with the second, up to the time at which the request that is over last is taken,
it takes no more.
-/

namespace PageCrawl

namespace Pool

variable {pool : Pool} {s t : Run} {trail : List Transition} {requests : List String}

/-! ## What is held at a time -/

/-- **How long a worker has a request in its hands**: for its pause and for its call. -/
def heldFor (pool : Pool) (c : Beginning) : Nat :=
  pool.config.delay + (pool.finishOf c - c.start)

/-- Whether the request of a call is in a worker's hands at a time. -/
def heldAt (pool : Pool) (n : Nat) (c : Beginning) : Bool :=
  c.start ≤ n + pool.config.delay ∧ n < pool.finishOf c

lemma heldAt_iff {n : Nat} {c : Beginning} : pool.heldAt n c = true ↔
    c.start ≤ n + pool.config.delay ∧ n < pool.finishOf c :=
  decide_eq_true_iff

/-- How many requests are in the hands of workers at a time. -/
def busy (pool : Pool) (calls : List Beginning) (n : Nat) : Nat :=
  calls.countP (pool.heldAt n)

/-- How many requests have been taken by a time: their pauses are over one pause later. -/
def begun (pool : Pool) (calls : List Beginning) (n : Nat) : Nat :=
  calls.countP fun c => c.start ≤ n + pool.config.delay

lemma busy_append (pool : Pool) (calls calls' : List Beginning) (n : Nat) :
    pool.busy (calls ++ calls') n = pool.busy calls n + pool.busy calls' n :=
  List.countP_append

/-- **What has been taken is held or over.** -/
lemma begun_eq (pool : Pool) (n : Nat) : ∀ calls : List Beginning,
    pool.begun calls n = pool.busy calls n + pool.finished calls n
  | [] => rfl
  | c :: calls => by
      have ih := begun_eq pool n calls
      have hover := start_le_finishOf pool c
      simp only [begun, busy, finished, List.countP_cons, heldAt_iff, decide_eq_true_eq] at ih ⊢
      rw [ih]
      split_ifs <;> omega

/-! ## The area -/

/-- **A request is held as long as it takes**, as far as this falls into the time looked at. -/
lemma card_heldAt (pool : Pool) (c : Beginning) (first last : Nat) :
    ((Finset.Ico first last).filter fun n => pool.heldAt n c).card ≤ pool.heldFor c ∧
      (first + pool.config.delay ≤ c.start → pool.finishOf c ≤ last →
        ((Finset.Ico first last).filter fun n => pool.heldAt n c).card = pool.heldFor c) := by
  have hover := start_le_finishOf pool c
  have hcard : (Finset.Ico (c.start - pool.config.delay) (pool.finishOf c)).card
      = pool.finishOf c - (c.start - pool.config.delay) := Nat.card_Ico _ _
  constructor
  · have hsub : (Finset.Ico first last).filter (fun n => pool.heldAt n c)
        ⊆ Finset.Ico (c.start - pool.config.delay) (pool.finishOf c) := by
      intro n
      simp only [Finset.mem_filter, Finset.mem_Ico, heldAt_iff]
      omega
    have hle := Finset.card_le_card hsub
    rw [heldFor]
    omega
  · intro hfirst hlast
    have heq : (Finset.Ico first last).filter (fun n => pool.heldAt n c)
        = Finset.Ico (c.start - pool.config.delay) (pool.finishOf c) := by
      ext n
      simp only [Finset.mem_filter, Finset.mem_Ico, heldAt_iff]
      omega
    rw [heq, hcard, heldFor]
    omega

lemma sum_busy_cons (pool : Pool) (c : Beginning) (calls : List Beginning) (first last : Nat) :
    ∑ n ∈ Finset.Ico first last, pool.busy (c :: calls) n
      = ((Finset.Ico first last).filter fun n => pool.heldAt n c).card
        + ∑ n ∈ Finset.Ico first last, pool.busy calls n := by
  rw [Finset.card_filter, ← Finset.sum_add_distrib]
  refine Finset.sum_congr rfl fun n _ => ?_
  rw [busy, List.countP_cons, Nat.add_comm]
  rfl

/-- What is held over a time is at most how long the requests are held. -/
lemma sum_busy_le (pool : Pool) (first last : Nat) : ∀ calls : List Beginning,
    ∑ n ∈ Finset.Ico first last, pool.busy calls n ≤ (calls.map pool.heldFor).sum
  | [] => by simp [busy]
  | c :: calls => by
      rw [sum_busy_cons, List.map_cons, List.sum_cons]
      exact Nat.add_le_add (pool.card_heldAt c first last).1 (sum_busy_le pool first last calls)

/-- **Over a time in which all is taken and over**, what is held sums up to how long the requests
are held. -/
lemma sum_busy_eq (pool : Pool) (first last : Nat) : ∀ calls : List Beginning,
    (∀ c ∈ calls, first + pool.config.delay ≤ c.start ∧ pool.finishOf c ≤ last) →
      ∑ n ∈ Finset.Ico first last, pool.busy calls n = (calls.map pool.heldFor).sum
  | [], _ => by simp [busy]
  | c :: calls, h => by
      obtain ⟨⟨hfirst, hlast⟩, hrest⟩ := List.forall_mem_cons.mp h
      rw [sum_busy_cons, List.map_cons, List.sum_cons, sum_busy_eq pool first last calls hrest,
        (pool.card_heldAt c first last).2 hfirst hlast]

/-! ## All workers are busy while a request waits -/

/-- **A request is taken as soon as a worker is free for it**: the time at which it is taken is one
pause before its call. -/
lemma Path.begun_at {i : Nat} {c : Beginning} (h : pool.Path (s.begin requests) trail t)
    (hp : pool.Punctual trail) (hc : (ownCalls trail)[i]? = some c) :
    ∃ n, c.start = n + pool.config.delay ∧ IsLeast {n | s.now ≤ n ∧
      i < pool.config.workers + pool.finished ((ownCalls trail).take i) n} n := by
  obtain ⟨p, htake, hstart⟩ := h.start_eq hp hc
  exact ⟨p.1, hstart, h.taken_at hp htake⟩

/-- Calls begin no earlier than one pause after the batch. -/
lemma Path.begin_le {c : Beginning} (h : pool.Path (s.begin requests) trail t)
    (hp : pool.Punctual trail) (hc : c ∈ ownCalls trail) :
    s.now + pool.config.delay ≤ c.start := by
  obtain ⟨i, hi⟩ := List.mem_iff_getElem?.mp hc
  obtain ⟨n, hstart, ⟨hn, -⟩, -⟩ := h.begun_at hp hi
  omega

/-- What has been taken is a beginning of the batch. -/
lemma Path.begun_take {i n : Nat} {c : Beginning} (h : pool.Path (s.begin requests) trail t)
    (hp : pool.Punctual trail) (hc : (ownCalls trail)[i]? = some c)
    (hle : c.start ≤ n + pool.config.delay) : pool.begun ((ownCalls trail).take (i + 1)) n
      = i + 1 := by
  obtain ⟨hi, rfl⟩ := List.getElem?_eq_some_iff.mp hc
  have hsorted := (h.calls_in_order hp).2
  have hlength : ((ownCalls trail).take (i + 1)).length = i + 1 := by
    rw [List.length_take]
    omega
  refine Eq.trans (List.countP_eq_length.mpr fun c' hc' => ?_) hlength
  obtain ⟨j, hj, rfl⟩ := List.mem_take_iff_getElem.mp hc'
  rw [List.pairwise_map] at hsorted
  have hj : j ≤ i := by omega
  rcases hj.eq_or_lt with rfl | hlt
  · simpa using hle
  · have hbefore := List.pairwise_iff_getElem.mp hsorted j i (by omega) hi hlt
    simp only [decide_eq_true_eq]
    omega

/-- **At most as many requests are held as there are workers.** -/
lemma Path.busy_le (h : pool.Path (s.begin requests) trail t) (hp : pool.Punctual trail) (n : Nat) :
    ∀ i, i ≤ (ownCalls trail).length →
      pool.busy ((ownCalls trail).take i) n ≤ pool.config.workers := by
  intro i
  induction i with
  | zero => simp [busy]
  | succ i ih =>
      intro hi
      have hc : (ownCalls trail)[i]? = some (ownCalls trail)[i] := List.getElem?_eq_getElem hi
      obtain ⟨m, hstart, ⟨-, hfree⟩, -⟩ := h.begun_at hp hc
      rcases Nat.lt_or_ge n m with hlt | hge
      · -- the last of them has not been taken
        have hnot : ¬pool.heldAt n (ownCalls trail)[i] := by
          rw [heldAt_iff]
          omega
        rw [List.take_add_one, hc, busy_append]
        simpa [busy, hnot] using ih (Nat.le_of_succ_le hi)
      · have hbegun := h.begun_take (n := n) hp hc (by omega)
        have hsplit := pool.begun_eq n ((ownCalls trail).take (i + 1))
        have hmore := pool.finished_mono
          (List.take_sublist_take_left (l := ownCalls trail) (Nat.le_add_right i 1)) n
        have hlater := pool.finished_le_finished ((ownCalls trail).take i) hge
        omega

/-- **Before a request is taken all workers hold requests that come before it.** -/
lemma Path.le_busy {n : Nat} (h : pool.Path (s.begin requests) trail t) (hp : pool.Punctual trail)
    (hn : s.now ≤ n) : ∀ i c, (ownCalls trail)[i]? = some c → n + pool.config.delay < c.start →
      pool.config.workers ≤ pool.busy ((ownCalls trail).take i) n := by
  intro i
  induction i with
  | zero =>
      intro c hc hlt
      obtain ⟨m, hstart, -, hleast⟩ := h.begun_at hp hc
      have hm : m ≤ n := hleast ⟨hn, Nat.add_pos_left pool.config.workers_pos _⟩
      omega
  | succ i ih =>
      intro c hc hlt
      obtain ⟨m, hstart, -, hleast⟩ := h.begun_at hp hc
      have hi : i < (ownCalls trail).length := by
        have := (List.getElem?_eq_some_iff.mp hc).1
        omega
      have hget : (ownCalls trail)[i]? = some (ownCalls trail)[i] := List.getElem?_eq_getElem hi
      rcases Nat.lt_or_ge (n + pool.config.delay) (ownCalls trail)[i].start with hwaits | htaken
      · -- the request before it waits as well
        rw [List.take_add_one, busy_append]
        exact (ih _ hget hwaits).trans (Nat.le_add_right _ _)
      · -- all requests before it have been taken, and no worker is free
        have hbegun := h.begun_take hp hget htaken
        have hsplit := pool.begun_eq n ((ownCalls trail).take (i + 1))
        have hnone : ¬i + 1 < pool.config.workers
            + pool.finished ((ownCalls trail).take (i + 1)) n := by
          intro hfree
          have hm : m ≤ n := hleast ⟨hn, hfree⟩
          omega
        omega

/-! ## How long a batch takes -/

lemma sum_workers (workers first last : Nat) :
    ∑ _n ∈ Finset.Ico first last, workers = workers * (last - first) := by
  rw [Finset.sum_const, Nat.card_Ico, smul_eq_mul, Nat.mul_comm]

/-- **No worker holds two requests at a time.** -/
lemma Path.sum_le {last : Nat} (h : pool.Path (s.begin requests) trail t)
    (hp : pool.Punctual trail) (hover : ∀ c ∈ ownCalls trail, pool.finishOf c ≤ last) :
    ((ownCalls trail).map pool.heldFor).sum ≤ pool.config.workers * (last - s.now) := by
  calc ((ownCalls trail).map pool.heldFor).sum
      = ∑ n ∈ Finset.Ico s.now last, pool.busy (ownCalls trail) n :=
        (pool.sum_busy_eq _ _ _ fun c hc => ⟨h.begin_le hp hc, hover c hc⟩).symm
    _ ≤ ∑ _n ∈ Finset.Ico s.now last, pool.config.workers := by
        refine Finset.sum_le_sum fun n _ => ?_
        simpa using h.busy_le hp n _ le_rfl
    _ = pool.config.workers * (last - s.now) := sum_workers _ _ _

/-- **While a request waits, all workers hold requests that come before it.** -/
lemma Path.le_sum {i n : Nat} {c : Beginning} (h : pool.Path (s.begin requests) trail t)
    (hp : pool.Punctual trail) (hc : (ownCalls trail)[i]? = some c)
    (hn : c.start = n + pool.config.delay) :
    pool.config.workers * (n - s.now) + pool.heldFor c
      ≤ ((ownCalls trail).map pool.heldFor).sum := by
  have hbusy : pool.config.workers * (n - s.now)
      ≤ (((ownCalls trail).take i).map pool.heldFor).sum := by
    calc pool.config.workers * (n - s.now)
        = ∑ _m ∈ Finset.Ico s.now n, pool.config.workers := (sum_workers _ _ _).symm
      _ ≤ ∑ m ∈ Finset.Ico s.now n, pool.busy ((ownCalls trail).take i) m := by
          refine Finset.sum_le_sum fun m hm => ?_
          obtain ⟨hfirst, hlt⟩ := Finset.mem_Ico.mp hm
          exact h.le_busy hp hfirst i c hc (by omega)
      _ ≤ _ := pool.sum_busy_le s.now n _
  have hothers : (((ownCalls trail).take i).map pool.heldFor).sum + pool.heldFor c
      ≤ ((ownCalls trail).map pool.heldFor).sum := by
    have hsub := (List.take_sublist (i + 1) (ownCalls trail)).map pool.heldFor
    rw [List.take_add_one, hc] at hsub
    simpa using hsub.sum_le_sum fun _ _ => Nat.zero_le _
  omega

lemma Path.heldFor_le {c : Beginning} {last : Nat} (h : pool.Path (s.begin requests) trail t)
    (hp : pool.Punctual trail) (hc : c ∈ ownCalls trail) (hover : pool.finishOf c ≤ last) :
    pool.heldFor c ≤ last - s.now := by
  have hfirst := h.begin_le hp hc
  have hstop := start_le_finishOf pool c
  rw [heldFor]
  omega

/-- **How long a batch takes** on a number of workers, when its requests are held for the given
times and one of them longest. -/
structure Balanced (workers lasted : Nat) (times : List Nat) (longest : Nat) : Prop where
  longest_eq : times.max? = some longest
  /-- All workers have requests until the one that is over last is taken. -/
  time_le : workers * lasted ≤ times.sum + (workers - 1) * longest
  /-- No worker has two requests at a time. -/
  le_time : times.sum ≤ workers * lasted
  longest_le : longest ≤ lasted
  /-- When there is a worker for every request, none waits. -/
  time_eq : times.length ≤ workers → lasted = longest

/-- **A batch whose last call is over at its end** takes as long as it should. -/
lemma Path.balanced (h : pool.Path (s.begin requests) trail t) (hp : pool.Punctual trail)
    (hover : ∀ c ∈ ownCalls trail, pool.finishOf c ≤ t.now)
    (hlast : ∃ c ∈ ownCalls trail, pool.finishOf c = t.now) :
    ∃ longest, Balanced pool.config.workers (t.now - s.now) ((ownCalls trail).map pool.heldFor)
      longest := by
  obtain ⟨c, hc, hfinish⟩ := hlast
  have hmem := List.mem_map_of_mem (f := pool.heldFor) hc
  obtain ⟨longest, hmax⟩ := Option.ne_none_iff_exists'.mp
    (mt List.max?_eq_none_iff.mp (List.ne_nil_of_mem hmem))
  obtain ⟨hlongest, hall⟩ := List.max?_eq_some_iff.mp hmax
  have hheld : pool.heldFor c ≤ longest := hall _ hmem
  have hle : longest ≤ t.now - s.now := by
    obtain ⟨c', hc', rfl⟩ := List.mem_map.mp hlongest
    exact h.heldFor_le hp hc' (hover c' hc')
  obtain ⟨i, hi⟩ := List.mem_iff_getElem?.mp hc
  obtain ⟨n, hstart, ⟨hn, -⟩, hleast⟩ := h.begun_at hp hi
  -- the request of the last call is taken at `n`, and is held until the end
  have htime : t.now - s.now = (n - s.now) + pool.heldFor c := by
    have hstop := start_le_finishOf pool c
    rw [heldFor]
    omega
  refine ⟨longest, hmax, ?_, h.sum_le hp hover, hle, fun hfew => ?_⟩
  · have hsum := h.le_sum hp hi hstart
    obtain ⟨k, hk⟩ : ∃ k, pool.config.workers = k + 1 :=
      Nat.exists_eq_succ_of_ne_zero pool.config.workers_pos.ne'
    rw [hk] at hsum ⊢
    calc (k + 1) * (t.now - s.now)
        = (k + 1) * (n - s.now) + pool.heldFor c + k * pool.heldFor c := by
          rw [htime]
          ring
      _ ≤ ((ownCalls trail).map pool.heldFor).sum + k * longest :=
          Nat.add_le_add hsum (Nat.mul_le_mul_left k hheld)
  · rw [List.length_map] at hfew
    have hlt := (List.getElem?_eq_some_iff.mp hi).1
    have hat : n ≤ s.now := hleast ⟨le_rfl, by omega⟩
    omega

/-! ## The batch -/

/-- **A batch that is not cancelled ends with its last call.** -/
lemma Path.exists_last (h : pool.Path (s.begin requests) trail t) (hp : pool.Punctual trail)
    (ho : Unfinished trail) (hd : t.isDone = true) (hc : t.cancelled = false)
    (hr : requests ≠ []) : ∃ c ∈ ownCalls trail, pool.finishOf c = t.now := by
  rcases h.last_report ho hd with rfl | ⟨past, source, hpast⟩
  · obtain rfl := h.eq_of_nil
    exact absurd (isDone_iff.mp hd).1 hr
  · have hm : (t.now, source) ∈ reports trail := by simp [hpast]
    have hnot : source.isCancelled = false := by
      have hnone : t.reported.filter (·.isCancelled) = [] := h.refused_eq hc
      rw [h.reported_begin, List.filter_eq_nil_iff] at hnone
      simpa using hnone source (List.mem_map_of_mem (f := Prod.snd) hm)
    have hcrawled : (t.now, source) ∈ crawledAt trail :=
      List.mem_filter.mpr ⟨hm, by simp [hnot]⟩
    obtain ⟨c, hcall, heq⟩ := List.mem_map.mp
      ((h.crawled_at_begin hp.timely).subset (List.mem_append_left _ hcrawled))
    exact ⟨c, hcall, congrArg Prod.fst heq⟩

/-- **All requests of a batch that is not cancelled are called**, in its order. -/
lemma Path.requests_eq (h : pool.Path (s.begin requests) trail t) (hp : pool.Punctual trail)
    (hd : t.isDone = true) (hc : t.cancelled = false) :
    (ownCalls trail).map (·.request) = requests := by
  have hperm := h.requests_perm hd
  have hnone : t.reported.filter (·.isCancelled) = [] := h.refused_eq hc
  rw [hnone, List.map_nil, List.append_nil] at hperm
  exact (h.calls_in_order hp).1.eq_of_length hperm.length_eq

/-- **No request holds up the rest.**

A pool with `workers` workers, or with one if there should be none, is given a batch that is not
empty, in whatever state it is.  Every dispatch that nobody drops comes to an end.  If it is not
cancelled, each request is called, and is held for the pause and for its call.  The time that the
batch takes is then the share of each worker, up to the longest of these times: all together at
most, and no less.  When there are enough workers it is the longest time itself. -/
theorem no_request_holds_up_the_rest (workers delay : Nat) (crawler : Crawler)
    (cancelAt : Option Nat) :
    let pool : Pool := ⟨.new workers delay, crawler, cancelAt⟩
    (∀ requests s, ∃ b : Batch, pool.Dispatched b ∧ b.before = s ∧ b.requests = requests ∧
      b.limit = none ∧ b.result ≠ none) ∧
    ∀ b, pool.Dispatched b → b.result ≠ none → b.after.cancelled = false → b.requests ≠ [] →
      (ownCalls b.trail).map (·.request) = b.requests ∧
      ∃ longest, Balanced (max workers 1) (b.after.now - b.before.now)
        ((ownCalls b.trail).map fun c => delay + (pool.finishOf c - c.start)) longest := by
  intro pool
  have hworkers : pool.config.workers = max workers 1 := max_comm 1 workers
  refine ⟨fun requests s => ?_, fun b h hr hc hne => ?_⟩
  · obtain ⟨b, h, -, rfl, rfl, hlimit⟩ := exists_batch pool none requests s
    refine ⟨b, h, rfl, rfl, hlimit, fun hr => ?_⟩
    obtain ⟨-, l, hl, -⟩ := h.dropped hr
    rw [hlimit] at hl
    cases hl
  · obtain ⟨d, hd⟩ := Option.ne_none_iff_exists'.mp hr
    have hdone := (h.awaited d hd).2.1
    rw [Batch.after_cancelled] at hc
    rw [Batch.after_now, ← hworkers]
    exact ⟨h.path.requests_eq h.punctual hdone hc,
      h.path.balanced h.punctual (h.path.finishOf_le h.punctual.timely hdone)
        (h.path.exists_last h.punctual h.unfinished hdone hc hne)⟩

/-- Two workers, and one request that is slower than all the others.  While one worker has it, the
other one has the two that come after it. -/
theorem no_request_holds_up_the_rest_slow :
    let duration : String → Nat := fun request => if request == "slow" then 30 else 10
    let pool : Pool := ⟨.new 2 5, fun _ request =>
      { duration := duration request, ending := .page request }, none⟩
    let requests := ["a", "b", "slow", "c", "d"]
    (pool.dispatch none requests {}).1.now = 50 ∧
    ∃ b : Batch, pool.Dispatched b ∧ b.requests = requests ∧ b.after.now = 50 ∧
      (ownCalls b.trail).map (·.request) = requests ∧ Balanced 2 50 [15, 15, 35, 15, 15] 35 := by
  intro duration pool requests
  have hrun : (pool.dispatch none requests {}).1.now = 50 ∧
      (pool.dispatch none requests {}).1.cancelled = false := by
    decide +kernel
  obtain ⟨hexists, hall⟩ := no_request_holds_up_the_rest 2 5 pool.crawler pool.cancelAt
  obtain ⟨b, h, hbefore, hrequests, hlimit, hr⟩ := hexists requests {}
  have heq : (pool.dispatch none requests {}).1 = b.after := by
    rw [← hbefore, ← hrequests, ← hlimit]
    exact congrArg Prod.fst h.dispatch_eq
  rw [heq] at hrun
  obtain ⟨hcalled, longest, hbalanced⟩ := hall b h hr hrun.2 (by simp [hrequests, requests])
  rw [hrequests] at hcalled
  have htimes : (ownCalls b.trail).map (fun c => 5 + (pool.finishOf c - c.start))
      = [15, 15, 35, 15, 15] := by
    have hmap : (ownCalls b.trail).map (fun c => 5 + (pool.finishOf c - c.start))
        = ((ownCalls b.trail).map (·.request)).map fun request => 5 + duration request := by
      rw [List.map_map]
      refine List.map_congr_left fun c _ => ?_
      simp [finishOf, replyTo, pool]
    rw [hmap, hcalled]
    decide
  rw [htimes, hrun.1, hbefore] at hbalanced
  obtain rfl : longest = 35 := by simpa using hbalanced.longest_eq.symm
  exact ⟨by rw [heq, hrun.1], b, h, hrequests, hrun.1, hcalled, hbalanced⟩

end Pool

end PageCrawl
