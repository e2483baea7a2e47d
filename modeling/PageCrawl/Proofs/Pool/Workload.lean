import PageCrawl.Proofs.Pool.Leftovers

/-!
# How workers share a batch

All workers of a pool take from one queue, so nothing in a state says which of them has a request;
it has as many hands as workers are busy.  Three counts of what happened on a path determine when a
request is taken.  Workers took as many requests as were crawled and are in their hands
(`Path.takes_length`), as many calls are over by now as sources came at least
(`Path.crawled_le_finished`), and no time passes while a request waits for anything but a worker
(`Prompt.busy`).  So the request at the place `i` is taken when all but `workers - 1` of the `i`
requests before it are done with, neither before nor after: `Path.taken_at`.

Each call comes one pause after its request was taken, and a call that is over began earlier.  Going
back from a call that is over to the one for whose end its request had to wait takes one pause per
step, which bounds the number of calls that can be over at a time: `Path.finished_late`.
-/

namespace PageCrawl

namespace Pool

variable {pool : Pool} {s t u v : Run} {m : Move} {trail rest : List Transition} {b : Batch}
  {requests : List String}

/-! ## Paths taken apart -/

lemma Path.exists_middle (h : pool.Path s (trail ++ rest) t) :
    ∃ v, pool.Path s trail v ∧ pool.Path v rest t := by
  induction trail generalizing s with
  | nil => exact ⟨s, Path.nil s, h⟩
  | cons st trail ih =>
      cases h with
      | cons hs hp =>
          obtain ⟨v, hfirst, hrest⟩ := ih hp
          exact ⟨v, Path.cons hs hfirst, hrest⟩

lemma Path.at_transition (h : pool.Path s (trail ++ ⟨v, m, u⟩ :: rest) t) :
    pool.Path s trail v ∧ pool.Step v m u ∧ pool.Path u rest t := by
  obtain ⟨_, hfirst, hrest⟩ := h.exists_middle
  cases hrest with
  | cons hs hp => exact ⟨hfirst, hs, hp⟩

/-- **Time goes on by waiting**: on the way from one time to another something waits across every
time between them. -/
lemma Path.exists_wait {n : Nat} (h : pool.Path s trail t) (hs : s.now ≤ n) (hn : n < t.now) :
    ∃ past v w rest, trail = past ++ ⟨v, .wait w, { v with now := w }⟩ :: rest ∧
      pool.Path s past v ∧ pool.Path { v with now := w } rest t ∧ n < w := by
  induction h with
  | nil => omega
  | @cons s u t m trail hstep hp ih =>
      rcases Nat.lt_or_ge n u.now with hlt | hle
      · cases hstep with
        | @wait w ht => exact ⟨[], s, w, trail, rfl, Path.nil s, hp, hlt⟩
        | _ => exact absurd hlt (Nat.not_lt.mpr hs)
      · obtain ⟨past, v, w, rest, rfl, hpast, hrest, hw⟩ := ih hle hn
        exact ⟨⟨s, m, u⟩ :: past, v, w, rest, rfl, Path.cons hstep hpast, hrest, hw⟩

/-! ## Counting -/

/-- How many calls are over at a time. -/
def finished (pool : Pool) (calls : List Beginning) (n : Nat) : Nat :=
  calls.countP fun c => pool.finishOf c ≤ n

lemma finished_append (pool : Pool) (calls calls' : List Beginning) (n : Nat) :
    pool.finished (calls ++ calls') n = pool.finished calls n + pool.finished calls' n :=
  List.countP_append

lemma finished_mono (pool : Pool) {calls calls' : List Beginning} (h : calls.Sublist calls')
    (n : Nat) : pool.finished calls n ≤ pool.finished calls' n :=
  h.countP_le

/-- What is over stays over. -/
lemma finished_le_finished (pool : Pool) (calls : List Beginning) {n n' : Nat} (h : n ≤ n') :
    pool.finished calls n ≤ pool.finished calls n' :=
  List.countP_mono_left fun c _ hle => by
    simp only [decide_eq_true_eq] at hle ⊢
    omega

/-- Of many calls that are over one is late in the list. -/
lemma exists_late {calls : List Beginning} {k n : Nat} (h : k < pool.finished calls n) :
    ∃ j c, k ≤ j ∧ calls[j]? = some c ∧ pool.finishOf c ≤ n := by
  have hsplit := pool.finished_append (calls.take k) (calls.drop k) n
  rw [List.take_append_drop] at hsplit
  have hfirst : pool.finished (calls.take k) n ≤ k :=
    List.countP_le_length.trans (List.length_take_le _ _)
  have hpos : 0 < pool.finished (calls.drop k) n := by omega
  obtain ⟨c, hc, hle⟩ := List.countP_pos_iff.mp hpos
  obtain ⟨j, hj⟩ := List.mem_iff_getElem?.mp hc
  rw [List.getElem?_drop] at hj
  exact ⟨k + j, c, Nat.le_add_right _ _, hj, by simpa using hle⟩

/-- **What workers took was crawled or is in their hands.** -/
lemma Path.takes_length (h : pool.Path (s.begin requests) trail t) :
    (takes trail).length = (crawledAt trail).length + t.hands.length := by
  have hlength := h.served_perm.length_eq
  rw [← map_takes] at hlength
  simpa [Run.begin] using hlength

/-- Calls that are over at a time have given their source by then, or will give it no later. -/
lemma Path.finished_eq (h : pool.Path (s.begin requests) trail t) (hp : pool.Punctual trail)
    (n : Nat) : pool.finished (ownCalls trail) n
      = (crawledAt trail).countP (·.1 ≤ n) + t.owedAt.countP (·.1 ≤ n) := by
  have hcount := (h.crawled_at_begin hp.timely).countP_eq (fun entry => decide (entry.1 ≤ n))
  rw [List.countP_append, List.countP_map] at hcount
  exact hcount.symm

lemma Path.countP_crawledAt (h : pool.Path s trail t) :
    (crawledAt trail).countP (·.1 ≤ t.now) = (crawledAt trail).length := by
  refine List.countP_eq_length.mpr fun entry hm => ?_
  simpa using h.reports_le entry (List.mem_filter.mp hm).1

lemma Path.crawled_le_finished (h : pool.Path (s.begin requests) trail t)
    (hp : pool.Punctual trail) :
    (crawledAt trail).length ≤ pool.finished (ownCalls trail) t.now := by
  rw [h.finished_eq hp, h.countP_crawledAt]
  exact Nat.le_add_right _ _

lemma Path.finished_before {n : Nat} (h : pool.Path s trail t) (hn : n < s.now) :
    pool.finished (ownCalls trail) n = 0 := by
  refine List.countP_eq_zero.mpr fun c hc => ?_
  have hstart := h.le_start c (List.mem_filter.mp hc).1
  have hfinish := start_le_finishOf pool c
  simp only [decide_eq_true_eq]
  omega

/-! ## When a request is taken -/

/-- **While a request waits, time passes only if all workers are busy.** -/
lemma Prompt.busy {w : Nat} (h : pool.Prompt s (.wait w))
    (hle : s.hands.length ≤ pool.config.workers) (hwaits : s.slot.toList ++ s.waiting ≠ []) :
    s.hands.length = pool.config.workers := by
  obtain ⟨hq, -, -⟩ := h.wait
  refine le_antisymm hle (hq.settled ?_)
  by_cases hw : s.waiting = []
  · rw [hw, List.append_nil, ne_eq, Option.toList_eq_nil_iff] at hwaits
    exact Option.isSome_iff_ne_none.mpr hwaits
  · exact (hq.fed hw).2

/-- Nothing that is owed comes before the waiting is over. -/
lemma Prompt.owed_late {w n : Nat} (h : pool.Prompt s (.wait w)) (hn : n < w) :
    s.owedAt.countP (·.1 ≤ n) = 0 := by
  refine List.countP_eq_zero.mpr fun entry hm => ?_
  obtain ⟨hand, hhand, howes⟩ := List.mem_filterMap.mp hm
  have hdue := h.wait.2.2 hand.due (mem_dueTimes_hands hhand)
  obtain ⟨request, stage⟩ := hand
  cases stage with
  | pausing d => cases howes
  | calling k reply d =>
      cases howes
      simp only [Hand.due] at hdue
      simp only [decide_eq_true_eq]
      omega

/-- A worker that takes a request was free. -/
lemma Path.free_at (h : pool.Path (s.begin requests) trail v) (hp : pool.Punctual trail)
    (hf : v.hands.length < pool.config.workers) :
    (takes trail).length < pool.config.workers + pool.finished (ownCalls trail) v.now := by
  have hlength := h.takes_length
  have hfinished := h.crawled_le_finished hp
  omega

/-- **At no time before was any worker free for it.** -/
lemma Path.busy_before {n : Nat} {r : String} (h : pool.Path (s.begin requests) trail v)
    (hp : pool.Punctual trail) (hc : v.cancelled = false) (hslot : v.slot = some r)
    (hs : s.now ≤ n) (hn : n < v.now) :
    pool.config.workers + pool.finished (ownCalls trail) n ≤ (takes trail).length := by
  obtain ⟨past, x, w, rest, rfl, hpast, hrest, hw⟩ := h.exists_wait hs hn
  obtain ⟨hpunctual, hlast⟩ := punctual_append.mp hp
  have hprompt : pool.Prompt x (.wait w) := (punctual_cons.mp hlast).1
  -- the request that is taken in `v` waited in `x` already
  have hwaits : x.slot.toList ++ x.waiting ≠ [] := by
    have heq := hrest.taken_eq fun st hst => ((hrest.uncancelled hc).2 st hst).1
    simp only [hslot] at heq
    simp [heq]
  have hbusy := hprompt.busy hpast.hands_le hwaits
  have howed : x.owedAt.countP (·.1 ≤ n) = 0 := hprompt.owed_late hw
  have hlater : pool.finished (ownCalls rest) n = 0 := hrest.finished_before hw
  have hlength := hpast.takes_length
  have hcount := hpast.finished_eq hpunctual n
  have hsources : (crawledAt past).countP (·.1 ≤ n) ≤ (crawledAt past).length :=
    List.countP_le_length
  have hown : ownCalls (past ++ ⟨x, .wait w, { x with now := w }⟩ :: rest)
      = ownCalls past ++ ownCalls rest := by
    simp [Transition.call?]
  rw [hown, finished_append, takes_append, List.length_append]
  omega

lemma exists_take {i : Nat} {p : Nat × String} (h : (takes trail)[i]? = some p) :
    ∃ past st rest, trail = past ++ st :: rest ∧ (takes past).length = i ∧
      st.take? = some p := by
  obtain ⟨hi, hget⟩ := List.getElem?_eq_some_iff.mp h
  have hsplit : takes trail = (takes trail).take i ++ p :: (takes trail).drop (i + 1) := by
    rw [← hget, List.cons_getElem_drop_succ, List.take_append_drop]
  obtain ⟨first, second, rfl, hfirst, hsecond⟩ := List.filterMap_eq_append_iff.mp hsplit
  obtain ⟨skipped, st, rest, rfl, hskipped, hst, -⟩ := List.filterMap_eq_cons_iff.mp hsecond
  refine ⟨first ++ skipped, st, rest, by simp, ?_, hst⟩
  have hnil : takes skipped = [] := List.filterMap_eq_nil_iff.mpr hskipped
  have hlength := congrArg List.length hfirst
  rw [takes_append, hnil, List.append_nil]
  simp only [List.length_take] at hlength
  rw [takes, hlength]
  omega

lemma Step.of_taken {r : String} (h : pool.Step s m t)
    (hr : Transition.taken? ⟨s, m, t⟩ = some r) :
    s.cancelled = false ∧ s.slot = some r ∧ s.hands.length < pool.config.workers := by
  cases h with
  | take hc hs hf =>
      simp only [Transition.taken?, hc] at hr
      exact ⟨hc, hr, hf⟩
  | refuse hc => simp [Transition.taken?, hc] at hr
  | _ => simp [Transition.taken?] at hr

/-- **A request is taken at the earliest time at which a worker is free**: of the calls for requests
before it so many are over that fewer are left than there are workers. -/
lemma Path.taken_at {i : Nat} {p : Nat × String} (h : pool.Path (s.begin requests) trail t)
    (hp : pool.Punctual trail) (hi : (takes trail)[i]? = some p) :
    IsLeast {n | s.now ≤ n ∧
      i < pool.config.workers + pool.finished ((ownCalls trail).take i) n} p.1 := by
  obtain ⟨past, ⟨v, m, u⟩, rest, rfl, hlength, htake⟩ := exists_take hi
  obtain ⟨hpunctual, -⟩ := punctual_append.mp hp
  obtain ⟨hpast, hstep, hlater⟩ := h.at_transition
  obtain ⟨r, htaken, rfl⟩ := Option.map_eq_some_iff.mp htake
  obtain ⟨hc, hslot, hf⟩ := hstep.of_taken htaken
  have hcalls : (ownCalls past).length ≤ i := by
    have hcalled := congrArg List.length (hpast.called_at_begin hpunctual)
    simp only [List.length_append, List.length_map] at hcalled
    omega
  -- calls that begin after the request was taken are not over before
  have hprefix : ownCalls past <+: (ownCalls (past ++ ⟨v, m, u⟩ :: rest)).take i := by
    rw [List.prefix_take_iff, ownCalls_append]
    exact ⟨List.prefix_append _ _, hcalls⟩
  refine ⟨⟨hpast.now_mono, ?_⟩, ?_⟩
  · have hfree := hpast.free_at hpunctual hf
    have hmono := pool.finished_mono hprefix.sublist v.now
    simp only
    omega
  · rintro n ⟨hs, hfree⟩
    by_contra hlt
    have hn : n < v.now := Nat.lt_of_not_le hlt
    have hbusy := hpast.busy_before hpunctual hc hslot hs hn
    have hmono := pool.finished_mono
      (List.take_sublist i (ownCalls (past ++ ⟨v, m, u⟩ :: rest))) n
    have hnone := (Path.cons hstep hlater).finished_before hn
    rw [ownCalls_append, finished_append, hnone] at hmono
    rw [ownCalls_append] at hfree
    omega

/-! ## How long it takes -/

/-- **Calls are not over before the pauses that precede them are**: for every `workers` calls one
pause has to be made. -/
lemma Path.finished_late (h : pool.Path (s.begin requests) trail t) (hp : pool.Punctual trail) :
    ∀ (k n : Nat), k < pool.finished (ownCalls trail) n →
      s.now + (k / pool.config.workers + 1) * pool.config.delay ≤ n := by
  intro k
  induction k using Nat.strong_induction_on with
  | _ k ih =>
      intro n hk
      obtain ⟨j, c, hj, hc, hfinish⟩ := exists_late hk
      obtain ⟨p, htake, hstart⟩ := h.start_eq hp hc
      obtain ⟨⟨hbegin, hfree⟩, -⟩ := h.taken_at hp htake
      have hover := start_le_finishOf pool c
      have hpos := pool.config.workers_pos
      rcases Nat.lt_or_ge k pool.config.workers with hlt | hge
      · rw [Nat.div_eq_of_lt hlt]
        omega
      · -- the request had to wait for the end of a call `workers` places before
        have hmono := pool.finished_mono (List.take_sublist j (ownCalls trail)) p.1
        have hearlier := ih (k - pool.config.workers) (by omega) p.1 (by omega)
        have hdiv : k / pool.config.workers
            = (k - pool.config.workers) / pool.config.workers + 1 :=
          Nat.div_eq_sub_div hpos hge
        rw [hdiv, Nat.add_mul _ 1, Nat.one_mul]
        omega

/-- **By a time only so many sources of crawled requests have come.** -/
lemma Path.time_le {n : Nat} (h : pool.Path (s.begin requests) trail t) (hp : pool.Punctual trail)
    (hn : s.now ≤ n) :
    s.now + ((crawledAt trail).countP (·.1 ≤ n) ⌈/⌉ pool.config.workers) * pool.config.delay
      ≤ n := by
  have hcount := h.finished_eq hp n
  have hpos := pool.config.workers_pos
  generalize (crawledAt trail).countP (·.1 ≤ n) = k at hcount ⊢
  cases k with
  | zero => simpa using hn
  | succ k =>
      have hlate := h.finished_late hp k n (by omega)
      have hceil : (k + 1) ⌈/⌉ pool.config.workers = k / pool.config.workers + 1 := by
        rw [Nat.ceilDiv_eq_add_pred_div, ← Nat.add_div_right k hpos]
        congr 1
        omega
      rw [hceil]
      exact hlate

/-! ## The batch -/

/-- **How a batch is served** by a number of workers, each of which pauses before every request. -/
structure Served (pool : Pool) (workers delay : Nat) (b : Batch) : Prop where
  /-- At every moment at most so many requests are taken and not reported yet as there are
  workers. -/
  under_way : ∀ past rest, b.trail = past ++ rest → ∃ held : List String,
    (taken past).Perm ((crawledAt past).map (·.2.request) ++ held) ∧ held.length ≤ workers
  /-- Workers take the requests out of the queue in the order of the batch, and crawl those that
  they take before the pool is cancelled. -/
  in_order : taken b.trail <+: received b.trail ∧ received b.trail <+: b.requests
  /-- No time passes while a request waits and a worker has none. -/
  no_idling : ∀ st ∈ b.trail, st.before.now < st.after.now →
    st.before.slot.toList ++ st.before.waiting ≠ [] → st.before.hands.length = workers
  /-- Each is taken at the earliest time at which a worker is free for it. -/
  taken_at : ∀ i p, (takes b.trail)[i]? = some p → IsLeast {n | b.before.now ≤ n ∧
    i < workers + pool.finished ((ownCalls b.trail).take i) n} p.1
  /-- Its call begins one pause after it was taken, unless the batch is dropped during the pause,
  and its source comes at the end of the call. -/
  called_at : (ownCalls b.trail).map Beginning.at ++ b.last.pauses
    = (takes b.trail).map fun p => (p.1 + delay, p.2)
  crawled_at : (crawledAt b.trail ++ b.last.owedAt).Perm
    ((ownCalls b.trail).map fun c => (pool.finishOf c, pool.answer c))
  /-- So calls begin in the order of the batch. -/
  calls_in_order : (ownCalls b.trail).map (·.request) <+: b.requests ∧
    ((ownCalls b.trail).map (·.start)).Pairwise (· ≤ ·)
  /-- For every `workers` requests that are crawled one pause goes by. -/
  time_le : ∀ n, b.before.now ≤ n →
    b.before.now + ((crawledAt b.trail).countP (·.1 ≤ n) ⌈/⌉ workers) * delay ≤ n

lemma Path.calls_in_order (h : pool.Path (s.begin requests) trail t) (hp : pool.Punctual trail) :
    (ownCalls trail).map (·.request) <+: requests ∧
      ((ownCalls trail).map (·.start)).Pairwise (· ≤ ·) := by
  have hcalled := h.called_at_begin hp
  constructor
  · have hrequests := congrArg (List.map Prod.snd) hcalled
    have hmap : (fun p : Nat × String => (p.1 + pool.config.delay, p.2).2) = (·.2) := rfl
    rw [List.map_append, List.map_map, List.map_map, Function.comp_def, Function.comp_def, hmap,
      map_takes] at hrequests
    have htaken := h.taken_isPrefix
    rw [← hrequests] at htaken
    exact (List.prefix_append _ _).trans (by simpa [Run.begin, Beginning.at] using htaken)
  · have hstarts := congrArg (List.map Prod.fst) hcalled
    rw [List.map_append, List.map_map, List.map_map] at hstarts
    have hsorted : ((takes trail).map (Prod.fst ∘ fun p => (p.1 + pool.config.delay, p.2))).Pairwise
        (· ≤ ·) := by
      have htakes := h.takes_sorted
      rw [List.pairwise_map] at htakes ⊢
      exact htakes.imp fun hle => Nat.add_le_add_right hle _
    rw [← hstarts, List.pairwise_append] at hsorted
    exact hsorted.1

lemma Dispatched.served (h : pool.Dispatched b) :
    pool.Served pool.config.workers pool.config.delay b where
  under_way past rest hsplit := by
    have hp := h.path
    rw [hsplit] at hp
    obtain ⟨v, hpast, -⟩ := hp.exists_middle
    refine ⟨v.hands.map (·.request), by simpa [Run.begin] using hpast.served_perm, ?_⟩
    rw [List.length_map]
    exact hpast.hands_le
  in_order := by simpa [Run.begin] using h.path.received_isPrefix
  taken_at _ _ hi := h.path.taken_at h.punctual hi
  no_idling st hst hlt hwaits := by
    obtain ⟨v, m, u⟩ := st
    obtain ⟨past, rest, hsplit⟩ := List.append_of_mem hst
    have hp := h.path
    rw [hsplit] at hp
    obtain ⟨hpast, hstep, -⟩ := hp.at_transition
    cases hstep with
    | wait ht => exact (h.punctual _ hst).busy hpast.hands_le hwaits
    | _ => exact absurd hlt (Nat.lt_irrefl _)
  called_at := h.path.called_at_begin h.punctual
  crawled_at := h.path.crawled_at_begin h.punctual.timely
  calls_in_order := h.path.calls_in_order h.punctual
  time_le _ hn := h.path.time_le h.punctual hn

lemma crawledAt_sources (trail : List Transition) : (crawledAt trail).map (·.2)
    = ((reports trail).map (·.2)).filter (!·.isCancelled) := by
  rw [crawledAt, List.filter_map]
  rfl

/-- The requests of a batch that are not cancelled are those that workers took to crawl them. -/
lemma Dispatched.crawled_perm {d : Dispatch} (h : pool.Dispatched b) (hr : b.result = some d) :
    ((d.results.filter (!·.isCancelled)).map (·.request)).Perm (taken b.trail) ∧
      (crawledAt b.trail).length = d.results.countP (!·.isCancelled) := by
  obtain ⟨-, hd, rfl⟩ := h.awaited d hr
  have hserved := h.path.served_perm
  rw [(isDone_iff.mp hd).2.2] at hserved
  rw [List.countP_eq_length_filter, h.path.reported_begin, ← crawledAt_sources, List.length_map,
    List.map_map]
  exact ⟨by simpa [Run.begin, Function.comp_def] using hserved.symm, rfl⟩

/-- **Requests are served in the order of the batch, as soon as a worker is free.**

A pool with `workers` workers, or with one if there should be none, serves every batch alike, from
whatever state and until its end or its drop.  At every moment at most so many requests are in the
hands of workers.  They are taken in the order of the batch, each as soon as any worker is free, and
its call begins one pause later.  The requests that do not come back as cancelled are those that
were taken, and for every `workers` of them one pause goes by. -/
theorem requests_served_in_order (workers delay : Nat) (crawler : Crawler)
    (cancelAt : Option Nat) :
    let pool : Pool := ⟨.new workers delay, crawler, cancelAt⟩
    (∀ limit requests s, ∃ b : Batch, pool.Dispatched b ∧ b.before = s ∧ b.requests = requests ∧
      b.limit = limit) ∧
    ∀ b, pool.Dispatched b → pool.Served (max workers 1) delay b ∧
      ∀ d, b.result = some d →
        ((d.results.filter (!·.isCancelled)).map (·.request)).Perm (taken b.trail) ∧
        b.before.now + (d.results.countP (!·.isCancelled) ⌈/⌉ max workers 1) * delay
          ≤ b.after.now := by
  intro pool
  have hworkers : pool.config.workers = max workers 1 := max_comm 1 workers
  refine ⟨fun limit requests s => ?_, fun b h => ?_⟩
  · obtain ⟨b, h, -, hbefore, hrequests, hlimit⟩ := exists_batch pool limit requests s
    exact ⟨b, h, hbefore, hrequests, hlimit⟩
  · have hserved := h.served
    rw [hworkers] at hserved
    refine ⟨hserved, fun d hr => ?_⟩
    obtain ⟨hperm, hcount⟩ := h.crawled_perm hr
    have htime := hserved.time_le b.last.now h.path.now_mono
    have hall : (crawledAt b.trail).countP (·.1 ≤ b.last.now) = (crawledAt b.trail).length :=
      h.path.countP_crawledAt
    rw [hall, hcount] at htime
    rw [Batch.after_now]
    exact ⟨hperm, htime⟩

/-- Of five requests the last one is in the queue when the pool is cancelled, while one worker makes
a call and the other one pauses. -/
theorem requests_served_in_order_cancelled :
    let pool : Pool := ⟨.new 2 2, Crawler.ofScripts
      [("a", [{ duration := 5, ending := .page "A" }]),
       ("b", [{ duration := 1, ending := .error ["b"] }]),
       ("c", [{ duration := 1, ending := .page "C" }])], some 7⟩
    let requests := ["a", "b", "c", "d", "e"]
    let results : List PageSource :=
      [⟨"b", .failed "b"⟩, ⟨"c", .page "C"⟩, ⟨"a", .page "A"⟩, ⟨"e", .cancelled⟩, ⟨"d", .page "d"⟩]
    (pool.dispatch none requests {}).2 = some ⟨results, some (.cancelled "e")⟩ ∧
    ∃ b : Batch, pool.Dispatched b ∧ b.requests = requests ∧ pool.Served 2 2 b ∧
      ["b", "c", "a", "d"].Perm (taken b.trail) ∧ (4 ⌈/⌉ 2) * 2 ≤ b.after.now := by
  intro pool requests results
  have hrun : (pool.dispatch none requests {}).2
      = some ⟨results, some (.cancelled "e")⟩ := by
    decide +kernel
  obtain ⟨hexists, hall⟩ := requests_served_in_order 2 2 pool.crawler pool.cancelAt
  obtain ⟨b, h, hbefore, hrequests, hlimit⟩ := hexists none requests {}
  have hr : b.result = some ⟨results, some (.cancelled "e")⟩ := by
    have heq := congrArg Prod.snd h.dispatch_eq
    rw [hbefore, hrequests, hlimit] at heq
    exact heq.symm.trans hrun
  obtain ⟨hserved, hresults⟩ := hall b h
  obtain ⟨hperm, htime⟩ := hresults _ hr
  have hcount : results.countP (!·.isCancelled) = 4 := by decide
  rw [hbefore, hcount] at htime
  exact ⟨hrun, b, h, hrequests, hserved, hperm, by simpa using htime⟩

end Pool

end PageCrawl
