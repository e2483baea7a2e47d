import PageCrawl.Proofs.Pool.Makespan

/-!
# A single worker

A pool with one worker has a feeder, a queue and a worker, and yet it does what a plain loop does:
`Crawler.serial` goes through the requests one after the other, pauses, calls and writes down the
outcome.

**Calls.**  The worker takes the next request when the call before it is over
(`Path.start_single`), so the calls of a batch are those of the loop, for as many requests as were
called (`Path.visits_eq`).

**Sources.**  One worker has one request in its hands, so sources come in the order of the calls,
each at the end of its call (`Path.crawledAt_single`).

**Cancellation.**  A pool is cancelled from outside or by one of its calls, and with one worker that
is a call of the loop (`Canceller`).  While the worker has a request in its hands, the next one is
in the queue, and the others are with the feeder.  If the pool is cancelled now, the feeder reports
what it holds; the worker ends its call, reports it, and reports then what is in the queue
(`Path.reported_single`).  So the request that comes next is the last one to be reported.  Which
request the worker has is known from the times of the loop (`Path.in_hand`), or it is the one whose
call cancels the pool when it begins (`Path.reported_begins`).
-/

namespace PageCrawl

/-! ## The plain loop -/

/-- A call in the plain loop. -/
structure Visit where
  source : PageSource
  /-- Its number among the calls for its request. -/
  attempt : Nat
  start : Nat
  duration : Nat
  /-- Whether it cancels the pool when it begins, and goes on. -/
  cancelsAtStart : Bool
  /-- Whether it cancels the pool at all. -/
  cancels : Bool
deriving Repr, DecidableEq

namespace Visit

/-- When the call is over. -/
def finish (v : Visit) : Nat := v.start + v.duration

/-- What the log says of the call when it begins. -/
def key (v : Visit) : String × Nat × Nat := (v.source.request, v.attempt, v.start)

end Visit

namespace Crawler

/-- **The plain loop**: for every request a pause, then its call.  It goes on from a time at which
calls for the given requests have been made, the latest first. -/
def serial (crawler : Crawler) (delay : Nat) : Nat → List String → List String → List Visit
  | _, _, [] => []
  | now, called, r :: rest =>
    let reply := crawler called r
    let duration := if reply.atCall then 0 else reply.duration
    ⟨⟨r, reply.ending.outcome⟩, called.count r + 1, now + delay, duration,
        !reply.atCall && reply.cancelsAtStart, reply.mayCancel⟩ ::
      serial crawler delay (now + delay + duration) (r :: called) rest

variable {crawler : Crawler} {delay : Nat}

lemma serial_requests : ∀ (now : Nat) (called requests : List String),
    (crawler.serial delay now called requests).map (·.source.request) = requests
  | _, _, [] => rfl
  | _, _, r :: rest => congrArg (r :: ·) (serial_requests _ _ rest)

lemma serial_length : ∀ (now : Nat) (called requests : List String),
    (crawler.serial delay now called requests).length = requests.length
  | _, _, [] => rfl
  | _, _, _ :: rest => congrArg (· + 1) (serial_length _ _ rest)

/-- The loop over the first requests is the beginning of the loop. -/
lemma serial_take : ∀ (n now : Nat) (called requests : List String),
    crawler.serial delay now called (requests.take n)
      = (crawler.serial delay now called requests).take n
  | 0, _, _, _ => rfl
  | _ + 1, _, _, [] => rfl
  | n + 1, _, _, _ :: rest => congrArg (_ :: ·) (serial_take n _ _ rest)

/-- **A call begins after the pauses and calls for the requests before it**, and its own pause. -/
lemma serial_start : ∀ (i now : Nat) (called requests : List String) (v : Visit),
    (crawler.serial delay now called requests)[i]? = some v → v.start = now
      + (((crawler.serial delay now called requests).take i).map fun w => delay + w.duration).sum
      + delay
  | _, _, _, [], _, h => by simp [serial] at h
  | 0, _, _, _ :: _, _, h => by
      rw [serial, List.getElem?_cons_zero, Option.some.injEq] at h
      rw [← h]
      rfl
  | i + 1, now, called, r :: rest, v, h => by
      have hrest := serial_start i _ _ rest v h
      rw [hrest, serial, List.take_succ_cons, List.map_cons, List.sum_cons]
      simp only [Nat.add_assoc]

/-- The pause before a call begins when the calls before it are over. -/
lemma finish_le_start {now i k : Nat} {called requests : List String} {v w : Visit}
    (hw : (crawler.serial delay now called requests)[i]? = some w)
    (hv : (crawler.serial delay now called requests)[k]? = some v) (hlt : i < k) :
    w.finish + delay ≤ v.start := by
  have hstart := serial_start i now called requests w hw
  have hstart' := serial_start k now called requests v hv
  have hsub := (List.take_sublist_take_left (l := crawler.serial delay now called requests)
    (Nat.succ_le_of_lt hlt)).map fun w => delay + w.duration
  rw [List.take_add_one, hw] at hsub
  have hle := hsub.sum_le_sum fun _ _ => Nat.zero_le _
  simp only [Option.toList_some, List.map_append, List.map_cons, List.map_nil, List.sum_append,
    List.sum_cons, List.sum_nil, Nat.add_zero] at hle
  rw [Visit.finish]
  omega

end Crawler

namespace Pool

variable {pool : Pool} {s t u : Run} {m : Move} {trail : List Transition} {requests : List String}
  {c : Beginning}

/-! ## Calls -/

/-- A call as the plain loop has it. -/
def visit (pool : Pool) (c : Beginning) : Visit :=
  ⟨pool.answer c, c.attempt, c.start,
    if (pool.replyTo c).atCall then 0 else (pool.replyTo c).duration,
    !(pool.replyTo c).atCall && (pool.replyTo c).cancelsAtStart, (pool.replyTo c).mayCancel⟩

/-- The calls of a batch in the plain loop. -/
def visits (pool : Pool) (s : Run) (requests : List String) : List Visit :=
  pool.crawler.serial pool.config.delay s.now s.called requests

lemma visits_length (pool : Pool) (s : Run) (requests : List String) :
    (pool.visits s requests).length = requests.length :=
  Crawler.serial_length _ _ _

/-- When the last one of some calls is over that are made one after the other. -/
def endOf (pool : Pool) (now : Nat) (calls : List Beginning) : Nat :=
  calls.foldl (fun _ c => pool.finishOf c) now

@[simp] lemma endOf_concat (pool : Pool) (now : Nat) (calls : List Beginning) (c : Beginning) :
    pool.endOf now (calls ++ [c]) = pool.finishOf c := by
  simp [endOf]

/-- **A single worker takes a request when the call before it is over.** -/
lemma Path.start_single {i : Nat} (h : pool.Path (s.begin requests) trail t)
    (hp : pool.Punctual trail) (hw : pool.config.workers = 1)
    (hc : (ownCalls trail)[i]? = some c) :
    c.start = pool.endOf s.now ((ownCalls trail).take i) + pool.config.delay := by
  obtain ⟨n, hstart, ⟨hn, hfree⟩, hleast⟩ := h.begun_at hp hc
  rw [hw] at hfree hleast
  rw [hstart]
  congr 1
  cases i with
  | zero => exact le_antisymm (hleast ⟨le_rfl, Nat.add_pos_left Nat.one_pos _⟩) hn
  | succ i =>
      have hi : i < (ownCalls trail).length := by
        have := (List.getElem?_eq_some_iff.mp hc).1
        omega
      have hprev : (ownCalls trail)[i]? = some (ownCalls trail)[i] := List.getElem?_eq_getElem hi
      generalize (ownCalls trail)[i] = p at hprev
      obtain ⟨n', hstart', ⟨hn', hfree'⟩, -⟩ := h.begun_at hp hprev
      have hover := start_le_finishOf pool p
      have hone : ∀ n, pool.finished [p] n = if pool.finishOf p ≤ n then 1 else 0 := fun n => by
        simp [finished, List.countP_cons]
      have hlength : pool.finished ((ownCalls trail).take i) n ≤ i :=
        List.countP_le_length.trans (List.length_take_le _ _)
      rw [List.take_add_one, hprev, Option.toList_some] at hfree hleast ⊢
      rw [finished_append, hone] at hfree
      rw [endOf_concat]
      -- the request waits for the end of the call before it, and for nothing else
      refine le_antisymm (hleast ⟨by omega, ?_⟩) ?_
      · have hlater := pool.finished_le_finished ((ownCalls trail).take i)
          (by omega : n' ≤ pool.finishOf p)
        rw [finished_append, hone, if_pos (Nat.le_refl _)]
        rw [hw] at hfree'
        omega
      · by_contra hlt
        rw [if_neg hlt] at hfree
        omega

/-- **Calls made one after the other are those of the plain loop.** -/
lemma serial_of_calls (pool : Pool) : ∀ (calls : List Beginning) (now : Nat) (called : List String),
    (∀ i c, calls[i]? = some c → c.earlier = ((calls.take i).map (·.request)).reverse ++ called ∧
      c.start = pool.endOf now (calls.take i) + pool.config.delay) →
    calls.map pool.visit
      = pool.crawler.serial pool.config.delay now called (calls.map (·.request))
  | [], _, _, _ => rfl
  | c :: calls, now, called, h => by
      obtain ⟨hearlier, hstart⟩ := h 0 c rfl
      have hearlier : c.earlier = called := hearlier
      have hstart : c.start = now + pool.config.delay := hstart
      have hrest := serial_of_calls pool calls (pool.finishOf c) (c.request :: called)
        fun i c' hc' => by
          obtain ⟨hearlier', hstart'⟩ := h (i + 1) c' hc'
          exact ⟨by simpa using hearlier', hstart'⟩
      rw [List.map_cons, List.map_cons, Crawler.serial, hrest, visit, answer, replyTo, hearlier,
        finishOf, replyTo, hearlier, hstart, Beginning.attempt, hearlier]

/-- **The calls of a single worker are the first ones of the plain loop.** -/
lemma Path.visits_eq (h : pool.Path (s.begin requests) trail t) (hp : pool.Punctual trail)
    (hw : pool.config.workers = 1) (hs : s.strays = []) :
    (ownCalls trail).map pool.visit = (pool.visits s requests).take (ownCalls trail).length := by
  have hserial : (ownCalls trail).map pool.visit
      = pool.visits s ((ownCalls trail).map (·.request)) := by
    refine pool.serial_of_calls _ _ _ fun i c hc => ⟨?_, h.start_single hp hw hc⟩
    rw [h.calls_own hs] at hc ⊢
    exact h.earlier_eq hc
  have hprefix := List.prefix_iff_eq_take.mp (h.calls_in_order hp).1
  rw [List.length_map] at hprefix
  rw [hserial, hprefix]
  exact Crawler.serial_take _ _ _ _

/-! ## Sources -/

lemma eq_singleton {α : Type} {xs : List α} {i : Nat} {x : α} (h : xs[i]? = some x)
    (hle : xs.length ≤ 1) : i = 0 ∧ xs = [x] := by
  obtain ⟨hi, rfl⟩ := List.getElem?_eq_some_iff.mp h
  obtain rfl : i = 0 := by omega
  obtain ⟨y, rfl⟩ := List.length_eq_one_iff.mp (by omega : xs.length = 1)
  exact ⟨rfl, rfl⟩

/-- **A single worker reports the source of a call before it makes another one.** -/
lemma Step.crawledAt_single (h : pool.Step s m t) (hle : s.hands.length ≤ 1)
    (he : Early s.now s.hands) :
    crawledAt [⟨s, m, t⟩] ++ t.owedAt
      = s.owedAt ++ (ownCalls [⟨s, m, t⟩]).map fun c => (pool.finishOf c, pool.answer c) := by
  rw [crawledAt_singleton]
  cases h with
  | @call i d r hh hd ha =>
      obtain ⟨rfl, hone⟩ := eq_singleton hh hle
      have hreply : pool.replyTo ⟨r, s.now, s.called, true⟩ = pool.crawler s.called r := rfl
      rw [ownCalls_pausing hh]
      simp [Run.owedAt, Run.beginCall, hone, List.filterMap_cons, Hand.owedAt?, finishOf, answer,
        hreply, ha]
  | @breakDown i d r hh hd ha =>
      obtain ⟨rfl, hone⟩ := eq_singleton hh hle
      have hreply : pool.replyTo ⟨r, s.now, s.called, true⟩ = pool.crawler s.called r := rfl
      rw [ownCalls_pausing hh]
      simp [Run.owedAt, Run.beginCall, Run.report, hone, List.filterMap_cons, Hand.owedAt?,
        PageSource.isCancelled_outcome, finishOf, answer, hreply, ha]
  | @finish i k d r reply hh hd =>
      obtain rfl : d = s.now := he.due_eq hh hd
      obtain ⟨rfl, hone⟩ := eq_singleton hh hle
      rw [ownCalls_calling hh]
      simp [Run.owedAt, Run.endCall, Run.report, hone, Hand.owedAt?, PageSource.isCancelled_outcome]
  | strayCall | strayBreakDown | strayFinish =>
      rw [ownCalls_strayOn]
      simp [Run.owedAt, Run.beginCall, Run.endCall]
  | take hc hs hf => simp [Run.owedAt, List.filterMap_cons, Hand.owedAt?, Transition.call?]
  | giveUp | refuse => simp [Run.owedAt, Run.report, Transition.call?]
  | cancel | feed | wait => simp [Run.owedAt, Transition.call?]

lemma Path.crawledAt_single (h : pool.Path s trail t) (hp : pool.Punctual trail)
    (hw : pool.config.workers = 1) (hle : s.hands.length ≤ 1) (he : Early s.now s.hands) :
    crawledAt trail ++ t.owedAt
      = s.owedAt ++ (ownCalls trail).map fun c => (pool.finishOf c, pool.answer c) := by
  induction h with
  | nil => simp
  | @cons s u t m trail hs hpath ih =>
      rw [punctual_cons] at hp
      have hle' : u.hands.length ≤ 1 := hw ▸ hs.hands_le (hw ▸ hle)
      rw [crawledAt_split, ownCalls_split, List.map_append, List.append_assoc,
        ih hp.2 hle' (hs.early_hands hp.1.wakeful he), ← List.append_assoc,
        hs.crawledAt_single hle he, List.append_assoc]

/-- At the end of a batch all sources are those of its calls, at their ends, in their order. -/
lemma Path.crawledAt_done (h : pool.Path (s.begin requests) trail t) (hp : pool.Punctual trail)
    (hw : pool.config.workers = 1) (hd : t.isDone = true) :
    crawledAt trail = (ownCalls trail).map fun c => (pool.finishOf c, pool.answer c) := by
  have hsingle := h.crawledAt_single hp hw (Nat.zero_le 1) (early_begin s requests)
  rwa [owedAt_of_isDone hd, List.append_nil] at hsingle

lemma Path.crawled_done (h : pool.Path (s.begin requests) trail t) (hp : pool.Punctual trail)
    (hw : pool.config.workers = 1) (hd : t.isDone = true) :
    t.reported.filter (!·.isCancelled) = (ownCalls trail).map pool.answer := by
  rw [h.reported_begin, ← crawledAt_sources, h.crawledAt_done hp hw hd, List.map_map]
  rfl

/-- The log of a batch in a pool without strays. -/
lemma Path.log_visits (h : pool.Path s trail t) (hs : s.strays = []) :
    t.calls.map Call.key
      = (((ownCalls trail).map pool.visit).map Visit.key).reverse ++ s.calls.map Call.key := by
  rw [h.log_eq, h.calls_own hs, List.map_map]
  rfl

/-! ## Calls under way -/

/-- A call under way for the request in a worker's hands is one of the given calls. -/
def UnderWay (pool : Pool) (calls : List Beginning) (hand : Hand) : Prop :=
  ∀ k reply d, hand.stage = .calling k reply d → ∃ c ∈ calls,
    (pool.replyTo c).atCall = false ∧ pool.replyTo c = reply ∧ pool.finishOf c = d

lemma UnderWay.mono {calls calls' : List Beginning} {hand : Hand} (h : pool.UnderWay calls hand)
    (hsub : calls ⊆ calls') : pool.UnderWay calls' hand := fun k reply d heq =>
  have ⟨c, hc, hcall⟩ := h k reply d heq
  ⟨c, hsub hc, hcall⟩

lemma Step.underWay {calls : List Beginning} (h : pool.Step s m t)
    (hs : ∀ hand ∈ s.hands, pool.UnderWay calls hand) :
    ∀ hand ∈ t.hands, pool.UnderWay (calls ++ ownCalls [⟨s, m, t⟩]) hand := by
  intro hand hm
  have hold (hmem : hand ∈ s.hands) : pool.UnderWay (calls ++ ownCalls [⟨s, m, t⟩]) hand :=
    (hs hand hmem).mono (List.subset_append_left _ _)
  cases h with
  | @call i d r hh hd ha =>
      rcases List.mem_or_eq_of_mem_set hm with hmem | rfl
      · exact hold hmem
      · intro k reply d' heq
        cases heq
        refine ⟨⟨r, s.now, s.called, true⟩, by simp [ownCalls_pausing hh], ha, rfl, ?_⟩
        simp [finishOf, replyTo, ha]
  | take hc hs hf =>
      rcases List.mem_append.mp hm with hmem | hmem
      · exact hold hmem
      · obtain rfl := List.mem_singleton.mp hmem
        intro k reply d heq
        cases heq
  | breakDown | finish => exact hold (List.mem_of_mem_eraseIdx hm)
  | _ => exact hold hm

lemma Path.underWay {calls : List Beginning} (h : pool.Path s trail t)
    (hs : ∀ hand ∈ s.hands, pool.UnderWay calls hand) :
    ∀ hand ∈ t.hands, pool.UnderWay (calls ++ ownCalls trail) hand := by
  induction h generalizing calls with
  | nil => simpa using hs
  | cons hstep _ ih =>
      rw [ownCalls_split, ← List.append_assoc]
      exact ih (hstep.underWay hs)

/-- **The call that a single worker begins** is the next one of the loop. -/
lemma Path.visits_next {past : List Transition} {v : Run} {i d : Nat} {r : String}
    (hpast : pool.Path (s.begin requests) past v) (hstep : pool.Step v (.goOn i) u)
    (hp : pool.Punctual (past ++ [⟨v, .goOn i, u⟩])) (hw : pool.config.workers = 1)
    (hs : s.strays = []) (hh : v.hands[i]? = some ⟨r, .pausing d⟩) :
    (pool.visits s requests)[(ownCalls past).length]?
      = some (pool.visit ⟨r, v.now, v.called, true⟩) := by
  have hall := (hpast.append (Path.cons hstep (Path.nil u))).visits_eq hp hw hs
  rw [ownCalls_append, ownCalls_pausing hh, List.map_append, List.length_append] at hall
  have hplace := congrArg (·[(ownCalls past).length]?) hall
  rw [List.getElem?_append_right (by simp), List.getElem?_take_of_lt (by simp)] at hplace
  simpa using hplace.symm

/-- **Who cancels a single worker**: the transition that follows the path `past`. -/
inductive Canceller (pool : Pool) (s : Run) (requests : List String) (past : List Transition) :
    Transition → Prop
  /-- Somebody outside. -/
  | outside (v : Run) : Canceller pool s requests past ⟨v, .cancel, { v with cancelled := true }⟩
  /-- A call of the loop that is over with it. -/
  | ended {v u : Run} {i j : Nat} {w : Visit} (hv : (pool.visits s requests)[j]? = some w)
      (hc : w.cancels = true) (hover : w.finish ≤ v.now)
      (hj : j < (ownCalls past).length ∨ j = (ownCalls past).length ∧ w.cancelsAtStart = false) :
      Canceller pool s requests past ⟨v, .goOn i, u⟩
  /-- A call of the loop that begins and goes on. -/
  | begins {v u : Run} {i : Nat} {w : Visit}
      (hv : (pool.visits s requests)[(ownCalls past).length]? = some w) (hc : w.cancels = true)
      (hstart : w.start = v.now) (hone : v.hands.length = 1 ∧ u.hands.length = 1)
      (hpause : (pausing v).length = 1) (hslot : u.slot = v.slot) (hwaiting : u.waiting = v.waiting)
      (hreported : u.reported = v.reported) : Canceller pool s requests past ⟨v, .goOn i, u⟩

lemma Path.exists_canceller (h : pool.Path (s.begin requests) trail t) (hn : pool.Scheduled trail)
    (hw : pool.config.workers = 1) (hs : Clear s) (ht : t.cancelled = true) :
    ∃ past v m u after, trail = (past ++ [⟨v, m, u⟩]) ++ after ∧
      pool.Path (s.begin requests) past v ∧ pool.Step v m u ∧ pool.Path u after t ∧
      v.cancelled = false ∧ u.cancelled = true ∧ pool.Next v m ∧
      pool.Canceller s requests past ⟨v, m, u⟩ := by
  obtain ⟨past, v, m, u, after, rfl, hpast, hstep, hafter, hv, hu⟩ :=
    h.exists_cancellation hs.uncancelled ht
  have hbefore := (scheduled_append.mp hn).1
  obtain ⟨hpast', hlast⟩ := scheduled_append.mp hbefore
  refine ⟨past, v, m, u, after, rfl, hpast, hstep, hafter, hv, hu, hlast.next, ?_⟩
  have hstrays := hpast.strays_nil hs.strays_nil
  have hle : v.hands.length ≤ 1 := hw ▸ hpast.hands_le
  have hcancels := hstep.cancels hv hu
  cases hstep with
  | cancel hc => exact Canceller.outside v
  | @call i d r hh hd ha =>
      have hnext := hpast.visits_next (Step.call hh hd ha) hbefore.punctual hw hs.strays_nil hh
      obtain ⟨rfl, hone⟩ := eq_singleton hh hle
      have hask : (pool.crawler v.called r).cancelsAtOnce = true := by simpa [hv] using hu
      refine Canceller.begins hnext ?_ rfl (by simp [hone]) ?_ rfl rfl rfl
      · have hstart : (pool.crawler v.called r).cancelsAtStart = true := by
          simpa [Reply.cancelsAtOnce, ha] using hask
        simp [visit, replyTo, Reply.mayCancel, hstart]
      · simp [pausing, hone, Hand.pausing?]
  | @breakDown i d r hh hd ha =>
      have hnext := hpast.visits_next (Step.breakDown hh hd ha) hbefore.punctual hw hs.strays_nil hh
      have hask : (pool.crawler v.called r).cancelsAtOnce = true := by
        simpa [Run.report, hv] using hu
      refine Canceller.ended hnext ?_ ?_ (.inr ⟨rfl, ?_⟩)
      · simpa [visit, replyTo, Reply.mayCancel, Reply.cancelsAtOnce, ha] using hask
      · simp [visit, Visit.finish, replyTo, ha]
      · simp [visit, replyTo, ha]
  | @finish i k d r reply hh hd =>
      have hr : reply.cancels = true := by simpa [Run.report, hv] using hu
      have hnone : ∀ hand ∈ (s.begin requests).hands, pool.UnderWay [] hand := by
        simp [Run.begin]
      obtain ⟨c, hc, hcall, rfl, rfl⟩ :=
        hpast.underWay hnone _ (List.mem_of_getElem? hh) k reply d rfl
      obtain ⟨j, hj⟩ := List.mem_iff_getElem?.mp hc
      have hlt := (List.getElem?_eq_some_iff.mp hj).1
      have hvisit := congrArg (·[j]?) (hpast.visits_eq hpast'.punctual hw hs.strays_nil)
      simp only [List.nil_append] at hlt
      rw [List.nil_append] at hj
      simp only [List.getElem?_map, hj, Option.map_some] at hvisit
      rw [List.getElem?_take_of_lt hlt] at hvisit
      refine Canceller.ended hvisit.symm ?_ hd (.inl hlt)
      simp [visit, Reply.mayCancel, hr]
  | strayCall hh | strayBreakDown hh | strayFinish hh =>
      rw [hstrays] at hh
      cases hh
  | _ => exact absurd (hv.symm.trans hu) Bool.false_ne_true

/-! ## Without cancellation -/

/-- A pool that nobody cancels, nor a call of the loop, is not cancelled. -/
lemma Path.uncancelled_of_visits (h : pool.Path (s.begin requests) trail t)
    (hn : pool.Scheduled trail) (hw : pool.config.workers = 1) (hs : Clear s)
    (hat : pool.cancelAt = none) (hcalls : ∀ w ∈ pool.visits s requests, w.cancels = false) :
    t.cancelled = false := by
  by_contra hne
  obtain ⟨past, v, m, u, after, rfl, -, -, -, -, -, hnext, hby⟩ :=
    h.exists_canceller hn hw hs (by simpa using hne)
  cases hby with
  | outside =>
      cases hnext with
      | cancel hp =>
          rw [cancelPending, hat, ite_self] at hp
          cases hp
  | ended hv hc | begins hv hc =>
      rw [hcalls _ (List.mem_of_getElem? hv)] at hc
      cases hc

/-- In a pool that is not cancelled no call has cancelled it when it began. -/
lemma Path.calls_quiet (h : pool.Path s trail t) (ht : t.cancelled = false) :
    ∀ c ∈ ownCalls trail, (pool.replyTo c).cancelsAtOnce = false := by
  induction h with
  | nil => simp
  | @cons s u t m trail hs hpath ih =>
      have hu := (hpath.uncancelled ht).1
      rw [ownCalls_split]
      refine List.forall_mem_append.mpr ⟨fun c hc => ?_, ih ht⟩
      cases hs with
      | call hh hd ha =>
          obtain rfl := List.mem_singleton.mp (ownCalls_pausing hh ▸ hc)
          exact (Bool.or_eq_false_iff.mp hu).2
      | breakDown hh hd ha =>
          obtain rfl := List.mem_singleton.mp (ownCalls_pausing hh ▸ hc)
          exact (Bool.or_eq_false_iff.mp hu).2
      | finish hh hd => simp [ownCalls_calling hh] at hc
      | strayCall | strayBreakDown | strayFinish =>
          rw [ownCalls_strayOn] at hc
          cases hc
      | _ => simp [Transition.call?] at hc

/-- **A single worker that is not cancelled makes all calls of the loop**, and reports their sources
in order. -/
lemma Path.serial_eq (h : pool.Path (s.begin requests) trail t) (hp : pool.Punctual trail)
    (hw : pool.config.workers = 1) (hs : s.strays = []) (hd : t.isDone = true)
    (hc : t.cancelled = false) :
    (ownCalls trail).map pool.visit = pool.visits s requests ∧
      t.reported = (pool.visits s requests).map (·.source) := by
  have hvisits : (ownCalls trail).map pool.visit = pool.visits s requests := by
    have hlength := congrArg List.length (h.requests_eq hp hd hc)
    rw [List.length_map] at hlength
    rw [h.visits_eq hp hw hs, hlength, List.take_of_length_le (pool.visits_length s requests).le]
  have hall : t.reported.filter (!·.isCancelled) = t.reported :=
    PageSource.filter_isCancelled_eq_nil.mp (h.refused_eq hc)
  refine ⟨hvisits, ?_⟩
  rw [← hall, h.crawled_done hp hw hd, ← hvisits, List.map_map]
  rfl

/-- It is done when the last call is over. -/
lemma Path.now_single (h : pool.Path (s.begin requests) trail t) (hp : pool.Punctual trail)
    (ho : Unfinished trail) (hw : pool.config.workers = 1) (hd : t.isDone = true)
    (hc : t.cancelled = false) :
    t.now = (((ownCalls trail).map pool.visit).map Visit.finish).getLast?.getD s.now := by
  have htimes : ((ownCalls trail).map pool.visit).map Visit.finish = (reports trail).map (·.1) := by
    have hall : crawledAt trail = reports trail := by
      refine List.filter_eq_self.mpr fun entry hm => ?_
      have hnone : t.reported.filter (·.isCancelled) = [] := h.refused_eq hc
      rw [h.reported_begin, List.filter_eq_nil_iff] at hnone
      simpa using hnone entry.2 (List.mem_map_of_mem hm)
    rw [← hall, h.crawledAt_done hp hw hd, List.map_map, List.map_map]
    rfl
  rw [htimes]
  rcases h.last_report ho hd with rfl | ⟨past, source, hpast⟩
  · rw [h.eq_of_nil]
    rfl
  · simp [hpast]

/-! ## With cancellation -/

/-- Requests reported as cancelled. -/
def leftOut (requests : List String) : List PageSource := requests.map fun r => ⟨r, .cancelled⟩

lemma map_cancelledAt (now : Nat) (requests : List String) :
    (cancelledAt now requests).map (·.2) = leftOut requests := by
  simp [cancelledAt, leftOut, Function.comp_def]

lemma filter_leftOut (requests : List String) :
    (leftOut requests).filter (!·.isCancelled) = [] := by
  simp [leftOut, List.filter_map, Function.comp_def]

/-- What was called and what nobody took are the batch. -/
lemma Path.called_append {before after : List Transition}
    (hb : pool.Path (s.begin requests) before u) (ha : pool.Path u after t)
    (hn : pool.Scheduled (before ++ after)) (hu : u.cancelled = true)
    (hc : ∀ st ∈ before, st.before.cancelled = false) (hd : t.isDone = true) :
    (ownCalls (before ++ after)).map (·.request) ++ (u.slot.toList ++ u.waiting) = requests := by
  have hall := hb.taken_eq hc
  rw [(hb.append ha).called_eq_taken hn hd, taken_append, ha.taken_cancelled hu, List.append_nil]
  simpa [Run.begin] using hall.symm

/-- Until the cancellation all sources are those of calls. -/
lemma Path.crawledAt_length (h : pool.Path (s.begin requests) trail u) (hu : u.cancelled = false) :
    (crawledAt trail).length = u.reported.length := by
  have hall : u.reported.filter (!·.isCancelled) = u.reported :=
    PageSource.filter_isCancelled_eq_nil.mp (h.refused_eq hu)
  rw [← hall, h.reported_begin, ← crawledAt_sources, List.length_map]

/-- **What a cancelled worker reports.**  The pool is cancelled in the state `u`, in which the
worker has a request in its hands, and the queue is filled if the feeder holds anything. -/
lemma Path.reported_single {before after : List Transition}
    (hb : pool.Path (s.begin requests) before u) (ha : pool.Path u after t)
    (hn : pool.Scheduled (before ++ after)) (hw : pool.config.workers = 1) (hu : u.cancelled = true)
    (hc : ∀ st ∈ before, st.before.cancelled = false) (hr : u.refused = [])
    (hh : u.hands.length = 1) (hfed : u.waiting ≠ [] → u.slot.isSome) (hd : t.isDone = true) :
    ∃ last, (ownCalls (before ++ after)).map pool.answer = u.reported ++ [last] ∧
      t.reported = u.reported ++ leftOut u.waiting ++ last :: leftOut u.slot.toList := by
  have hp := hb.append ha
  have hkept : u.reported.filter (!·.isCancelled) = u.reported :=
    PageSource.filter_isCancelled_eq_nil.mp hr
  have hcrawled := hp.crawled_done hn.punctual hw hd
  have hcalled := congrArg List.length (hb.called_append ha hn hu hc hd)
  simp only [List.length_append, List.length_map] at hcalled
  have hlength := hp.isDone_iff_reported.mp hd
  have hulength := hb.reported_length
  rw [ha.reported_eq] at hcrawled hlength ⊢
  rw [List.filter_append, hkept] at hcrawled
  rw [List.length_append] at hlength
  -- the worker has one request more than it has reported
  obtain ⟨last, hlast⟩ : ∃ last, ((reports after).map (·.2)).filter (!·.isCancelled) = [last] := by
    have hcount := congrArg List.length hcrawled
    rw [List.length_append, List.length_map] at hcount
    exact List.length_eq_one_iff.mp (by omega)
  refine ⟨last, by rw [← hcrawled, hlast], ?_⟩
  rw [List.append_assoc]
  congr 1
  cases hs : u.slot with
  | none =>
      have hwaiting : u.waiting = [] := by
        by_contra hne
        simpa [hs] using hfed hne
      simp only [hs, hwaiting, hh, List.length_nil, Option.toList_none] at hulength
      have hsame := (List.filter_sublist (p := (!·.isCancelled))
        (l := (reports after).map (·.2))).eq_of_length (by rw [hlast, List.length_singleton]; omega)
      rw [hwaiting, ← hsame, hlast]
      rfl
  | some q =>
      have hsettled : pool.Settled u := fun _ => by omega
      obtain ⟨w, rest, hrest, hn', hcw, hww, hsw, hhw, hrep⟩ :=
        ha.giveUp_all (scheduled_append.mp hn).2 hu hsettled hd
      obtain ⟨time, own, others, hown, hnext⟩ :=
        hrest.refuse_next hn' hcw hww (hsw.trans hs) (by rw [hhw, hh, hw]) hd
      have hsources : (reports after).map (·.2)
          = leftOut u.waiting ++ own :: ⟨q, .cancelled⟩ :: others.map (·.2) := by
        rw [hrep, hnext, List.map_append, map_cancelledAt]
        rfl
      have hothers : others = [] := by
        rw [hsources, List.length_append] at hlength
        simp only [hs, hh, leftOut, Option.toList_some, List.length_cons, List.length_nil,
          List.length_map] at hlength hulength
        exact List.length_eq_zero_iff.mp (by omega)
      rw [hothers, List.map_nil] at hsources
      rw [hsources] at hlast ⊢
      rw [List.filter_append, filter_leftOut] at hlast
      obtain rfl : own = last := by simpa [hown] using hlast
      rfl

/-! ## The time of the cancellation -/

/-- When a cancellation from outside is due, the queue is filled if the feeder holds anything. -/
lemma Path.fed (h : pool.Path s trail t) (hn : pool.Scheduled trail)
    (hs : ¬pool.Undisturbed s → s.waiting ≠ [] → s.slot.isSome) :
    ¬pool.Undisturbed t → t.waiting ≠ [] → t.slot.isSome := by
  induction h with
  | nil => exact hs
  | cons hstep _ ih => exact ih hn.tail (hn.next.fed hstep)

/-- The cancellation from outside, in a state. -/
def cancellation (u : Run) : Transition := ⟨u, .cancel, { u with cancelled := true }⟩

/-- **What a pool whose calls cancel nothing is like when it is cancelled**: the time set for it has
come, the worker is busy if the queue is filled, and the queue is filled if the feeder holds
anything. -/
structure CancelledAt (pool : Pool) (n : Nat) (past : List Transition) (v : Run) : Prop where
  uncancelled : v.cancelled = false
  now_eq : v.now = n
  before : ∀ st ∈ past, st.before.now < n
  settled : pool.Settled v
  fed : v.waiting ≠ [] → v.slot.isSome

lemma CancelledAt.path {n : Nat} {past : List Transition} (h : pool.CancelledAt n past u)
    (hp : pool.Path s past u) : pool.Path s (past ++ [cancellation u]) (cancellation u).after :=
  hp.append (Path.cons (Step.cancel h.uncancelled) (Path.nil _))

lemma CancelledAt.before_uncancelled {n : Nat} {past : List Transition}
    (h : pool.CancelledAt n past u) (hp : pool.Path s past u) :
    ∀ st ∈ past ++ [cancellation u], st.before.cancelled = false :=
  List.forall_mem_append.mpr ⟨fun st hst => ((hp.uncancelled h.uncancelled).2 st hst).1,
    List.forall_mem_singleton.mpr h.uncancelled⟩

lemma CancelledAt.busy {n : Nat} {past : List Transition} (h : pool.CancelledAt n past u)
    (hw : 0 < u.slot.toList.length + u.waiting.length) :
    pool.config.workers ≤ u.hands.length := by
  refine h.settled ?_
  by_cases hwaiting : u.waiting = []
  · rw [hwaiting, List.length_nil, Nat.add_zero] at hw
    have hne := List.ne_nil_of_length_pos hw
    rw [ne_eq, Option.toList_eq_nil_iff] at hne
    exact Option.isSome_iff_ne_none.mpr hne
  · exact h.fed hwaiting

/-- A single worker whom somebody outside cancels. -/
lemma Path.cancelledAt {n : Nat} {past : List Transition}
    (hpast : pool.Path (s.begin requests) past u)
    (hn : pool.Scheduled past) (hs : Clear s) (hnext : pool.Next u .cancel)
    (hu : u.cancelled = false) (hat : pool.cancelAt = some n) (hlt : s.now < n) :
    pool.CancelledAt n past u := by
  cases hnext with
  | @cancel c hp hle =>
      obtain rfl : n = c := by simpa [cancelPending, hu, hat] using hp
      have hmax := hpast.now_le_max hn (fun st hst => ((hpast.uncancelled hu).2 st hst).1) hat
      have hnow : (s.begin requests).now = s.now := rfl
      have hdue : ¬pool.Undisturbed u := fun hund => absurd (hund n hp) (by omega)
      have hund : pool.Undisturbed (s.begin requests) := fun c hc => by
        obtain rfl : n = c := by simpa [cancelPending, Run.begin, hs.uncancelled, hat] using hc
        exact hlt
      exact ⟨hu, by omega, hpast.now_lt hn hu hat,
        hpast.settled hn (fun hdue => absurd hund hdue) hdue,
        hpast.fed hn (fun hdue => absurd hund hdue) hdue⟩

/-- **The calls that are over before a time are those that are reported before it.** -/
lemma Path.finish_lt_iff {n j : Nat} {w : Visit} {past rest : List Transition}
    (h : pool.Path (s.begin requests) (past ++ rest) t) (hp : pool.Punctual (past ++ rest))
    (hw : pool.config.workers = 1) (hd : t.isDone = true) (hpast : ∀ st ∈ past, st.before.now < n)
    (hrest : ∀ entry ∈ reports rest, n ≤ entry.1)
    (hj : ((ownCalls (past ++ rest)).map pool.visit)[j]? = some w) :
    w.finish < n ↔ j < (crawledAt past).length := by
  have hall := congrArg (·[j]?) (h.crawledAt_done hp hw hd)
  obtain ⟨c, hc, rfl⟩ := Option.map_eq_some_iff.mp ((List.getElem?_map ..).symm.trans hj)
  simp only [crawledAt_append, List.getElem?_map, hc, Option.map_some] at hall
  have hfinish : (pool.visit c).finish = pool.finishOf c := rfl
  rw [hfinish]
  by_cases hlt : j < (crawledAt past).length
  · rw [List.getElem?_append_left hlt] at hall
    obtain ⟨hm, -⟩ := List.mem_filter.mp (List.mem_of_getElem? hall)
    obtain ⟨st, hst, hentry⟩ := List.mem_flatMap.mp hm
    obtain ⟨source, -, heq⟩ := List.mem_map.mp hentry
    have htime := congrArg Prod.fst heq
    have hbefore := hpast st hst
    simp only at htime
    exact iff_of_true (by omega) hlt
  · rw [List.getElem?_append_right (Nat.le_of_not_lt hlt)] at hall
    obtain ⟨hm, -⟩ := List.mem_filter.mp (List.mem_of_getElem? hall)
    exact iff_of_false (Nat.not_lt.mpr (hrest _ hm)) hlt

/-- A pool is cancelled if the time for that comes before the batch is done. -/
lemma Path.cancelled_of_le {n k : Nat} {v : Visit} (h : pool.Path (s.begin requests) trail t)
    (hn : pool.Scheduled trail) (hw : pool.config.workers = 1) (hs : s.strays = [])
    (hat : pool.cancelAt = some n) (hd : t.isDone = true)
    (hv : (pool.visits s requests)[k]? = some v) (hafter : n ≤ v.finish) : t.cancelled = true := by
  by_contra hne
  have hc : t.cancelled = false := by simpa using hne
  have hvisits := (h.serial_eq hn.punctual hw hs hd hc).1
  rw [← hvisits, List.getElem?_map, Option.map_eq_some_iff] at hv
  obtain ⟨c, hcall, rfl⟩ := hv
  have hover := h.finishOf_le hn.timely hd c (List.mem_of_getElem? hcall)
  have hfinish : (pool.visit c).finish = pool.finishOf c := rfl
  rcases h.done_before hn hc hd hat with rfl | hlt
  · cases hcall
  · omega

/-- **When request `k` is taken before the pool is cancelled and its call is not over then**, the
worker has it in its hands. -/
lemma Path.in_hand {n k : Nat} {v : Visit} {past after : List Transition}
    (hpast : pool.Path (s.begin requests) past u)
    (hafter : pool.Path (cancellation u).after after t)
    (hn : pool.Scheduled ((past ++ [cancellation u]) ++ after)) (hw : pool.config.workers = 1)
    (hs : s.strays = []) (hat : pool.CancelledAt n past u) (hd : t.isDone = true)
    (hv : (pool.visits s requests)[k]? = some v) (hstart : v.start < n + pool.config.delay)
    (hfinish : n ≤ v.finish) :
    (ownCalls ((past ++ [cancellation u]) ++ after)).length = k + 1 ∧ u.hands.length = 1 := by
  have hb := hat.path hpast
  have hc := hat.before_uncancelled hpast
  have hvisits := (hb.append hafter).visits_eq hn.punctual hw hs
  have hcalled := congrArg List.length (hb.called_append hafter hn rfl hc hd)
  have hreported := hpast.reported_length
  have hhands := hpast.hands_le
  -- what is reported before the cancellation are the calls that are over before it
  have hover : ∀ {j w}, ((pool.visits s requests).take
      (ownCalls ((past ++ [cancellation u]) ++ after)).length)[j]? = some w →
      (w.finish < n ↔ j < u.reported.length) := by
    intro j w hj
    rw [← hvisits, List.append_assoc] at hj
    have hp := hb.append hafter
    rw [List.append_assoc] at hp hn
    rw [← hpast.crawledAt_length hat.uncancelled]
    refine hp.finish_lt_iff hn.punctual hw hd hat.before (fun entry hm => ?_) hj
    exact hat.now_eq ▸ (Path.cons (Step.cancel hat.uncancelled) hafter).now_le_reports entry hm
  have hk : k < requests.length := by
    rw [← pool.visits_length s requests]
    exact (List.getElem?_eq_some_iff.mp hv).1
  have hslot : (cancellation u).after.slot = u.slot := rfl
  have hwaiting : (cancellation u).after.waiting = u.waiting := rfl
  simp only [hslot, hwaiting, List.length_append, List.length_map] at hcalled
  generalize (ownCalls ((past ++ [cancellation u]) ++ after)).length = m at hcalled hover ⊢
  have hmore : k < m := by
    by_contra hle
    have hbusy := hat.busy (by omega)
    -- then the call before request `k` is not over either, and request `k` is not taken
    obtain ⟨w, hw'⟩ : ∃ w, (pool.visits s requests)[m - 1]? = some w :=
      ⟨_, List.getElem?_eq_getElem (by rw [visits_length]; omega)⟩
    have hlate := hover (j := m - 1) (w := w) (by rw [List.getElem?_take_of_lt (by omega), hw'])
    have hbefore := Crawler.finish_le_start hw' hv (by omega)
    omega
  have hopen := hover (j := k) (w := v) (by rw [List.getElem?_take_of_lt hmore, hv])
  omega

/-- What is in the queue comes next in the batch, and the feeder holds what comes after it. -/
lemma eq_of_drop {slot : Option String} {waiting : List String} {k : Nat}
    (h : slot.toList ++ waiting = requests.drop k) (hfed : waiting ≠ [] → slot.isSome) :
    slot = requests[k]? ∧ waiting = requests.drop (k + 1) := by
  have hhead : (requests.drop k).head? = requests[k]? := List.head?_drop
  have htail : (requests.drop k).tail = requests.drop (k + 1) := List.tail_drop
  cases slot with
  | none =>
      have hnil : waiting = [] := by
        by_contra hne
        cases hfed hne
      rw [← hhead, ← htail, ← h, hnil]
      exact ⟨rfl, rfl⟩
  | some q =>
      rw [← hhead, ← htail, ← h]
      exact ⟨rfl, rfl⟩

/-- **What becomes of a batch** that is cancelled while request `k` is in the worker's hands. -/
structure CutInHand (pool : Pool) (s : Run) (requests : List String) (k : Nat) (v : Visit)
    (trail : List Transition) (t : Run) : Prop where
  /-- The calls up to this one are made. -/
  visits : (ownCalls trail).map pool.visit = (pool.visits s requests).take (k + 1)
  /-- The request after it is the last one to be reported. -/
  reported : t.reported = ((pool.visits s requests).take k).map (·.source) ++
    leftOut (requests.drop (k + 2)) ++ v.source :: leftOut requests[k + 1]?.toList

lemma Path.cutInHand {k : Nat} {v : Visit} {before after : List Transition}
    (hb : pool.Path (s.begin requests) before u) (ha : pool.Path u after t)
    (hn : pool.Scheduled (before ++ after)) (hw : pool.config.workers = 1) (hs : s.strays = [])
    (hu : u.cancelled = true) (hc : ∀ st ∈ before, st.before.cancelled = false)
    (hr : u.refused = []) (hh : u.hands.length = 1) (hfed : u.waiting ≠ [] → u.slot.isSome)
    (hd : t.isDone = true) (hv : (pool.visits s requests)[k]? = some v)
    (hlength : (ownCalls (before ++ after)).length = k + 1) :
    pool.CutInHand s requests k v (before ++ after) t := by
  have hvisits := (hb.append ha).visits_eq hn.punctual hw hs
  rw [hlength] at hvisits
  refine ⟨hvisits, ?_⟩
  obtain ⟨last, hanswers, hreported⟩ := hb.reported_single ha hn hw hu hc hr hh hfed hd
  have hsources : (ownCalls (before ++ after)).map pool.answer
      = ((pool.visits s requests).take k).map (·.source) ++ [v.source] := by
    have hmap := congrArg (List.map (·.source)) hvisits
    rw [List.map_map, List.take_add_one, hv, Option.toList_some, List.map_append] at hmap
    exact hmap
  rw [hsources] at hanswers
  obtain ⟨hfront, hlast⟩ := List.append_inj' hanswers rfl
  have hleft : u.slot.toList ++ u.waiting = requests.drop (k + 1) := by
    have hcalled := hb.called_append ha hn hu hc hd
    rw [← hcalled, List.drop_left' (by rw [List.length_map, hlength])]
  obtain ⟨hslot, hwaiting⟩ := eq_of_drop hleft hfed
  rw [hreported, ← hfront, hslot, hwaiting, ← List.cons.inj hlast |>.1]

/-- **A call that cancels the pool when it begins** has its request in the worker's hands. -/
lemma Path.reported_begins {i : Nat} {v : Visit} {w : Run} {past after : List Transition}
    (hpast : pool.Path (s.begin requests) past w) (hstep : pool.Step w (.goOn i) u)
    (ha : pool.Path u after t) (hn : pool.Scheduled ((past ++ [⟨w, .goOn i, u⟩]) ++ after))
    (hw : pool.config.workers = 1) (hs : s.strays = []) (hc : w.cancelled = false)
    (hu : u.cancelled = true) (hone : w.hands.length = 1 ∧ u.hands.length = 1)
    (hpause : (pausing w).length = 1) (hslot : u.slot = w.slot) (hwaiting : u.waiting = w.waiting)
    (hreported : u.reported = w.reported) (hd : t.isDone = true)
    (hv : (pool.visits s requests)[(ownCalls past).length]? = some v) :
    pool.CutInHand s requests (ownCalls past).length v
      ((past ++ [⟨w, .goOn i, u⟩]) ++ after) t := by
  have hb := hpast.append (Path.cons hstep (Path.nil u))
  have hfirst : ∀ st ∈ past ++ [⟨w, .goOn i, u⟩], st.before.cancelled = false :=
    List.forall_mem_append.mpr ⟨fun st hst => ((hpast.uncancelled hc).2 st hst).1,
      List.forall_mem_singleton.mpr hc⟩
  obtain ⟨hpast', hlast⟩ := scheduled_append.mp (scheduled_append.mp hn).1
  refine hb.cutInHand ha hn hw hs hu hfirst ?_ hone.2 (fun hne => ?_) hd hv ?_
  · rw [Run.refused, hreported]
    exact hpast.refused_eq hc
  · cases hlast.next with
    | goOn hq =>
        rw [hslot]
        exact (hq.fed (hwaiting ▸ hne)).2
  · -- what is not with the queue and the feeder was called, but for the one that pauses
    have hall := congrArg List.length (hb.called_append ha hn hu hfirst hd)
    have htaken := congrArg List.length
      (hpast.taken_eq fun st hst => ((hpast.uncancelled hc).2 st hst).1)
    have hcalled := congrArg List.length
      (hpast.called_eq hpast' (pausesInOrder_begin pool s requests))
    have hnone : pausing (s.begin requests) = [] := rfl
    rw [hnone, List.nil_append] at hcalled
    rw [hslot, hwaiting] at hall
    simp only [Run.begin, Option.toList_none, List.nil_append, List.length_append,
      List.length_map] at hall htaken hcalled ⊢
    omega

/-- **A batch that is cancelled from outside while request `k` is in the worker's hands**, if no
call before it cancels the pool. -/
lemma Path.cancelled_at {n k : Nat} {v : Visit} (h : pool.Path (s.begin requests) trail t)
    (hn : pool.Scheduled trail) (hw : pool.config.workers = 1) (hs : Clear s)
    (hat : pool.cancelAt = some n) (hd : t.isDone = true)
    (hv : (pool.visits s requests)[k]? = some v)
    (hquiet : ∀ w ∈ (pool.visits s requests).take k, w.cancels = false)
    (hstart : v.start < n + pool.config.delay) (hfinish : n ≤ v.finish) :
    pool.CutInHand s requests k v trail t := by
  have hfirst := Crawler.serial_start k _ _ _ v hv
  have hcancelled := h.cancelled_of_le hn hw hs.strays_nil hat hd hv hfinish
  obtain ⟨past, w, m, u, after, rfl, hpast, hstep, hafter, hwc, huc, hnext, hby⟩ :=
    h.exists_canceller hn hw hs hcancelled
  have hnot : ∀ {j x}, (pool.visits s requests)[j]? = some x → x.cancels = true → k ≤ j :=
    fun {j x} hx hc => by
      by_contra hlt
      have hmem := List.mem_of_getElem? ((List.getElem?_take_of_lt (Nat.lt_of_not_le hlt)).trans hx)
      rw [hquiet x hmem] at hc
      cases hc
  cases hby with
  | outside =>
      have hstate := hpast.cancelledAt (scheduled_append.mp (scheduled_append.mp hn).1).1 hs hnext
        hwc hat (by omega)
      obtain ⟨hlength, hhands⟩ :=
        hpast.in_hand hafter hn hw hs.strays_nil hstate hd hv hstart hfinish
      exact (hstate.path hpast).cutInHand hafter hn hw hs.strays_nil rfl
        (hstate.before_uncancelled hpast) (hpast.refused_eq hstate.uncancelled) hhands hstate.fed hd
        hv hlength
  | @ended _ _ i j x hx hc hover hj =>
      -- this call is over before the time set for the cancellation, so it comes before call `k`
      have hnow := hnext.now_lt (by simp) hwc hat
      rcases (hnot hx hc).eq_or_lt with rfl | hlt
      · obtain rfl := Option.some.inj (hv.symm.trans hx)
        omega
      · have hbefore := Crawler.finish_le_start hv hx hlt
        rw [Visit.finish] at hover
        omega
  | @begins _ _ i x hx hc hxs hone hpause hslot hwaiting hreported =>
      have hnow := hnext.now_lt (by simp) hwc hat
      rcases (hnot hx hc).eq_or_lt with rfl | hlt
      · exact hpast.reported_begins hstep hafter hn hw hs.strays_nil hwc huc hone hpause hslot
          hwaiting hreported hd hv
      · have hbefore := Crawler.finish_le_start hv hx hlt
        omega

/-- **A batch that call `k` cancels when it begins**, if no call before it and nobody outside
does. -/
lemma Path.cancelled_at_start {k : Nat} {v : Visit} (h : pool.Path (s.begin requests) trail t)
    (hn : pool.Scheduled trail) (hw : pool.config.workers = 1) (hs : Clear s)
    (hat : pool.cancelAt = none) (hd : t.isDone = true)
    (hv : (pool.visits s requests)[k]? = some v)
    (hquiet : ∀ w ∈ (pool.visits s requests).take k, w.cancels = false)
    (hstart : v.cancelsAtStart = true) : pool.CutInHand s requests k v trail t := by
  have hcall : ∀ c, pool.visit c = v → (pool.replyTo c).cancelsAtOnce = true := by
    rintro c rfl
    have hboth : (pool.replyTo c).atCall = false ∧ (pool.replyTo c).cancelsAtStart = true := by
      simpa [visit] using hstart
    simp [Reply.cancelsAtOnce, hboth.2]
  -- so the call has not begun in a pool that is not cancelled
  have hnever : ∀ {path : List Transition} {w : Run}, pool.Path (s.begin requests) path w →
      pool.Punctual path → w.cancelled = false → (ownCalls path).length ≤ k := by
    intro path w hpath hp hwc
    by_contra hlt
    have hvisits := congrArg (·[k]?) (hpath.visits_eq hp hw hs.strays_nil)
    rw [List.getElem?_take_of_lt (Nat.lt_of_not_le hlt), hv, List.getElem?_map,
      Option.map_eq_some_iff] at hvisits
    obtain ⟨c, hc, hvisit⟩ := hvisits
    have hquiet := hpath.calls_quiet hwc c (List.mem_of_getElem? hc)
    rw [hcall c hvisit] at hquiet
    cases hquiet
  have hcancelled : t.cancelled = true := by
    by_contra hne
    have hc : t.cancelled = false := by simpa using hne
    have hlength := congrArg List.length (h.serial_eq hn.punctual hw hs.strays_nil hd hc).1
    have hle := hnever h hn.punctual hc
    have hk := (List.getElem?_eq_some_iff.mp hv).1
    rw [List.length_map] at hlength
    omega
  obtain ⟨past, w, m, u, after, rfl, hpast, hstep, hafter, hwc, huc, hnext, hby⟩ :=
    h.exists_canceller hn hw hs hcancelled
  have hle := hnever hpast (scheduled_append.mp (scheduled_append.mp hn).1).1.punctual hwc
  have hnot : ∀ {j x}, (pool.visits s requests)[j]? = some x → x.cancels = true → k ≤ j :=
    fun {j x} hx hc => by
      by_contra hlt
      have hmem := List.mem_of_getElem? ((List.getElem?_take_of_lt (Nat.lt_of_not_le hlt)).trans hx)
      rw [hquiet x hmem] at hc
      cases hc
  cases hby with
  | outside =>
      cases hnext with
      | cancel hp =>
          rw [cancelPending, hat, ite_self] at hp
          cases hp
  | @ended _ _ i j x hx hc hover hj =>
      have hkj := hnot hx hc
      rcases hj with hj | ⟨rfl, hx'⟩
      · omega
      · obtain rfl : k = (ownCalls past).length := by omega
        obtain rfl := Option.some.inj (hv.symm.trans hx)
        rw [hstart] at hx'
        cases hx'
  | @begins _ _ i x hx hc hxs hone hpause hslot hwaiting hreported =>
      have hkj := hnot hx hc
      obtain rfl : k = (ownCalls past).length := by omega
      exact hpast.reported_begins hstep hafter hn hw hs.strays_nil hwc huc hone hpause hslot
        hwaiting hreported hd hv

/-- **A single worker is a plain loop.**

A pool with one worker, or with one because it should have none, is given a batch in a clear state.
The plain loop makes a call for each request, which begins when the pauses and calls for the
requests before it and its own pause are over.  If none of these calls cancels the pool and nobody
else does, it makes the same calls; its results are their sources in the order of the batch, its
error is that of the last of them that failed, and it is done when the last call is over.

Let the pool be cancelled while request `k` is in the worker's hands, and by none of the calls
before: from outside, at a time after it took the request and no later than its call is over, or by
this call when it begins.  Then the calls up to this one are made.  The results are the sources of
the requests before `k`, those behind the next one as cancelled, then that of `k`, and then the next
request as cancelled.  So if there is one, its cancellation is the error of the dispatch. -/
theorem single_worker_is_serial {workers : Nat} (hworkers : workers ≤ 1) (delay : Nat)
    (crawler : Crawler) {s : Run} (hs : Clear s) (requests : List String) :
    let visits := crawler.serial delay s.now s.called requests
    (visits.map (·.source.request) = requests ∧ ∀ i v, visits[i]? = some v →
      v.start = s.now + ((visits.take i).map fun w => delay + w.duration).sum + delay) ∧
    ((∀ v ∈ visits, v.cancels = false) →
      ∃ t, dispatch ⟨.new workers delay, crawler, none⟩ none requests s
          = (t, some ⟨visits.map (·.source), lastError (visits.map (·.source))⟩) ∧
        t.calls.map Call.key = (visits.map Visit.key).reverse ++ s.calls.map Call.key ∧
        t.now = (visits.map Visit.finish).getLast?.getD s.now) ∧
    ∀ outside k v, visits[k]? = some v → (∀ w ∈ visits.take k, w.cancels = false) →
      (∃ n, outside = some n ∧ v.start < n + delay ∧ n ≤ v.finish) ∨
        outside = none ∧ v.cancelsAtStart = true →
      ∃ t d, dispatch ⟨.new workers delay, crawler, outside⟩ none requests s = (t, some d) ∧
        d.results = (visits.take k).map (·.source) ++ leftOut (requests.drop (k + 2)) ++
          v.source :: leftOut requests[k + 1]?.toList ∧
        d.error = lastError d.results ∧
        (∀ next, requests[k + 1]? = some next → d.error = some (.cancelled next)) ∧
        t.calls.map Call.key
          = ((visits.take (k + 1)).map Visit.key).reverse ++ s.calls.map Call.key := by
  intro visits
  have hone : (DispatchConfig.new workers delay).workers = 1 := max_eq_left hworkers
  refine ⟨⟨Crawler.serial_requests _ _ _, fun i v hv => Crawler.serial_start i _ _ _ v hv⟩,
    fun hquiet => ?_, ?_⟩
  · obtain ⟨t, hd, ht⟩ := dispatch_none ⟨.new workers delay, crawler, none⟩ s requests
    obtain ⟨⟨trail, hp, hn⟩, -, -⟩ := dispatch_eq_some ht
    have hc := hp.uncancelled_of_visits hn hone hs rfl hquiet
    obtain ⟨hvisits, hreported⟩ := hp.serial_eq hn.punctual hone hs.strays_nil hd hc
    have hvisits : (ownCalls trail).map _ = visits := hvisits
    have hreported : t.reported = visits.map (·.source) := hreported
    refine ⟨t, ?_, ?_, ?_⟩
    · rw [ht, hp.error_eq, hreported]
    · rw [hp.log_visits hs.strays_nil, hvisits]
      rfl
    · rw [hp.now_single hn.punctual hn.unfinished hone hd hc, hvisits]
  · intro outside k v hv hquiet hby
    let pool : Pool := ⟨.new workers delay, crawler, outside⟩
    obtain ⟨t, hd, ht⟩ := dispatch_none pool s requests
    obtain ⟨⟨trail, hp, hn⟩, -, -⟩ := dispatch_eq_some ht
    have hcut : pool.CutInHand s requests k v trail t := by
      rcases hby with ⟨n, hat, hstart, hfinish⟩ | ⟨hat, hstart⟩
      · exact hp.cancelled_at hn hone hs hat hd hv hquiet hstart hfinish
      · exact hp.cancelled_at_start hn hone hs hat hd hv hquiet hstart
    refine ⟨t, _, ht, hcut.reported, hp.error_eq, fun next hnext => ?_, ?_⟩
    · change t.error = _
      rw [hp.error_eq, hcut.reported, hnext, List.append_cons]
      exact lastError_concat _ _
    · rw [hp.log_visits hs.strays_nil, hcut.visits]
      rfl

/-- Four requests for a pool without workers, and the same requests for one worker that is cancelled
while it pauses before the call for the second one, which would cancel it as well when it begins and
when it ends; or by this call. -/
theorem single_worker_is_serial_paused :
    let crawler (asks : Bool) := Crawler.ofScripts
      [("a", [{ duration := 4, ending := .page "A" }]),
       ("b", [{ duration := 3, ending := .error ["outer", "root"], cancels := asks,
                cancelsAtStart := asks }]),
       ("c", [{ ending := .panic .other, atCall := true }])]
    let requests := ["a", "b", "c", "d"]
    let visits (asks : Bool) : List Visit :=
      [⟨⟨"a", .page "A"⟩, 1, 2, 4, false, false⟩,
       ⟨⟨"b", .failed "outer: root"⟩, 1, 8, 3, asks, asks⟩,
       ⟨⟨"c", .panicked "unknown panic payload"⟩, 1, 13, 0, false, false⟩,
       ⟨⟨"d", .page "d"⟩, 1, 15, 0, false, false⟩]
    Clear {} ∧ (∀ asks, (crawler asks).serial 2 0 [] requests = visits asks) ∧
    (∃ t, dispatch ⟨.new 0 2, crawler false, none⟩ none requests {} = (t, some
        ⟨(visits false).map (·.source), some (.panicked "c" "unknown panic payload")⟩) ∧
      t.now = 15) ∧
    ∀ outside ∈ [some 7, none],
      ∃ t d, dispatch ⟨.new 1 2, crawler true, outside⟩ none requests {} = (t, some d) ∧
        d.results = [⟨"a", .page "A"⟩, ⟨"d", .cancelled⟩, ⟨"b", .failed "outer: root"⟩,
          ⟨"c", .cancelled⟩] ∧
        d.error = some (.cancelled "c") := by
  intro crawler requests visits
  have hs : Clear {} := ⟨rfl, rfl⟩
  have hvisits : ∀ asks, (crawler asks).serial 2 ({} : Run).now ({} : Run).called requests
      = visits asks := by
    decide +kernel
  obtain ⟨-, hserial, -⟩ :=
    single_worker_is_serial (show 0 ≤ 1 by decide) 2 (crawler false) hs requests
  obtain ⟨-, -, hcancelled⟩ :=
    single_worker_is_serial (show 1 ≤ 1 by decide) 2 (crawler true) hs requests
  rw [hvisits] at hserial hcancelled
  obtain ⟨t, ht, -, hnow⟩ := hserial (by decide)
  refine ⟨hs, hvisits, ⟨t, ht, hnow⟩, fun outside houtside => ?_⟩
  obtain ⟨t', d, ht', hresults, -, herror, -⟩ := hcancelled outside 1
    ⟨⟨"b", .failed "outer: root"⟩, 1, 8, 3, true, true⟩ rfl (by decide) (by
      simp only [List.mem_cons, List.not_mem_nil, or_false] at houtside
      rcases houtside with rfl | rfl
      · exact .inl ⟨7, rfl, by decide, by decide⟩
      · exact .inr ⟨rfl, rfl⟩)
  exact ⟨t', d, ht', hresults, herror "c" rfl⟩

end Pool

end PageCrawl
