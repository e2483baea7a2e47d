import PageCrawl.Proofs.Pool.Calls

/-!
# Requests are served in the order of the batch

A batch is a list, and its order survives as far as the calls.

**Taking.**  The feeder holds the rest of the batch and the queue has one place, so while the pool
is not cancelled the requests that workers took, the one in the queue and those with the feeder
are, in this order, the batch: `Path.taken_eq`.  After the cancellation no worker takes anything to
crawl it (`Path.taken_cancelled`), and the one request in the queue may still be taken out of it:
`Path.received_isPrefix`.

**Calling.**  All workers pause for the same time.  Hands are kept in the order in which they were
taken, so their pauses end in that order (`PausesInOrder`), and the first hand whose stage is over
is, if it pauses, the first of all that pause.  Hence calls begin in the order in which requests
were taken: `Path.called_eq`.  This is the one fact here that needs the order of things; a path
that lets hands go on as they like may begin calls in another order.

**Hands.**  There are never more hands than workers (`Step.hands_le`).  When a cancellation from
outside comes, a filled queue means that all workers are busy (`Next.settled`), and the queue is
filled if the feeder holds anything (`Next.fed`).

**Reporting.**  What is reported is put behind what was reported before (`Path.reported_eq`), in the
order of time (`Path.reports_sorted`), and the error of a batch is that of the last source that has
one (`Path.error_eq`).
-/

namespace PageCrawl

namespace Pool

variable {pool : Pool} {s t u : Run} {m : Move} {trail : List Transition} {requests : List String}

/-- A scheduled path begins with what comes next. -/
lemma Scheduled.next (h : pool.Scheduled (⟨s, m, u⟩ :: trail)) : pool.Next s m :=
  next_of_nextMove? (scheduled_cons.mp h).1.2

lemma Scheduled.tail {st : Transition} (h : pool.Scheduled (st :: trail)) : pool.Scheduled trail :=
  (scheduled_cons.mp h).2

/-! ## Taking -/

/-- Before the cancellation a request moves from the feeder to the queue and from there into a
worker's hands. -/
lemma Step.taken_eq (h : pool.Step s m t) (hc : s.cancelled = false) :
    s.slot.toList ++ s.waiting = taken [⟨s, m, t⟩] ++ (t.slot.toList ++ t.waiting) := by
  cases h with
  | giveUp hc' | refuse hc' =>
      rw [hc] at hc'
      cases hc'
  | feed _ hs hw => simp [Transition.taken?, hs, hw]
  | take _ hs hf => simp [Transition.taken?, hc, hs]
  | _ => rfl

/-- **While the pool is not cancelled**, what was taken, what is in the queue and what the feeder
holds are the batch, in its order. -/
lemma Path.taken_eq (h : pool.Path s trail t)
    (hc : ∀ st ∈ trail, st.before.cancelled = false) :
    s.slot.toList ++ s.waiting = taken trail ++ (t.slot.toList ++ t.waiting) := by
  induction h with
  | nil => rfl
  | @cons s u t m trail hs hp ih =>
      rw [List.forall_mem_cons] at hc
      rw [taken_split, hs.taken_eq hc.1, ih hc.2, List.append_assoc]

/-- A cancelled pool takes nothing. -/
lemma Path.taken_cancelled (h : pool.Path s trail t) (hc : s.cancelled = true) :
    taken trail = [] := by
  induction h with
  | nil => rfl
  | @cons s u t m trail hs hp ih =>
      rw [taken_cons, ih (hs.cancelled_mono hc), Transition.taken?]
      simp [hc]

/-- The request that a worker takes out of the queue, to crawl it or to report it as cancelled. -/
def Transition.received? (st : Transition) : Option String :=
  match st.move with
  | .take => st.before.slot
  | _ => none

/-- All requests that workers took out of the queue, in order. -/
def received (trail : List Transition) : List String := trail.filterMap (·.received?)

lemma received_split (st : Transition) (trail : List Transition) :
    received (st :: trail) = received [st] ++ received trail := by
  simp only [received, ← List.filterMap_append, List.singleton_append]

lemma Step.received_eq (h : pool.Step s m t) (hc : s.cancelled = false) :
    received [⟨s, m, t⟩] = taken [⟨s, m, t⟩] := by
  simp only [received, taken, List.filterMap_cons, List.filterMap_nil, Transition.received?,
    Transition.taken?, hc]
  cases h <;> rfl

/-- After the cancellation workers take out what is in the queue, and it is not filled again. -/
lemma Step.received_cancelled (h : pool.Step s m t) (hc : s.cancelled = true) :
    s.slot.toList = received [⟨s, m, t⟩] ++ t.slot.toList := by
  cases h with
  | feed hc' | take hc' =>
      rw [hc] at hc'
      cases hc'
  | refuse _ hs => simp [received, Transition.received?, hs, Run.report]
  | _ => rfl

lemma Path.received_cancelled (h : pool.Path s trail t) (hc : s.cancelled = true) :
    s.slot.toList = received trail ++ t.slot.toList := by
  induction h with
  | nil => rfl
  | @cons s u t m trail hs hp ih =>
      rw [received_split, List.append_assoc, ← ih (hs.cancelled_mono hc)]
      exact hs.received_cancelled hc

/-- **The queue keeps the order of the batch**, before and after the cancellation. -/
lemma Path.received_isPrefix (h : pool.Path s trail t) :
    taken trail <+: received trail ∧ received trail <+: s.slot.toList ++ s.waiting := by
  induction h with
  | nil => exact ⟨List.nil_prefix, List.nil_prefix⟩
  | @cons s u t m trail hs hp ih =>
      cases hc : s.cancelled with
      | true =>
          have hslot := (Path.cons hs hp).received_cancelled hc
          rw [(Path.cons hs hp).taken_cancelled hc, hslot, List.append_assoc]
          exact ⟨List.nil_prefix, List.prefix_append _ _⟩
      | false =>
          rw [taken_split, received_split, hs.received_eq hc, hs.taken_eq hc]
          exact ⟨(List.prefix_append_right_inj _).mpr ih.1,
            (List.prefix_append_right_inj _).mpr ih.2⟩

lemma Path.taken_isPrefix (h : pool.Path s trail t) :
    taken trail <+: s.slot.toList ++ s.waiting :=
  h.received_isPrefix.1.trans h.received_isPrefix.2

/-! ## Hands -/

/-- There are never more hands than workers. -/
lemma Step.hands_le (h : pool.Step s m t) (hle : s.hands.length ≤ pool.config.workers) :
    t.hands.length ≤ pool.config.workers := by
  cases h with
  | take hc hs hf =>
      simp only [List.length_append, List.length_cons, List.length_nil]
      omega
  | call hh hd ha => simpa [Run.beginCall] using hle
  | breakDown hh hd ha => exact (List.length_eraseIdx_le s.hands _).trans hle
  | finish hh hd => exact (List.length_eraseIdx_le s.hands _).trans hle
  | _ => exact hle

/-- Only waiting takes time. -/
lemma Step.now_eq (h : pool.Step s m t) (hm : ∀ v, m ≠ .wait v) : t.now = s.now := by
  cases h with
  | @wait v ht => exact absurd rfl (hm v)
  | _ => rfl

/-- A cancellation cannot become due by a move that is not waiting. -/
lemma Undisturbed.step (hu : pool.Undisturbed s) (hn : t.now = s.now)
    (hc : s.cancelled = true → t.cancelled = true) : pool.Undisturbed t := by
  intro c hp
  rw [hn]
  refine hu c ?_
  unfold cancelPending at hp ⊢
  split at hp
  · cases hp
  · next ht =>
      rw [if_neg fun hs => ht (hc hs)]
      exact hp

/-- **A cancellation from outside becomes due by waiting**, and nobody waits while there is anything
else to do. -/
lemma Next.exists_wait (hn : pool.Next s m) (h : pool.Step s m t) (hd : ¬pool.Undisturbed t) :
    ∃ w, m = .wait w ∧ pool.Quiet s := by
  have hkeep : (∀ w, m ≠ .wait w) → ¬pool.Undisturbed s := fun hm hu =>
    hd (hu.step (h.now_eq hm) h.cancelled_mono)
  cases hn with
  | cancel hp hc =>
      cases h
      exact absurd (fun c hp => by simp [cancelPending] at hp) hd
  | take hu hs hf => exact absurd hu (hkeep (by simp))
  | giveUp hu hf hc hw => exact absurd hu (hkeep (by simp))
  | feed hu hc hs hw => exact absurd hu (hkeep (by simp))
  | goOn hq hh hl hi => exact absurd hq.undisturbed (hkeep (by simp))
  | strayOn hq hn hh hl => exact absurd hq.undisturbed (hkeep (by simp))
  | @wait w hq hlt hv hmin => exact ⟨w, rfl, hq⟩

/-- **When a cancellation from outside comes, a filled queue means that all workers are busy.** -/
lemma Next.settled (hn : pool.Next s m) (h : pool.Step s m t) (hd : ¬pool.Undisturbed t) :
    pool.Settled t := by
  obtain ⟨w, rfl, hq⟩ := hn.exists_wait h hd
  cases h
  exact hq.settled

/-- **Nor does the feeder hold anything then unless the queue is filled.** -/
lemma Next.fed (hn : pool.Next s m) (h : pool.Step s m t) (hd : ¬pool.Undisturbed t)
    (hw : t.waiting ≠ []) : t.slot.isSome := by
  obtain ⟨w, rfl, hq⟩ := hn.exists_wait h hd
  cases h
  exact (hq.fed hw).2

/-! ## Calling -/

/-- When the pause of a worker ends. -/
def pauseEnd? : Hand → Option Nat
  | ⟨_, .pausing d⟩ => some d
  | _ => none

/-- **Pauses end in the order in which they began.** -/
structure PausesInOrder (pool : Pool) (s : Run) : Prop where
  sorted : (s.hands.filterMap pauseEnd?).Pairwise (· ≤ ·)
  le_now : ∀ d ∈ s.hands.filterMap pauseEnd?, d ≤ s.now + pool.config.delay

lemma PausesInOrder.of_sublist (h : pool.PausesInOrder s) (hn : s.now ≤ t.now)
    (hs : (t.hands.filterMap pauseEnd?).Sublist (s.hands.filterMap pauseEnd?)) :
    pool.PausesInOrder t := by
  refine ⟨h.sorted.sublist hs, fun d hd => ?_⟩
  have := h.le_now d (hs.subset hd)
  omega

lemma pausesInOrder_begin (pool : Pool) (s : Run) (requests : List String) :
    pool.PausesInOrder (s.begin requests) := by
  constructor <;> simp [Run.begin]

lemma Step.pausesInOrder (h : pool.Step s m t) (hp : pool.PausesInOrder s) :
    pool.PausesInOrder t := by
  have hn := h.now_le
  cases h with
  | take hc hs hf =>
      constructor
      · simp only [List.filterMap_append, List.filterMap_cons, List.filterMap_nil, pauseEnd?,
          List.pairwise_append, List.pairwise_singleton, List.mem_singleton, true_and]
        exact ⟨hp.sorted, fun a ha b hb => hb ▸ hp.le_now a ha⟩
      · simp only [List.filterMap_append, List.filterMap_cons, List.filterMap_nil, pauseEnd?,
          List.mem_append, List.mem_singleton]
        rintro d (hd | rfl)
        · exact hp.le_now d hd
        · exact le_rfl
  | call hh hd ha =>
      obtain ⟨l, l', hx, hset, -, -⟩ := exists_split hh
      refine hp.of_sublist hn ?_
      simp only [hset]
      simp [hx, List.filterMap_cons, pauseEnd?]
  | breakDown hh hd ha => exact hp.of_sublist hn ((List.eraseIdx_sublist _ _).filterMap _)
  | finish hh hd => exact hp.of_sublist hn ((List.eraseIdx_sublist _ _).filterMap _)
  | _ => exact hp.of_sublist hn (List.Sublist.refl _)

/-- The requests of the workers that pause, in the order in which they were taken. -/
def pausing (s : Run) : List String := s.hands.filterMap Hand.pausing?

/-- No worker that took its request before the first one whose pause is over still pauses. -/
lemma pausing_before_nil {i d : Nat} {r : String} {l l' : List Hand}
    (hp : pool.PausesInOrder s) (hd : d ≤ s.now)
    (hi : ∀ j < i, ∀ h', s.hands[j]? = some h' → s.now < h'.due)
    (hx : s.hands = l ++ ⟨r, .pausing d⟩ :: l') (hl : l.length = i) :
    l.filterMap Hand.pausing? = [] := by
  rw [List.filterMap_eq_nil_iff]
  rintro ⟨r', stage⟩ hm
  cases stage with
  | calling k reply d' => rfl
  | pausing d' =>
      exfalso
      -- its pause ends no later than the other one, so it would have been the first
      obtain ⟨j, hj, hget⟩ := List.getElem_of_mem hm
      have hlt : s.now < d' := by
        refine hi j (by omega) ⟨r', .pausing d'⟩ ?_
        rw [hx, List.getElem?_append_left hj, List.getElem?_eq_getElem hj, hget]
      have hsorted := hp.sorted
      rw [hx, List.filterMap_append, List.pairwise_append] at hsorted
      have hle : d' ≤ d := hsorted.2.2 d' (List.mem_filterMap.mpr ⟨_, hm, rfl⟩) d
        (by simp [pauseEnd?])
      omega

/-- **The call that begins is for the request that was taken first** of those that wait for
theirs. -/
lemma Next.called_eq (hn : pool.Next s m) (hp : pool.PausesInOrder s) (h : pool.Step s m t) :
    (ownCalls [⟨s, m, t⟩]).map (·.request) ++ pausing t = pausing s ++ taken [⟨s, m, t⟩] := by
  cases h with
  | @take r hc hs hf =>
      simp [pausing, Transition.taken?, Transition.call?, hc, hs, Hand.pausing?]
  | @call i d r hh hd ha =>
      obtain ⟨l, l', hx, hset, -, hl⟩ := exists_split hh
      cases hn with
      | goOn hq hh' hd' hi =>
          have hnil := pausing_before_nil hp hd hi hx hl
          rw [ownCalls_pausing hh]
          simp only [pausing, hset]
          simp [hx, hnil, List.filterMap_cons, Hand.pausing?, Transition.taken?]
  | @breakDown i d r hh hd ha =>
      obtain ⟨l, l', hx, -, he, hl⟩ := exists_split hh
      cases hn with
      | goOn hq hh' hd' hi =>
          have hnil := pausing_before_nil hp hd hi hx hl
          rw [ownCalls_pausing hh]
          simp only [pausing, Run.report, he]
          simp [hx, hnil, Hand.pausing?, Transition.taken?]
  | @finish i k d r reply hh hd =>
      obtain ⟨l, l', hx, -, he, -⟩ := exists_split hh
      rw [ownCalls_calling hh]
      simp only [pausing, Run.report, he]
      simp [hx, List.filterMap_cons, Hand.pausing?, Transition.taken?]
  | strayCall | strayBreakDown | strayFinish =>
      rw [ownCalls_strayOn]
      simp [pausing, Run.beginCall, Run.endCall, Transition.taken?]
  | refuse hc hs hf => simp [pausing, Run.report, Transition.taken?, Transition.call?, hc]
  | cancel | giveUp | feed | wait =>
      simp [pausing, Run.report, Transition.taken?, Transition.call?]

/-- **Calls begin in the order in which requests were taken.** -/
lemma Path.called_eq (h : pool.Path s trail t) (hn : pool.Scheduled trail)
    (hp : pool.PausesInOrder s) :
    (ownCalls trail).map (·.request) ++ pausing t = pausing s ++ taken trail := by
  induction h with
  | nil => simp
  | @cons s u t m trail hs hpath ih =>
      rw [ownCalls_split, taken_split, List.map_append, List.append_assoc,
        ih hn.tail (hs.pausesInOrder hp), ← List.append_assoc, hn.next.called_eq hp hs,
        List.append_assoc]

/-- In another order of things calls still begin for what was taken. -/
lemma Step.called_perm_taken (h : pool.Step s m t) :
    ((ownCalls [⟨s, m, t⟩]).map (·.request) ++ pausing t).Perm
      (pausing s ++ taken [⟨s, m, t⟩]) := by
  cases h with
  | @take r hc hs hf =>
      simp [pausing, Transition.taken?, Transition.call?, hc, hs, Hand.pausing?]
  | call hh hd ha =>
      obtain ⟨l, l', hx, hset, -, -⟩ := exists_split hh
      rw [ownCalls_pausing hh]
      simp only [pausing, hset]
      simpa [hx, List.filterMap_cons, Hand.pausing?, Transition.taken?]
        using List.perm_middle.symm
  | breakDown hh hd ha =>
      obtain ⟨l, l', hx, -, he, -⟩ := exists_split hh
      rw [ownCalls_pausing hh]
      simp only [pausing, Run.report, he]
      simpa [hx, List.filterMap_cons, Hand.pausing?, Transition.taken?]
        using List.perm_middle.symm
  | finish hh hd =>
      obtain ⟨l, l', hx, -, he, -⟩ := exists_split hh
      rw [ownCalls_calling hh]
      simp only [pausing, Run.report, he]
      simp [hx, List.filterMap_cons, Hand.pausing?, Transition.taken?]
  | strayCall | strayBreakDown | strayFinish =>
      rw [ownCalls_strayOn]
      simp [pausing, Run.beginCall, Run.endCall, Transition.taken?]
  | refuse hc hs hf => simp [pausing, Run.report, Transition.taken?, Transition.call?, hc]
  | cancel | giveUp | feed | wait =>
      simp [pausing, Run.report, Transition.taken?, Transition.call?]

lemma Path.called_perm_taken (h : pool.Path s trail t) :
    ((ownCalls trail).map (·.request) ++ pausing t).Perm (pausing s ++ taken trail) := by
  induction h with
  | nil => simp
  | @cons s u t m trail hs hpath ih =>
      rw [ownCalls_split, taken_split, List.map_append, List.append_assoc]
      calc
        List.Perm _ ((ownCalls [⟨s, m, u⟩]).map (·.request) ++ (pausing u ++ taken trail)) :=
          ih.append_left _
        List.Perm _ (pausing s ++ taken [⟨s, m, u⟩] ++ taken trail) := by
          rw [← List.append_assoc]
          exact hs.called_perm_taken.append_right _
        _ = _ := List.append_assoc _ _ _

/-! ## Reporting -/

/-- What is reported is put behind what was reported before. -/
lemma Step.reported_eq (h : pool.Step s m t) :
    t.reported = s.reported ++ (reports [⟨s, m, t⟩]).map (·.2) := by
  have hmap : (reports [⟨s, m, t⟩]).map (·.2) = t.reported.drop s.reported.length := by
    simp [Transition.reports, Function.comp_def]
  rw [hmap]
  cases h with
  | giveUp | refuse | breakDown | finish => simp [Run.report, Run.beginCall, Run.endCall]
  | _ => simp [Run.beginCall, Run.endCall]

lemma Path.reported_eq (h : pool.Path s trail t) :
    t.reported = s.reported ++ (reports trail).map (·.2) := by
  induction h with
  | nil => simp
  | @cons s u t m trail hs hp ih =>
      rw [reports_split, ih, hs.reported_eq, List.map_append, List.append_assoc]

lemma Path.reported_begin (h : pool.Path (s.begin requests) trail t) :
    t.reported = (reports trail).map (·.2) := by
  simpa [Run.begin] using h.reported_eq

/-- Nothing is reported before the path begins. -/
lemma Path.now_le_reports (h : pool.Path s trail t) : ∀ entry ∈ reports trail, s.now ≤ entry.1 := by
  induction h with
  | nil => simp
  | @cons s u t m trail hs hp ih =>
      intro entry hm
      rw [reports_cons, List.mem_append] at hm
      rcases hm with hm | hm
      · obtain ⟨source, -, rfl⟩ := List.mem_map.mp hm
        exact le_rfl
      · exact hs.now_le.trans (ih entry hm)

/-- **Sources are reported one after another**: the times of the reports never go back. -/
lemma Path.reports_sorted (h : pool.Path s trail t) :
    ((reports trail).map (·.1)).Pairwise (· ≤ ·) := by
  induction h with
  | nil => simp
  | @cons s u t m trail hs hp ih =>
      rw [reports_cons, List.map_append, List.pairwise_append]
      refine ⟨?_, ih, ?_⟩
      · simp [Transition.reports]
      · simp only [Transition.reports, List.map_map, List.mem_map, Function.comp_apply]
        rintro _ ⟨source, -, rfl⟩ _ ⟨entry, hm, rfl⟩
        exact hs.now_le.trans (hp.now_le_reports entry hm)

/-- The error of the last source that has one. -/
def lastError (sources : List PageSource) : Option CrawlError :=
  sources.reverse.findSome? (·.error?)

lemma lastError_concat (sources : List PageSource) (source : PageSource) :
    lastError (sources ++ [source]) = source.error?.or (lastError sources) := by
  simp only [lastError, List.reverse_append, List.reverse_cons, List.reverse_nil, List.nil_append,
    List.cons_append, List.findSome?_cons]
  cases source.error? <;> rfl

lemma lastError_eq_none {sources : List PageSource} :
    lastError sources = none ↔ ∀ source ∈ sources, source.isOk = true := by
  simp [lastError, PageSource.isOk]

/-- The error of several sources is that of one of them. -/
lemma exists_of_lastError {sources : List PageSource} {e : CrawlError}
    (h : lastError sources = some e) : ∃ source ∈ sources, source.error? = some e := by
  obtain ⟨source, hm, hs⟩ := List.exists_of_findSome?_eq_some h
  exact ⟨source, List.mem_reverse.mp hm, hs⟩

lemma Step.error_eq (h : pool.Step s m t) (hs : s.error = lastError s.reported) :
    t.error = lastError t.reported := by
  cases h with
  | giveUp | refuse | breakDown | finish =>
      simp only [Run.report, lastError_concat]
      exact congrArg _ hs
  | _ => exact hs

/-- **The error of a batch is that of the last source that has one.** -/
lemma Path.error_eq (h : pool.Path (s.begin requests) trail t) :
    t.error = lastError t.reported :=
  h.invariant (P := fun s => s.error = lastError s.reported) Step.error_eq rfl

end Pool

end PageCrawl
