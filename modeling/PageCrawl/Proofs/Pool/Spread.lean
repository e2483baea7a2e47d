import PageCrawl.Proofs.Pool.Cancellation

/-!
# The spread of the work does not show in the results

Two pools that differ in the number of workers, in the pause before a request and in how long calls
take make their calls in entirely different orders, and when a request comes twice they race for
its attempts.  With a crawl function whose call number `k` for a request has one outcome
(`Crawler.Fixed`), what they give is the same but for the order.

**The serial log.**  `outcomes` reads the sources off a log of requests, as if one worker had
called them one after another.  It depends on the order of the log only by the order of its sources
(`outcomes_perm`): two entries for different requests do not look at each other, and two for the
same request are alike.

**Every order of moves.**  At the end of a batch that was never cancelled, the log is the old one
with the batch on top (`Path.called_perm`), and its sources are those of the old log with the
results of the batch on top (`Path.outcomes_perm`).  Neither fact asks in which order the moves
came.

**Without cancellation.**  `NeverCancelled` excludes a cancellation from outside and one by a call.
Such a pool stays `Clear`, which means that it is not cancelled and has no strays, from batch to
batch: `dispatch_clear`.
-/

namespace PageCrawl

namespace Crawler

/-- **A crawl function with fixed outcomes**: how call number `k` for a request ends does not
depend on what else is called, nor on the order of the calls.  How long it takes may. -/
def Fixed (crawler : Crawler) (outcome : String → Nat → Outcome) : Prop :=
  ∀ earlier request,
    (crawler earlier request).ending.outcome = outcome request (earlier.count request + 1)

/-- A crawl function that follows scripts has fixed outcomes. -/
lemma fixed_ofScripts (scripts : List (String × List Reply)) :
    (ofScripts scripts).Fixed fun request k =>
      (ofScripts scripts (List.replicate (k - 1) request) request).ending.outcome := by
  intro earlier request
  simp only [ofScripts, Nat.add_sub_cancel, List.count_replicate_self]

/-- What a crawl function cancels has nothing to do with its outcomes. -/
lemma Fixed.uncancelling {crawler : Crawler} {outcome : String → Nat → Outcome}
    (h : crawler.Fixed outcome) : crawler.uncancelling.Fixed outcome :=
  h

end Crawler

/-- Whether a call under way will cancel the pool when it ends. -/
def Hand.willCancel : Hand → Bool
  | ⟨_, .calling _ reply _⟩ => reply.cancels
  | _ => false

namespace Pool

variable {pool pool' : Pool} {s s' t t' : Run} {m : Move} {trail trail' : List Transition}
  {requests requests' : List String} {outcome : String → Nat → Outcome}
  {d d' : Dispatch}

/-- The pool is not cancelled, and nobody is left of a batch that was dropped. -/
structure Clear (s : Run) : Prop where
  uncancelled : s.cancelled = false
  strays_nil : s.strays = []

/-! ## The serial log -/

/-- The sources of the calls in a log, given as `Run.called`. -/
def outcomes (outcome : String → Nat → Outcome) : List String → List PageSource
  | [] => []
  | r :: earlier => ⟨r, outcome r (earlier.count r + 1)⟩ :: outcomes outcome earlier

lemma answers_eq_outcomes (h : pool.crawler.Fixed outcome) :
    ∀ log, pool.answers log = outcomes outcome log
  | [] => rfl
  | r :: earlier => by
      rw [answers, outcomes, answers_eq_outcomes h earlier, h]

/-- **The order of a log is only the order of its sources.** -/
lemma outcomes_perm (outcome : String → Nat → Outcome) {log log' : List String}
    (h : log.Perm log') :
    (outcomes outcome log).Perm (outcomes outcome log') := by
  induction h with
  | nil => exact List.Perm.refl _
  | cons r h ih =>
      -- which attempt this is depends only on how often the request stands in the rest
      rw [outcomes, outcomes, h.count_eq]
      exact ih.cons _
  | swap a b log =>
      by_cases hab : a = b
      · subst hab
        exact List.Perm.refl _
      · -- neither of the two counts among the attempts of the other
        simp only [outcomes, List.count_cons_of_ne hab, List.count_cons_of_ne (Ne.symm hab)]
        exact List.Perm.swap _ _ _
  | trans _ _ ih ih' => exact ih.trans ih'

/-! ## Every order of moves -/

/-- **A batch that was never cancelled is called as a whole**, each request as often as it came. -/
lemma Path.calls_perm (h : pool.Path (s.begin requests) trail t) (hn : s.strays = [])
    (hd : t.isDone = true) (hc : t.cancelled = false) :
    ((calls trail).map (·.request)).Perm requests := by
  have hp := h.requests_perm hd
  have hr : t.reported.filter (·.isCancelled) = [] := h.refused_eq hc
  rwa [hr, List.map_nil, List.append_nil, h.calls_own hn] at hp

lemma Path.called_perm (h : pool.Path (s.begin requests) trail t) (hn : s.strays = [])
    (hd : t.isDone = true) (hc : t.cancelled = false) : t.called.Perm (requests ++ s.called) := by
  rw [h.called_log]
  exact ((List.reverse_perm _).trans (h.calls_perm hn hd hc)).append_right _

/-- **The results of a batch are what its calls put on top of the log.** -/
lemma Path.results_perm (h : pool.Path (s.begin requests) trail t) (hn : s.strays = [])
    (hd : t.isDone = true) (hc : t.cancelled = false) :
    (t.reported ++ pool.answers s.called).Perm (pool.answers t.called) := by
  have hall : t.reported.filter (!·.isCancelled) = t.reported :=
    PageSource.filter_isCancelled_eq_nil.mp (h.refused_eq hc)
  have hp := h.answers_perm hd
  rw [hall, h.calls_own hn] at hp
  rw [h.answers_eq]
  exact (hp.trans (List.reverse_perm _).symm).append_right _

lemma Path.outcomes_perm (h : pool.Path (s.begin requests) trail t) (hn : s.strays = [])
    (hd : t.isDone = true) (hc : t.cancelled = false) (hf : pool.crawler.Fixed outcome) :
    (t.reported ++ outcomes outcome s.called).Perm (outcomes outcome t.called) := by
  rw [← answers_eq_outcomes hf, ← answers_eq_outcomes hf]
  exact h.results_perm hn hd hc

/-- **Two paths to the end of one batch give the same sources**, whatever the pools, the order of
the batch and the order of the moves. -/
lemma Path.reported_perm_reported (h : pool.Path (s.begin requests) trail t)
    (h' : pool'.Path (s'.begin requests') trail' t') (hf : pool.crawler.Fixed outcome)
    (hf' : pool'.crawler.Fixed outcome) (hs : Clear s) (hs' : Clear s')
    (hl : s.called.Perm s'.called) (hr : requests.Perm requests') (hd : t.isDone = true)
    (hd' : t'.isDone = true) (hc : t.cancelled = false) (hc' : t'.cancelled = false) :
    t.called.Perm t'.called ∧ t.reported.Perm t'.reported := by
  have hn := hs.strays_nil
  have hn' := hs'.strays_nil
  have hcalled : t.called.Perm t'.called :=
    (h.called_perm hn hd hc).trans ((hr.append hl).trans (h'.called_perm hn' hd' hc').symm)
  refine ⟨hcalled, ?_⟩
  have hlog : (t.reported ++ outcomes outcome s.called).Perm
      (t'.reported ++ outcomes outcome s'.called) :=
    (h.outcomes_perm hn hd hc hf).trans ((Pool.outcomes_perm outcome hcalled).trans
      (h'.outcomes_perm hn' hd' hc' hf').symm)
  -- the sources of the two old logs are the same, and are taken away
  have hold := (Pool.outcomes_perm outcome hl).append_left t'.reported
  exact (List.perm_append_right_iff _).mp (hlog.trans hold.symm)

/-! ## Without cancellation -/

/-- Neither the outside nor a call ever cancels the pool. -/
structure NeverCancelled (pool : Pool) : Prop where
  outside : pool.cancelAt = none
  calls : ∀ earlier request, (pool.crawler earlier request).mayCancel = false

/-- A clear state in which no call under way is going to cancel the pool. -/
structure Calm (s : Run) : Prop extends Clear s where
  hands : ∀ h ∈ s.hands, h.willCancel = false

/-- Requests move on in a calm state: it stays calm, unless it is cancelled from outside. -/
lemma Step.calm (h : pool.Step s m t)
    (hn : ∀ earlier request, (pool.crawler earlier request).mayCancel = false) (hm : m ≠ .cancel)
    (hs : Calm s) : Calm t := by
  have hbegin := fun r => Reply.cancelsAtOnce_of_mayCancel (hn s.called r)
  have hstrays := h.strays_nil hs.strays_nil
  have hc := hs.uncancelled
  have hsub : ∀ i, ∀ h ∈ s.hands.eraseIdx i, h.willCancel = false := fun i h hh =>
    hs.hands h (List.mem_of_mem_eraseIdx hh)
  cases h with
  | cancel => exact absurd rfl hm
  | giveUp hc' | refuse hc' =>
      -- only a cancelled pool does this
      rw [hc] at hc'
      cases hc'
  | take =>
      refine ⟨⟨hc, hstrays⟩, fun h hh => ?_⟩
      rcases List.mem_append.mp hh with hh | hh
      · exact hs.hands h hh
      · rw [List.mem_singleton.mp hh]
        rfl
  | call hh hd ha =>
      refine ⟨⟨by simp [hc, hbegin], hstrays⟩, fun h hh => ?_⟩
      rcases List.mem_or_eq_of_mem_set hh with hh | rfl
      · exact hs.hands h hh
      · exact Reply.cancels_of_mayCancel (hn _ _)
  | breakDown => exact ⟨⟨by simp [Run.report, hc, hbegin], hstrays⟩, hsub _⟩
  | @finish i k d r reply hh hd =>
      have hr : reply.cancels = false := hs.hands _ (List.mem_of_getElem? hh)
      exact ⟨⟨by simp [Run.report, hc, hr], hstrays⟩, hsub _⟩
  | strayCall hh | strayBreakDown hh | strayFinish hh =>
      rw [hs.strays_nil] at hh
      cases hh
  | feed | wait => exact ⟨⟨hc, hstrays⟩, hs.hands⟩

lemma NeverCancelled.ne_cancel (h : pool.NeverCancelled) (hn : pool.Next s m) : m ≠ .cancel := by
  rintro rfl
  cases hn with
  | cancel hp =>
      rw [cancelPending, h.outside, ite_self] at hp
      cases hp

lemma Path.calm (h : pool.Path s trail t) (hn : pool.NeverCancelled)
    (ho : pool.Scheduled trail) (hs : Calm s) : Calm t := by
  induction h with
  | nil => exact hs
  | cons hstep _ ih => exact ih ho.tail (hstep.calm hn.calls (hn.ne_cancel ho.next) hs)

lemma Clear.begin (h : Clear s) (requests : List String) : Calm (s.begin requests) :=
  ⟨⟨h.uncancelled, h.strays_nil⟩, by simp [Run.begin]⟩

/-- **A clear pool that is never cancelled comes to the end of its batch and is clear again.** -/
lemma dispatch_clear (hn : pool.NeverCancelled) (hs : Clear s) (requests : List String) :
    ∃ t trail, pool.dispatch none requests s = (t, some ⟨t.reported, t.error⟩) ∧
      pool.Path (s.begin requests) trail t ∧ t.isDone = true ∧ Clear t := by
  obtain ⟨t, hd, ht⟩ := dispatch_none pool s requests
  obtain ⟨⟨trail, hp, ho⟩, -, -⟩ := dispatch_eq_some ht
  exact ⟨t, trail, ht, hp, hd, (hp.calm hn ho (hs.begin requests)).toClear⟩

/-! ## Two pools -/

/-- **What two dispatches have in common** when they differ only in the order of their results. -/
structure SameResults (d d' : Dispatch) : Prop where
  results : d.results.Perm d'.results
  failedCount : d.failedCount = d'.failedCount
  intoResult : d.intoResult.isOk = d'.intoResult.isOk

lemma intoResult_isOk (d : Dispatch) : d.intoResult.isOk = true ↔ d.error = none := by
  unfold Dispatch.intoResult
  split
  · next h => simp [h, Except.isOk, Except.toBool]
  · next h => simp [h, Except.isOk, Except.toBool]

lemma SameResults.of_perm (h : d.results.Perm d'.results) (he : d.error = lastError d.results)
    (he' : d'.error = lastError d'.results) : SameResults d d' := by
  refine ⟨h, h.countP_eq _, ?_⟩
  -- which error came last depends on the order, whether there is one does not
  rw [Bool.eq_iff_iff, intoResult_isOk, intoResult_isOk, he, he', lastError_eq_none,
    lastError_eq_none]
  exact forall_congr' fun source => by rw [h.mem_iff]

lemma SameResults.error_eq_none_iff (h : SameResults d d') : d.error = none ↔ d'.error = none := by
  rw [← intoResult_isOk, h.intoResult, intoResult_isOk]

/-- **One batch in two clear pools**: both come to its end, with the same results and the same
calls but for the order, and both are clear again. -/
lemma dispatch_same (hf : pool.crawler.Fixed outcome) (hf' : pool'.crawler.Fixed outcome)
    (hn : pool.NeverCancelled) (hn' : pool'.NeverCancelled) (hs : Clear s) (hs' : Clear s')
    (hl : s.called.Perm s'.called) (hr : requests.Perm requests') :
    ∃ t t' d d', pool.dispatch none requests s = (t, some d) ∧
      pool'.dispatch none requests' s' = (t', some d') ∧ SameResults d d' ∧ Clear t ∧ Clear t' ∧
      t.called.Perm t'.called := by
  obtain ⟨t, trail, ht, hp, hd, hc⟩ := dispatch_clear hn hs requests
  obtain ⟨t', trail', ht', hp', hd', hc'⟩ := dispatch_clear hn' hs' requests'
  obtain ⟨hcalled, hreported⟩ := hp.reported_perm_reported hp' hf hf' hs hs' hl hr hd hd'
    hc.uncancelled hc'.uncancelled
  exact ⟨t, t', _, _, ht, ht', SameResults.of_perm hreported hp.error_eq hp'.error_eq, hc, hc',
    hcalled⟩

/-- **The results of a batch do not depend on how the work is spread.**  Take two clear pools whose
crawl functions have the same fixed outcomes, with the same log but for the order.  Whatever they
differ in (workers, pause, how long calls take) and whatever the order in which things happen, two
paths to the end of the batch that are not cancelled give the same results but for the order, fail
as often, and both collapse into their results or both do not.  If the pools are never cancelled,
both dispatches come to that end. -/
theorem spread_keeps_results {pool pool' : Pool} {outcome : String → Nat → Outcome}
    (hf : pool.crawler.Fixed outcome) (hf' : pool'.crawler.Fixed outcome) {s s' : Run}
    (hs : Clear s) (hs' : Clear s') (hl : s.called.Perm s'.called) (requests : List String) :
    (∀ trail t trail' t', pool.Path (s.begin requests) trail t → t.isDone = true →
      t.cancelled = false → pool'.Path (s'.begin requests) trail' t' → t'.isDone = true →
      t'.cancelled = false → SameResults ⟨t.reported, t.error⟩ ⟨t'.reported, t'.error⟩) ∧
    (pool.NeverCancelled → pool'.NeverCancelled →
      ∃ t t' d d', pool.dispatch none requests s = (t, some d) ∧
        pool'.dispatch none requests s' = (t', some d') ∧ SameResults d d' ∧
        t.called.Perm t'.called) := by
  refine ⟨fun trail t trail' t' hp hd hc hp' hd' hc' => ?_, fun hn hn' => ?_⟩
  · have hperm := hp.reported_perm_reported hp' hf hf' hs hs' hl (List.Perm.refl _) hd hd' hc hc'
    exact SameResults.of_perm hperm.2 hp.error_eq hp'.error_eq
  · obtain ⟨t, t', d, d', ht, ht', hsame, -, -, hcalled⟩ :=
      dispatch_same hf hf' hn hn' hs hs' hl (List.Perm.refl requests)
    exact ⟨t, t', d, d', ht, ht', hsame, hcalled⟩

/-- Three attempts at one request, the second of which is slow and the third fails, and a call that
breaks down before it has begun: one worker that pauses, and three that do not. -/
theorem spread_keeps_results_repeated :
    let crawler := (Crawler.ofScripts
      [("a", [{ ending := .page "A" }, { duration := 9, ending := .page "B" },
              { duration := 2, ending := .error ["outer", "root"] }]),
       ("b", [{ ending := .panic .other, atCall := true }])]).uncancelling
    let pool : Pool := ⟨.new 1 2, crawler, none⟩
    let pool' : Pool := ⟨.new 3 0, crawler, none⟩
    let results : List PageSource :=
      [⟨"a", .page "A"⟩, ⟨"a", .page "B"⟩, ⟨"b", .panicked "unknown panic payload"⟩,
       ⟨"a", .failed "outer: root"⟩, ⟨"c", .page "c"⟩]
    let results' : List PageSource :=
      [⟨"a", .page "A"⟩, ⟨"b", .panicked "unknown panic payload"⟩, ⟨"c", .page "c"⟩,
       ⟨"a", .failed "outer: root"⟩, ⟨"a", .page "B"⟩]
    pool.crawler.Fixed (fun request k =>
        (crawler (List.replicate (k - 1) request) request).ending.outcome) ∧
      pool.NeverCancelled ∧ pool'.NeverCancelled ∧
      ∃ t t' d d', pool.dispatch none ["a", "a", "b", "a", "c"] {} = (t, some d) ∧
        pool'.dispatch none ["a", "a", "b", "a", "c"] {} = (t', some d') ∧
        d.results = results ∧ d'.results = results' ∧ SameResults d d' := by
  intro crawler pool pool' results results'
  have hf : pool.crawler.Fixed fun request k =>
      (crawler (List.replicate (k - 1) request) request).ending.outcome :=
    (Crawler.fixed_ofScripts _).uncancelling
  have hf' : pool'.crawler.Fixed _ := hf
  have hn : pool.NeverCancelled := ⟨rfl, fun _ _ => rfl⟩
  have hn' : pool'.NeverCancelled := ⟨rfl, fun _ _ => rfl⟩
  have hs : Clear {} := ⟨rfl, rfl⟩
  obtain ⟨t, t', d, d', ht, ht', hsame, -⟩ :=
    (spread_keeps_results hf hf' hs hs (List.Perm.refl _) ["a", "a", "b", "a", "c"]).2 hn hn'
  have hd : (pool.dispatch none ["a", "a", "b", "a", "c"] {}).2.map (·.results)
      = some results := by
    decide +kernel
  have hd' : (pool'.dispatch none ["a", "a", "b", "a", "c"] {}).2.map (·.results)
      = some results' := by
    decide +kernel
  rw [ht] at hd
  rw [ht'] at hd'
  exact ⟨hf, hn, hn', t, t', d, d', ht, ht', by simpa using hd, by simpa using hd', hsame⟩

end Pool

end PageCrawl
