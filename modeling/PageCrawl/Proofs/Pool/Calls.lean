import PageCrawl.Proofs.Pool.Conservation

/-!
# Calls and sources belong together

Sources come back in the order in which calls end, and a batch may hold a request twice; what ties
a source to a call is only the request.  This file shows that nothing gets mixed up: the sources
that are not cancelled and the calls of the batch pair off, and each source of a pair tells how
its own call went.

**What is owed.**  Between the beginning of a call and its source the outcome is on its way:
`Run.owed` lists the sources that the calls under way will give.  A call that begins puts its
source there (or reports it at once, if it breaks down before it has begun), and a call that ends
takes its source from there: `Step.crawled_perm`.

**What is uncalled.**  A request that no call was made for is with the feeder, in the queue, in
the hands of a worker that pauses, or reported as cancelled: `Run.uncalled`.  It leaves this
collection only by a call for it: `Step.uncalled_perm`.

The two together are `Matches`, and `calls_match_sources` states it for every path to the end of a
batch and for every dispatch.  The log of the pool grows with the calls (`Path.log_eq`), so the
sources that calls gave can be read off it as well (`Path.answers_eq`).  A pool may still have
strays of a batch that was dropped.  Their calls stand in the same log, but they are not calls of
the batch, and no source speaks of them.
-/

namespace PageCrawl

namespace PageSource

/-- Whether a source says that its request was never crawled. -/
def isCancelled (source : PageSource) : Bool := source.outcome == .cancelled

/-- **What a source has to say of a call** for a request that ended in the given way. -/
def Tells (source : PageSource) (request : String) : CallEnding → Prop
  | .page text =>
      source.request = request ∧ source.page? = some text ∧ source.error? = none
  | .error chain =>
      source.request = request ∧ source.page? = none ∧
        source.error? = some (.failed request (String.intercalate ": " chain))
  | .panic (.text message) =>
      source.request = request ∧ source.page? = none ∧
        source.error? = some (.panicked request message)
  | .panic .other =>
      source.request = request ∧ source.page? = none ∧
        source.error? = some (.panicked request "unknown panic payload")

lemma tells_outcome (request : String) :
    ∀ ending : CallEnding, (⟨request, ending.outcome⟩ : PageSource).Tells request ending
  | .page _ => ⟨rfl, rfl, rfl⟩
  | .error _ => ⟨rfl, rfl, rfl⟩
  | .panic (.text _) => ⟨rfl, rfl, rfl⟩
  | .panic .other => ⟨rfl, rfl, rfl⟩

/-- No call ends as cancelled. -/
lemma isCancelled_outcome (request : String) :
    ∀ ending : CallEnding, (⟨request, ending.outcome⟩ : PageSource).isCancelled = false
  | .page _ => rfl
  | .error _ => rfl
  | .panic (.text _) => rfl
  | .panic .other => rfl

@[simp] lemma isCancelled_cancelled (request : String) :
    (⟨request, .cancelled⟩ : PageSource).isCancelled = true := rfl

/-- A cancelled source is known by its request. -/
lemma eq_of_isCancelled {source : PageSource} (h : source.isCancelled = true) :
    source = ⟨source.request, .cancelled⟩ := by
  obtain ⟨request, outcome⟩ := source
  simp only [isCancelled, beq_iff_eq] at h
  rw [h]

lemma filter_isCancelled_eq_nil {sources : List PageSource} :
    sources.filter (·.isCancelled) = [] ↔ sources.filter (!·.isCancelled) = sources := by
  simp [List.filter_eq_nil_iff, List.filter_eq_self]

/-- A source has exactly one of page and error. -/
lemma page?_isSome_iff (source : PageSource) :
    source.page?.isSome = true ↔ source.error? = none := by
  rw [page?_isSome_eq_isOk, isOk, Option.isNone_iff_eq_none]

end PageSource

/-- The source that a call under way will give. -/
def Hand.owed? : Hand → Option PageSource
  | ⟨r, .calling _ reply _⟩ => some ⟨r, reply.ending.outcome⟩
  | _ => none

namespace Run

/-- The sources so far of requests that were crawled. -/
def crawled (s : Run) : List PageSource := s.reported.filter (!·.isCancelled)

/-- The sources so far of requests that were cancelled. -/
def refused (s : Run) : List PageSource := s.reported.filter (·.isCancelled)

/-- The sources that calls under way will give. -/
def owed (s : Run) : List PageSource := s.hands.filterMap Hand.owed?

/-- The requests of the batch that no call was made for. -/
def uncalled (s : Run) : List String :=
  s.waiting ++ s.slot.toList ++ s.hands.filterMap Hand.pausing? ++ s.refused.map (·.request)

end Run

namespace Pool

variable {pool : Pool} {s t : Run} {m : Move} {trail : List Transition} {requests : List String}

/-- The source of a call. -/
def answer (pool : Pool) (b : Beginning) : PageSource :=
  ⟨b.request, (pool.replyTo b).ending.outcome⟩

@[simp] lemma answer_request (b : Beginning) : (pool.answer b).request = b.request := rfl

/-! ## One transition -/

lemma ownCalls_pausing {i d : Nat} {r : String} (hh : s.hands[i]? = some ⟨r, .pausing d⟩) :
    ownCalls [⟨s, .goOn i, t⟩] = [⟨r, s.now, s.called, true⟩] := by
  simp [Transition.call?, beginning?, hh]

lemma ownCalls_calling {i k d : Nat} {r : String} {reply : Reply}
    (hh : s.hands[i]? = some ⟨r, .calling k reply d⟩) : ownCalls [⟨s, .goOn i, t⟩] = [] := by
  simp [Transition.call?, beginning?, hh]

/-- The calls of strays are not calls of the batch. -/
lemma ownCalls_strayOn (i : Nat) : ownCalls [⟨s, .strayOn i, t⟩] = [] := by
  simp only [ownCalls_cons, Transition.call?, ownCalls_nil, List.append_nil]
  unfold beginning?
  split <;> rfl

/-- **A call puts its source on the way, and the end of the call reports it.** -/
lemma Step.crawled_perm (h : pool.Step s m t) :
    (t.crawled ++ t.owed).Perm
      ((ownCalls [⟨s, m, t⟩]).map pool.answer ++ (s.crawled ++ s.owed)) := by
  cases h with
  | @call i d r hh hd ha =>
      obtain ⟨l, l', hx, hset, -, -⟩ := exists_split hh
      rw [ownCalls_pausing hh]
      simp only [Run.crawled, Run.owed, Run.beginCall, hset]
      simp only [hx, List.filterMap_append, List.filterMap_cons, Hand.owed?, List.map_cons,
        List.map_nil, List.cons_append, List.nil_append]
      rw [← List.append_assoc, ← List.append_assoc]
      exact List.perm_middle
  | @breakDown i d r hh hd ha =>
      obtain ⟨l, l', hx, -, he, -⟩ := exists_split hh
      rw [ownCalls_pausing hh]
      simp only [Run.crawled, Run.owed, Run.beginCall, Run.report, he]
      simp only [hx, List.filterMap_append, List.filterMap_cons, Hand.owed?, List.map_cons,
        List.map_nil, List.cons_append, List.nil_append, List.filter_append, List.filter_cons,
        List.filter_nil, PageSource.isCancelled_outcome, Bool.not_false, ↓reduceIte,
        List.append_assoc]
      exact List.perm_middle
  | @finish i k d r reply hh hd =>
      obtain ⟨l, l', hx, -, he, -⟩ := exists_split hh
      rw [ownCalls_calling hh]
      simp only [Run.crawled, Run.owed, Run.endCall, Run.report, he]
      simp only [hx, List.filterMap_append, List.filterMap_cons, Hand.owed?, List.map_nil,
        List.cons_append, List.nil_append, List.filter_append, List.filter_cons, List.filter_nil,
        PageSource.isCancelled_outcome, Bool.not_false, ↓reduceIte, List.append_assoc]
      exact List.Perm.append_left _ List.perm_middle.symm
  | strayCall | strayBreakDown | strayFinish =>
      rw [ownCalls_strayOn]
      exact List.Perm.refl _
  | giveUp hc hw | refuse hc hs hf =>
      simp [Run.crawled, Run.owed, Run.report, Transition.call?]
  | take hc hs hf =>
      simp [Run.crawled, Run.owed, Transition.call?, List.filterMap_cons, Hand.owed?]
  | cancel | feed | wait => exact List.Perm.refl _

/-- **A request stays uncalled until a call is made for it.** -/
lemma Step.uncalled_perm (h : pool.Step s m t) :
    ((ownCalls [⟨s, m, t⟩]).map (·.request) ++ t.uncalled).Perm s.uncalled := by
  rw [List.perm_iff_count]
  intro a
  cases h with
  | @call i d r hh hd ha =>
      obtain ⟨l, l', hx, hset, -, -⟩ := exists_split hh
      rw [ownCalls_pausing hh]
      simp only [Run.uncalled, Run.refused, Run.beginCall, hset]
      simp only [hx, List.filterMap_append, List.filterMap_cons, Hand.pausing?, List.map_cons,
        List.map_nil, List.count_append, List.count_cons, List.count_nil]
      omega
  | @breakDown i d r hh hd ha =>
      obtain ⟨l, l', hx, -, he, -⟩ := exists_split hh
      rw [ownCalls_pausing hh]
      simp only [Run.uncalled, Run.refused, Run.beginCall, Run.report, he]
      simp only [hx, List.filterMap_append, List.filterMap_cons, Hand.pausing?, List.map_cons,
        List.map_nil, List.count_append, List.count_cons, List.count_nil, List.filter_append,
        List.filter_cons, List.filter_nil, PageSource.isCancelled_outcome, Bool.false_eq_true,
        ↓reduceIte, List.append_nil]
      omega
  | @finish i k d r reply hh hd =>
      obtain ⟨l, l', hx, -, he, -⟩ := exists_split hh
      rw [ownCalls_calling hh]
      simp only [Run.uncalled, Run.refused, Run.endCall, Run.report, he]
      simp only [hx, List.filterMap_append, List.filterMap_cons, Hand.pausing?, List.map_nil,
        List.count_append, List.count_nil, List.filter_append, List.filter_cons, List.filter_nil,
        PageSource.isCancelled_outcome, Bool.false_eq_true, ↓reduceIte, List.append_nil]
      omega
  | strayCall | strayBreakDown | strayFinish =>
      rw [ownCalls_strayOn]
      rfl
  | giveUp hc hw =>
      simp only [ownCalls_cons, Transition.call?, Run.uncalled, Run.refused, Run.report, hw,
        List.filter_append, List.filter_cons, PageSource.isCancelled_cancelled, ↓reduceIte,
        List.filter_nil, List.map_append, List.map_cons, List.map_nil, List.count_append,
        List.count_cons, List.count_nil, Option.toList_none, ownCalls_nil, List.append_nil]
      omega
  | refuse hc hs hf =>
      simp only [ownCalls_cons, Transition.call?, Run.uncalled, Run.refused, Run.report, hs,
        List.filter_append, List.filter_cons, PageSource.isCancelled_cancelled, ↓reduceIte,
        List.filter_nil, List.map_append, List.map_cons, List.map_nil, List.count_append,
        List.count_cons, List.count_nil, Option.toList_none, Option.toList_some, ownCalls_nil,
        List.append_nil]
      omega
  | feed hc hs hw =>
      simp only [ownCalls_cons, Transition.call?, Run.uncalled, Run.refused, hs, hw,
        List.filter_nil, List.map_nil, List.count_append, List.count_cons, List.count_nil,
        Option.toList_none, Option.toList_some, ownCalls_nil, List.append_nil]
      omega
  | take hc hs hf =>
      simp only [ownCalls_cons, Transition.call?, Run.uncalled, Run.refused, hs,
        List.filterMap_append, List.filterMap_cons, List.filterMap_nil, Hand.pausing?,
        List.filter_nil, List.map_nil, List.count_append, List.count_cons, List.count_nil,
        Option.toList_none, Option.toList_some, ownCalls_nil, List.append_nil]
      omega
  | cancel | wait => rfl

/-! ## Paths -/

lemma Path.crawled_perm (h : pool.Path s trail t) :
    (t.crawled ++ t.owed).Perm ((ownCalls trail).map pool.answer ++ (s.crawled ++ s.owed)) := by
  induction h with
  | nil => exact List.Perm.refl _
  | @cons s u t m trail hs hp ih =>
      rw [ownCalls_split, List.map_append]
      -- the later calls come before the earlier ones here, so the two groups change places
      refine (ih.trans (hs.crawled_perm.append_left _)).trans ?_
      rw [← List.append_assoc]
      exact List.perm_append_comm.append_right _

lemma Path.uncalled_perm (h : pool.Path s trail t) :
    ((ownCalls trail).map (·.request) ++ t.uncalled).Perm s.uncalled := by
  induction h with
  | nil => exact List.Perm.refl _
  | @cons s u t m trail hs hp ih =>
      rw [ownCalls_split, List.map_append, List.append_assoc]
      exact (ih.append_left _).trans hs.uncalled_perm

end Pool

/-- What the log says of a call when it begins. -/
def Call.key (c : Call) : String × Nat × Nat := (c.request, c.attempt, c.start)

namespace Pool

variable {pool : Pool} {s t : Run} {m : Move} {trail : List Transition} {requests : List String}

/-- What the log will say of a call that begins. -/
def Beginning.key (b : Beginning) : String × Nat × Nat := (b.request, b.attempt, b.start)

/-- The end of a call changes nothing in the log but when the call ended. -/
lemma map_endCall {α : Type} (f : Call → α) (hf : ∀ c n, f { c with finish := n } = f c) (s : Run)
    (r : String) (k : Nat) : (s.endCall r k).calls.map f = s.calls.map f := by
  simp only [Run.endCall, List.map_map]
  refine List.map_congr_left fun c _ => ?_
  simp only [Function.comp_apply]
  split
  · exact hf c (some s.now)
  · rfl

lemma endCall_keys (s : Run) (r : String) (k : Nat) :
    (s.endCall r k).calls.map Call.key = s.calls.map Call.key :=
  map_endCall Call.key (fun _ _ => rfl) s r k

lemma endCall_called (s : Run) (r : String) (k : Nat) : (s.endCall r k).called = s.called :=
  map_endCall (·.request) (fun _ _ => rfl) s r k

/-- **The log grows by the call that begins, and by nothing else.** -/
lemma Step.log_eq (h : pool.Step s m t) :
    t.calls.map Call.key
      = ((calls [⟨s, m, t⟩]).map Beginning.key).reverse ++ s.calls.map Call.key := by
  cases h with
  | call hh hd ha | breakDown hh hd ha | strayCall hh hd ha | strayBreakDown hh hd ha =>
      simp [Run.beginCall, Run.report, Transition.call?, beginning?, hh, Call.key, Beginning.key,
        Beginning.attempt, Run.nextAttempt]
  | finish hh hd | strayFinish hh hd =>
      simp only [Run.report, endCall_keys]
      simp [Transition.call?, beginning?, hh]
  | cancel | giveUp | feed | refuse | take | wait => rfl

lemma Path.log_eq (h : pool.Path s trail t) :
    t.calls.map Call.key
      = ((calls trail).map Beginning.key).reverse ++ s.calls.map Call.key := by
  induction h with
  | nil => rfl
  | @cons s u t m trail hs hp ih =>
      rw [calls_split, ih, hs.log_eq, List.map_append, List.reverse_append, List.append_assoc]

/-- The log grows by the requests of the calls that begin. -/
lemma Path.called_log (h : pool.Path s trail t) :
    t.called = ((calls trail).map (·.request)).reverse ++ s.called := by
  have hl := congrArg (List.map Prod.fst) h.log_eq
  rw [List.map_append, List.map_reverse, List.map_map, List.map_map, List.map_map] at hl
  exact hl

lemma earlier_of_beginning? {own : Bool} {hand : Option Hand} {c : Beginning}
    (h : beginning? s own hand = some c) : c.earlier = s.called := by
  unfold beginning? at h
  split at h
  · cases h
    rfl
  · cases h

lemma earlier_of_call? {c : Beginning} (h : Transition.call? ⟨s, m, t⟩ = some c) :
    c.earlier = s.called := by
  cases m with
  | goOn i | strayOn i => exact earlier_of_beginning? h
  | _ => cases h

/-- **What the crawl function knows of earlier calls** are the calls before this one, on top of the
log. -/
lemma Path.earlier_eq {i : Nat} {c : Beginning} (h : pool.Path s trail t)
    (hc : (calls trail)[i]? = some c) :
    c.earlier = (((calls trail).take i).map (·.request)).reverse ++ s.called := by
  induction h generalizing i with
  | nil => simp at hc
  | @cons s u t m trail hs hp ih =>
      have hlog := (Path.cons hs (Path.nil u)).called_log
      rw [calls_cons] at hc ⊢
      cases hcall : Transition.call? ⟨s, m, u⟩ with
      | none =>
          simp only [hcall, calls_cons, Option.toList_none, List.nil_append, calls_nil,
            List.map_nil, List.reverse_nil] at hc hlog ⊢
          rw [ih hc, hlog]
      | some first =>
          simp only [hcall, calls_cons, Option.toList_some, List.cons_append, List.nil_append,
            calls_nil, List.map_cons, List.map_nil, List.reverse_singleton] at hc hlog ⊢
          cases i with
          | zero =>
              obtain rfl : first = c := by simpa using hc
              simpa using earlier_of_call? hcall
          | succ i => simp [ih (by simpa using hc), hlog]

/-- The sources of the calls in a log, given as `Run.called`. -/
def answers (pool : Pool) : List String → List PageSource
  | [] => []
  | r :: earlier => ⟨r, (pool.crawler earlier r).ending.outcome⟩ :: pool.answers earlier

lemma answers_requests (pool : Pool) : ∀ log, (pool.answers log).map (·.request) = log
  | [] => rfl
  | _ :: earlier => congrArg _ (answers_requests pool earlier)

/-- **What the log says of the crawl function** grows by the source of the call that begins. -/
lemma Step.answers_eq (h : pool.Step s m t) :
    pool.answers t.called
      = ((calls [⟨s, m, t⟩]).map pool.answer).reverse ++ pool.answers s.called := by
  cases h with
  | call hh hd ha | breakDown hh hd ha | strayCall hh hd ha | strayBreakDown hh hd ha =>
      simp only [calls_cons, Transition.call?, hh, beginning?]
      rfl
  | finish hh hd | strayFinish hh hd =>
      simp only [calls_cons, Transition.call?, hh, beginning?]
      exact congrArg pool.answers (endCall_called s _ _)
  | cancel | giveUp | feed | refuse | take | wait => rfl

lemma Path.answers_eq (h : pool.Path s trail t) :
    pool.answers t.called
      = ((calls trail).map pool.answer).reverse ++ pool.answers s.called := by
  induction h with
  | nil => rfl
  | @cons s u t m trail hs hp ih =>
      rw [calls_split, ih, hs.answers_eq, List.map_append, List.reverse_append, List.append_assoc]

/-- A pool without strays has none while a batch runs. -/
lemma Step.strays_nil (h : pool.Step s m t) (hn : s.strays = []) : t.strays = [] := by
  cases h with
  | strayCall hh | strayBreakDown hh | strayFinish hh => simp [hn] at hh
  | _ => exact hn

lemma Path.strays_nil (h : pool.Path s trail t) (hn : s.strays = []) : t.strays = [] :=
  h.invariant (P := fun s => s.strays = []) Step.strays_nil hn

/-- In a pool without strays every call is one of the batch. -/
lemma Path.calls_own (h : pool.Path s trail t) (hn : s.strays = []) :
    ownCalls trail = calls trail := by
  induction h with
  | nil => rfl
  | @cons s u t m trail hs hp ih =>
      rw [ownCalls_cons, calls_cons, ih (hs.strays_nil hn)]
      congr 1
      cases hs with
      | call hh | breakDown hh | finish hh => simp [Transition.call?, beginning?, hh]
      | strayCall hh | strayBreakDown hh | strayFinish hh => simp [hn] at hh
      | _ => rfl

/-! ## The end of a batch -/

/-- **Calls and sources belong together**: what the sources of a batch and the calls made for it
have to do with each other. -/
structure Matches (pool : Pool) (requests : List String) (calls : List Beginning)
    (results : List PageSource) : Prop where
  /-- The sources that are not cancelled pair off with the calls, and each tells how its own call
  went. -/
  pairs : ∃ sources : List PageSource, sources.Perm (results.filter (!·.isCancelled)) ∧
    List.Forall₂ (fun source call => source.Tells call.request (pool.replyTo call).ending)
      sources calls
  /-- Each request of the batch either has a call or is reported as cancelled, and not both. -/
  requests_perm :
    (calls.map (·.request) ++ (results.filter (·.isCancelled)).map (·.request)).Perm requests
  /-- A source has exactly one of page and error, and its error names its own request. -/
  sound : ∀ source ∈ results, (source.page?.isSome = true ↔ source.error? = none) ∧
    ∀ e, source.error? = some e → e.request = source.request

/-- At the end of a batch nothing is owed: the calls have given their sources. -/
lemma Path.answers_perm (h : pool.Path (s.begin requests) trail t) (hd : t.isDone = true) :
    (t.reported.filter (!·.isCancelled)).Perm ((ownCalls trail).map pool.answer) := by
  have hc := h.crawled_perm
  simpa [Run.crawled, Run.owed, (isDone_iff.mp hd).2.2, Run.begin] using hc

/-- At the end of a batch all that is uncalled is reported as cancelled. -/
lemma Path.requests_perm (h : pool.Path (s.begin requests) trail t) (hd : t.isDone = true) :
    ((ownCalls trail).map (·.request) ++
      (t.reported.filter (·.isCancelled)).map (·.request)).Perm requests := by
  obtain ⟨hw, hs, hh⟩ := isDone_iff.mp hd
  have hu := h.uncalled_perm
  simpa [Run.uncalled, Run.refused, hw, hs, hh, Run.begin] using hu

lemma Path.matches (h : pool.Path (s.begin requests) trail t) (hd : t.isDone = true) :
    pool.Matches requests (ownCalls trail) t.reported := by
  refine ⟨⟨(ownCalls trail).map pool.answer, (h.answers_perm hd).symm, ?_⟩, h.requests_perm hd,
    fun source _ => ⟨source.page?_isSome_iff, fun e he => PageSource.request_of_error? he⟩⟩
  rw [List.forall₂_map_left_iff, List.forall₂_same]
  exact fun b _ => PageSource.tells_outcome _ _

/-- **Every call gives one source, and every source comes from one call or from none.**  On every
path to the end of a batch, and for every dispatch that is not dropped, the calls made for the
batch and its sources match; the log of the pool holds these calls and those of strays, and
without strays only these. -/
theorem calls_match_sources (pool : Pool) (requests : List String) (s : Run) :
    (∀ trail t, pool.Path (s.begin requests) trail t → t.isDone = true →
      pool.Matches requests (ownCalls trail) t.reported) ∧
    (∀ limit t d, pool.dispatch limit requests s = (t, some d) →
      ∃ trail, pool.Path (s.begin requests) trail t ∧
        pool.Matches requests (ownCalls trail) d.results ∧
        t.calls.map Call.key
          = ((calls trail).map Beginning.key).reverse ++ s.calls.map Call.key ∧
        (s.strays = [] → ownCalls trail = calls trail)) := by
  refine ⟨fun trail t h hd => h.matches hd, fun limit t d h => ?_⟩
  obtain ⟨⟨trail, hp, -⟩, hd, rfl⟩ := dispatch_eq_some h
  exact ⟨trail, hp, hp.matches hd, hp.log_eq, fun hn => hp.calls_own hn⟩

/-- A request that comes twice and goes differently each time, a call that breaks down before it has
begun, made by a worker that paused when the pool was cancelled, and two requests that nobody
took. -/
theorem calls_match_sources_mixed :
    let pool : Pool := ⟨.new 2 1, Crawler.ofScripts
      [("a", [{ duration := 4, ending := .page "A" },
              { duration := 2, ending := .error ["outer", "root"] }]),
       ("b", [{ ending := .panic .other, atCall := true }])], some 4⟩
    let s : Run := {}
    let results : List PageSource :=
      [⟨"a", .failed "outer: root"⟩, ⟨"d", .cancelled⟩, ⟨"b", .panicked "unknown panic payload"⟩,
       ⟨"c", .cancelled⟩, ⟨"a", .page "A"⟩]
    ∃ t d trail, pool.dispatch none ["a", "a", "b", "c", "d"] s = (t, some d) ∧
      d.results = results ∧ pool.Path (s.begin ["a", "a", "b", "c", "d"]) trail t ∧
      pool.Matches ["a", "a", "b", "c", "d"] (ownCalls trail) results ∧
      ((ownCalls trail).map Beginning.key).reverse = [("b", 1, 4), ("a", 2, 1), ("a", 1, 1)] := by
  intro pool s results
  obtain ⟨t, ht, hk⟩ : ∃ t, pool.dispatch none ["a", "a", "b", "c", "d"] s
      = (t, some ⟨results, some (.cancelled "c")⟩) ∧
      t.calls.map Call.key = [("b", 1, 4), ("a", 2, 1), ("a", 1, 1)] := by
    refine exists_dispatch_eq ?_ ?_
    · decide +kernel
    · decide +kernel
  obtain ⟨trail, hp, hm, hl, ho⟩ :=
    (calls_match_sources pool ["a", "a", "b", "c", "d"] s).2 none t _ ht
  refine ⟨t, _, trail, ht, rfl, hp, hm, ?_⟩
  rw [ho rfl, ← hk, hl]
  exact (List.append_nil _).symm

end Pool

end PageCrawl
