import PageCrawl.Proofs.Pool.Punctual

/-!
# The times of a batch

On a punctual path a request has three times: a worker takes it, its call begins, and its source is
reported.  The first two differ by the pause (`Path.called_at`), the last two by what the crawl
function says of the call (`Path.crawled_at`).

Neither fact asks when the pool is cancelled or dropped.  What is under way at the end of a path is
kept on its side of the equations: the pauses that are not over, and the sources that are owed.
`Path.served_perm` is the same account without times, and holds of every path.
-/

namespace PageCrawl

/-- The end of a pause and its request. -/
def Hand.pausingUntil? : Hand → Option (Nat × String)
  | ⟨r, .pausing d⟩ => some (d, r)
  | _ => none

/-- The end of a call under way and the source that it will give. -/
def Hand.owedAt? : Hand → Option (Nat × PageSource)
  | ⟨r, .calling _ reply d⟩ => some (d, ⟨r, reply.ending.outcome⟩)
  | _ => none

namespace Run

/-- The pauses of workers, in the order in which they began. -/
def pauses (s : Run) : List (Nat × String) := s.hands.filterMap Hand.pausingUntil?

/-- The sources that calls under way will give, with the times. -/
def owedAt (s : Run) : List (Nat × PageSource) := s.hands.filterMap Hand.owedAt?

end Run

namespace Pool

variable {pool : Pool} {s t u : Run} {m : Move} {trail : List Transition} {requests : List String}

/-- **When a call ends.**  One that breaks down before it has begun takes no time. -/
def finishOf (pool : Pool) (b : Beginning) : Nat :=
  b.start + if (pool.replyTo b).atCall then 0 else (pool.replyTo b).duration

lemma start_le_finishOf (pool : Pool) (b : Beginning) : b.start ≤ pool.finishOf b :=
  Nat.le_add_right _ _

/-- When a call begins, and for what. -/
def Beginning.at (b : Beginning) : Nat × String := (b.start, b.request)

/-- When a worker takes a request to crawl it. -/
def Transition.take? (st : Transition) : Option (Nat × String) :=
  st.taken?.map fun r => (st.before.now, r)

/-- The requests that workers took to crawl them, in order, each with its time. -/
def takes (trail : List Transition) : List (Nat × String) := trail.filterMap (·.take?)

/-- The sources of requests that were crawled, in order, each with its time. -/
def crawledAt (trail : List Transition) : List (Nat × PageSource) :=
  (reports trail).filter fun entry => !entry.2.isCancelled

@[simp] lemma takes_nil : takes [] = [] := rfl

@[simp] lemma takes_append (trail trail' : List Transition) :
    takes (trail ++ trail') = takes trail ++ takes trail' := by
  simp [takes]

lemma takes_split (st : Transition) (trail : List Transition) :
    takes (st :: trail) = takes [st] ++ takes trail :=
  takes_append [st] trail

lemma map_takes (trail : List Transition) : (takes trail).map (·.2) = taken trail := by
  simp only [takes, taken, List.map_filterMap, Transition.take?, Option.map_map]
  congr 1
  funext st
  cases st.taken? <;> rfl

@[simp] lemma crawledAt_nil : crawledAt [] = [] := rfl

@[simp] lemma crawledAt_append (trail trail' : List Transition) :
    crawledAt (trail ++ trail') = crawledAt trail ++ crawledAt trail' := by
  simp [crawledAt]

lemma crawledAt_split (st : Transition) (trail : List Transition) :
    crawledAt (st :: trail) = crawledAt [st] ++ crawledAt trail :=
  crawledAt_append [st] trail

lemma crawledAt_singleton (st : Transition) : crawledAt [st]
    = ((st.after.reported.drop st.before.reported.length).filter (!·.isCancelled)).map
      (st.before.now, ·) := by
  simp only [crawledAt, reports_cons, reports_nil, List.append_nil, Transition.reports,
    List.filter_map]
  rfl

/-- Two accounts of the same kind, one after the other. -/
lemma perm_append_chain {α : Type} {a a' b b' x y z : List α} (h : (a ++ x).Perm (b ++ y))
    (h' : (a' ++ y).Perm (b' ++ z)) : (a ++ a' ++ x).Perm (b ++ b' ++ z) := by
  calc List.Perm (a ++ a' ++ x) (a' ++ (a ++ x)) := by
        rw [List.append_assoc]
        exact List.perm_append_comm_assoc _ _ _
    List.Perm _ (a' ++ (b ++ y)) := h.append_left _
    List.Perm _ (b ++ (a' ++ y)) := List.perm_append_comm_assoc _ _ _
    List.Perm _ (b ++ (b' ++ z)) := h'.append_left _
    List.Perm _ (b ++ b' ++ z) := by rw [List.append_assoc]

/-! ## Who has what -/

/-- **What workers take they have in their hands until its source is reported.** -/
lemma Step.served_perm (h : pool.Step s m t) :
    (taken [⟨s, m, t⟩] ++ s.hands.map (·.request)).Perm
      ((crawledAt [⟨s, m, t⟩]).map (·.2.request) ++ t.hands.map (·.request)) := by
  rw [List.perm_iff_count, crawledAt_singleton]
  intro a
  cases h with
  | take hc hs hf =>
      simp only [taken_cons, Transition.taken?, hc, hs, Option.toList_some, taken_nil,
        List.append_nil, List.drop_length, List.filter_nil, List.map_nil, List.nil_append,
        List.map_append, List.map_cons, List.count_append]
      omega
  | call hh hd ha =>
      obtain ⟨l, l', hx, hset, -, -⟩ := exists_split hh
      simp only [Run.beginCall, hset]
      simp [hx, Transition.taken?]
  | @breakDown i d r hh hd ha =>
      obtain ⟨l, l', hx, -, he, -⟩ := exists_split hh
      simp only [Run.beginCall, Run.report, he]
      simp only [hx, taken_cons, Transition.taken?, taken_nil, Option.toList_none,
        List.drop_left, List.filter_cons, List.filter_nil, PageSource.isCancelled_outcome,
        Bool.not_false, ↓reduceIte, List.map_append, List.map_cons, List.map_nil,
        List.count_append, List.count_cons, List.count_nil]
      omega
  | @finish i k d r reply hh hd =>
      obtain ⟨l, l', hx, -, he, -⟩ := exists_split hh
      simp only [Run.endCall, Run.report, he]
      simp only [hx, taken_cons, Transition.taken?, taken_nil, Option.toList_none,
        List.drop_left, List.filter_cons, List.filter_nil, PageSource.isCancelled_outcome,
        Bool.not_false, ↓reduceIte, List.map_append, List.map_cons, List.map_nil,
        List.count_append, List.count_cons, List.count_nil]
      omega
  | giveUp hc hw => simp [Run.report, Transition.taken?]
  | refuse hc hs hf => simp [Run.report, Transition.taken?, hc]
  | cancel | feed | strayCall | strayBreakDown | strayFinish | wait =>
      simp [Run.beginCall, Run.endCall, Transition.taken?]

lemma Path.served_perm (h : pool.Path s trail t) :
    (taken trail ++ s.hands.map (·.request)).Perm
      ((crawledAt trail).map (·.2.request) ++ t.hands.map (·.request)) := by
  induction h with
  | nil => simp
  | @cons s u t m trail hs hp ih =>
      rw [taken_split, crawledAt_split, List.map_append]
      exact perm_append_chain hs.served_perm ih

/-! ## When calls end -/

/-- **A call puts its source on the way until the time of its end, and it comes in time.** -/
lemma Step.crawled_at (h : pool.Step s m t) (he : Early s.now s.hands) :
    (crawledAt [⟨s, m, t⟩] ++ t.owedAt).Perm
      ((ownCalls [⟨s, m, t⟩]).map (fun b => (pool.finishOf b, pool.answer b)) ++ s.owedAt) := by
  rw [crawledAt_singleton]
  cases h with
  | @call i d r hh hd ha =>
      obtain ⟨l, l', hx, hset, -, -⟩ := exists_split hh
      have hreply : pool.replyTo ⟨r, s.now, s.called, true⟩ = pool.crawler s.called r := rfl
      rw [ownCalls_pausing hh]
      simp only [Run.owedAt, Run.beginCall, hset]
      simp only [hx, List.filterMap_append, List.filterMap_cons, Hand.owedAt?, List.map_cons,
        List.map_nil, List.drop_length, List.filter_nil, List.nil_append, List.cons_append,
        finishOf, answer, hreply, ha, Bool.false_eq_true, ↓reduceIte]
      exact List.perm_middle
  | @breakDown i d r hh hd ha =>
      obtain ⟨l, l', hx, -, he, -⟩ := exists_split hh
      have hreply : pool.replyTo ⟨r, s.now, s.called, true⟩ = pool.crawler s.called r := rfl
      rw [ownCalls_pausing hh]
      simp only [Run.owedAt, Run.beginCall, Run.report, he]
      simp [hx, List.filterMap_cons, Hand.owedAt?, PageSource.isCancelled_outcome, finishOf, answer,
        hreply, ha]
  | @finish i k d r reply hh hd =>
      obtain ⟨l, l', hx, -, herase, -⟩ := exists_split hh
      obtain rfl : d = s.now := he.due_eq hh hd
      rw [ownCalls_calling hh]
      simp only [Run.owedAt, Run.endCall, Run.report, herase]
      simp only [hx, List.filterMap_append, List.filterMap_cons, Hand.owedAt?, List.map_cons,
        List.map_nil, List.drop_left, List.filter_cons, List.filter_nil,
        PageSource.isCancelled_outcome, Bool.not_false, ↓reduceIte, List.nil_append,
        List.cons_append]
      exact List.perm_middle.symm
  | strayCall | strayBreakDown | strayFinish =>
      rw [ownCalls_strayOn]
      simp [Run.owedAt, Run.beginCall, Run.endCall]
  | take hc hs hf => simp [Run.owedAt, List.filterMap_cons, Hand.owedAt?, Transition.call?]
  | giveUp | refuse => simp [Run.owedAt, Run.report, Transition.call?]
  | cancel | feed | wait => simp [Run.owedAt, Transition.call?]

/-- **Sources come at the ends of their calls.** -/
lemma Path.crawled_at (h : pool.Path s trail t) (hp : pool.Timely trail)
    (he : Early s.now s.hands) :
    (crawledAt trail ++ t.owedAt).Perm
      ((ownCalls trail).map (fun b => (pool.finishOf b, pool.answer b)) ++ s.owedAt) := by
  induction h with
  | nil => exact List.Perm.refl _
  | @cons s u t m trail hs hpath ih =>
      rw [timely_cons] at hp
      rw [ownCalls_split, crawledAt_split, List.map_append]
      have hrest := ih hp.2 (hs.early_hands hp.1 he)
      exact (perm_append_chain (hs.crawled_at he).symm hrest.symm).symm

/-! ## When calls begin -/

lemma pauses_eq_nil {hands : List Hand} (h : hands.filterMap Hand.pausing? = []) :
    hands.filterMap Hand.pausingUntil? = [] := by
  rw [List.filterMap_eq_nil_iff] at h ⊢
  intro hand hm
  obtain ⟨r, stage⟩ := hand
  cases stage with
  | calling k reply d => rfl
  | pausing d => cases h _ hm

lemma pauses_set {hands : List Hand} {i k d : Nat} {h : Hand} {r : String} {reply : Reply}
    (hh : hands[i]? = some h) :
    (hands.set i ⟨r, .calling k reply d⟩).filterMap Hand.pausingUntil?
      = (hands.eraseIdx i).filterMap Hand.pausingUntil? := by
  obtain ⟨l, l', -, hset, herase, -⟩ := exists_split hh
  rw [hset, herase, List.filterMap_append, List.filterMap_append]
  rfl

/-- **The pause that ends began first** of all, and ends in time. -/
lemma Prompt.pauses_eq {i d : Nat} {r : String} (hp : pool.Prompt s (.goOn i))
    (ho : pool.PausesInOrder s) (he : Early s.now s.hands)
    (hh : s.hands[i]? = some ⟨r, .pausing d⟩) :
    s.pauses = (s.now, r) :: (s.hands.eraseIdx i).filterMap Hand.pausingUntil? := by
  obtain ⟨l, l', hx, -, herase, hl⟩ := exists_split hh
  cases hp.next_of_ne (by simp) with
  | goOn hq hh' hd hi =>
      obtain rfl := Option.some.inj (hh.symm.trans hh')
      have hnil := pauses_eq_nil (pausing_before_nil ho hd hi hx hl)
      have hnow : d = s.now := he.due_eq hh hd
      rw [Run.pauses, herase, hx]
      simp [hnil, hnow, Hand.pausingUntil?]

/-- **The call that begins is for the request whose pause began first**, and begins when this
pause ends. -/
lemma Step.called_at (h : pool.Step s m t) (hp : pool.Prompt s m) (ho : pool.PausesInOrder s)
    (he : Early s.now s.hands) :
    (ownCalls [⟨s, m, t⟩]).map Beginning.at ++ t.pauses
      = s.pauses ++ (takes [⟨s, m, t⟩]).map fun p => (p.1 + pool.config.delay, p.2) := by
  cases h with
  | @take r hc hs hf =>
      simp [Run.pauses, takes, Transition.take?, Transition.taken?, Transition.call?, hc, hs,
        Hand.pausingUntil?]
  | call hh hd ha =>
      rw [ownCalls_pausing hh, hp.pauses_eq ho he hh]
      simp [Run.pauses, Run.beginCall, pauses_set hh, Beginning.at, takes, Transition.take?,
        Transition.taken?]
  | breakDown hh hd ha =>
      rw [ownCalls_pausing hh, hp.pauses_eq ho he hh]
      simp [Run.pauses, Run.beginCall, Run.report, Beginning.at, takes, Transition.take?,
        Transition.taken?]
  | @finish i k d r reply hh hd =>
      obtain ⟨l, l', hx, -, herase, -⟩ := exists_split hh
      rw [ownCalls_calling hh]
      simp only [Run.pauses, Run.endCall, Run.report, herase]
      simp [hx, List.filterMap_cons, Hand.pausingUntil?, takes, Transition.take?,
        Transition.taken?]
  | strayCall | strayBreakDown | strayFinish =>
      rw [ownCalls_strayOn]
      simp [Run.pauses, Run.beginCall, Run.endCall, takes, Transition.take?, Transition.taken?]
  | refuse hc hs hf =>
      simp [Run.pauses, Run.report, takes, Transition.take?, Transition.taken?, Transition.call?,
        hc]
  | cancel | giveUp | feed | wait =>
      simp [Run.pauses, Run.report, takes, Transition.take?, Transition.taken?, Transition.call?]

/-- **Each call begins one pause after its request was taken**, in the order in which requests were
taken. -/
lemma Path.called_at (h : pool.Path s trail t) (hp : pool.Punctual trail)
    (ho : pool.PausesInOrder s) (he : Early s.now s.hands) :
    (ownCalls trail).map Beginning.at ++ t.pauses
      = s.pauses ++ (takes trail).map fun p => (p.1 + pool.config.delay, p.2) := by
  induction h with
  | nil => simp
  | @cons s u t m trail hs hpath ih =>
      rw [punctual_cons] at hp
      have hrest := ih hp.2 (hs.pausesInOrder ho) (hs.early_hands hp.1.wakeful he)
      rw [ownCalls_split, takes_split, List.map_append, List.map_append, List.append_assoc, hrest,
        ← List.append_assoc, hs.called_at hp.1 ho he, List.append_assoc]

/-! ## The times of a batch -/

/-- All sources that have come and are owed belong to calls of the batch. -/
lemma Path.crawled_at_begin (h : pool.Path (s.begin requests) trail t)
    (hp : pool.Timely trail) : (crawledAt trail ++ t.owedAt).Perm
      ((ownCalls trail).map fun b => (pool.finishOf b, pool.answer b)) := by
  have hperm := h.crawled_at hp (early_begin s requests)
  have hnil : (s.begin requests).owedAt = [] := rfl
  rwa [hnil, List.append_nil] at hperm

lemma Path.called_at_begin (h : pool.Path (s.begin requests) trail t)
    (hp : pool.Punctual trail) : (ownCalls trail).map Beginning.at ++ t.pauses
      = (takes trail).map fun p => (p.1 + pool.config.delay, p.2) :=
  h.called_at hp (pausesInOrder_begin pool s requests) (early_begin s requests)

/-- **A call begins one pause after the request in its place was taken.** -/
lemma Path.start_eq {i : Nat} {b : Beginning} (h : pool.Path (s.begin requests) trail t)
    (hp : pool.Punctual trail) (hb : (ownCalls trail)[i]? = some b) :
    ∃ p, (takes trail)[i]? = some p ∧ b.start = p.1 + pool.config.delay := by
  have hget : ((ownCalls trail).map Beginning.at)[i]? = some b.at := by
    rw [List.getElem?_map, hb, Option.map_some]
  have hcalled : ((ownCalls trail).map Beginning.at ++ t.pauses)[i]? = some b.at := by
    rw [List.getElem?_append_left (List.getElem?_eq_some_iff.mp hget).1, hget]
  rw [h.called_at_begin hp, List.getElem?_map, Option.map_eq_some_iff] at hcalled
  obtain ⟨p, htake, heq⟩ := hcalled
  exact ⟨p, htake, (congrArg Prod.fst heq).symm⟩

lemma time_of_mem_takes {p : Nat × String} (h : p ∈ takes [⟨s, m, t⟩]) : p.1 = s.now := by
  obtain ⟨st, hst, htake⟩ := List.mem_filterMap.mp h
  obtain rfl := List.mem_singleton.mp hst
  obtain ⟨r, -, rfl⟩ := Option.map_eq_some_iff.mp htake
  rfl

lemma Path.le_takes (h : pool.Path s trail t) : ∀ p ∈ takes trail, s.now ≤ p.1 := by
  induction h with
  | nil => simp
  | @cons s u t m trail hs hp ih =>
      intro p hm
      rw [takes_split, List.mem_append] at hm
      rcases hm with hm | hm
      · exact (time_of_mem_takes hm).ge
      · exact hs.now_le.trans (ih p hm)

lemma Path.takes_sorted (h : pool.Path s trail t) :
    ((takes trail).map (·.1)).Pairwise (· ≤ ·) := by
  induction h with
  | nil => simp
  | @cons s u t m trail hs hp ih =>
      rw [takes_split, List.map_append, List.pairwise_append]
      refine ⟨?_, ih, ?_⟩
      · cases htake : Transition.take? ⟨s, m, u⟩ <;> simp [takes, htake]
      · rintro _ hn _ hn'
        obtain ⟨p, hp', rfl⟩ := List.mem_map.mp hn
        obtain ⟨p', hp'', rfl⟩ := List.mem_map.mp hn'
        rw [time_of_mem_takes hp']
        exact hs.now_le.trans (hp.le_takes p' hp'')

/-- No call begins before the path on which it begins. -/
lemma Path.le_start (h : pool.Path s trail t) : ∀ c ∈ calls trail, s.now ≤ c.start := by
  induction h with
  | nil => simp
  | @cons s u t m trail hs hp ih =>
      intro c hc
      rw [calls_split, List.mem_append] at hc
      rcases hc with hc | hc
      · cases hs with
        | call hh | breakDown hh | strayCall hh | strayBreakDown hh =>
            simp only [calls_cons, Transition.call?, hh, beginning?, Option.toList_some, calls_nil,
              List.append_nil, List.mem_singleton] at hc
            exact hc ▸ le_rfl
        | finish hh | strayFinish hh => simp [Transition.call?, beginning?, hh] at hc
        | _ => simp [Transition.call?] at hc
      · exact hs.now_le.trans (ih c hc)

/-- No source is reported after the path on which it is. -/
lemma Path.reports_le (h : pool.Path s trail t) : ∀ entry ∈ reports trail, entry.1 ≤ t.now := by
  induction h with
  | nil => simp
  | @cons s u t m trail hs hp ih =>
      intro entry hm
      rw [reports_cons, List.mem_append] at hm
      rcases hm with hm | hm
      · obtain ⟨source, -, rfl⟩ := List.mem_map.mp hm
        exact hs.now_le.trans hp.now_mono
      · exact ih entry hm

lemma owedAt_of_isDone (h : t.isDone = true) : t.owedAt = [] := by
  rw [Run.owedAt, (isDone_iff.mp h).2.2, List.filterMap_nil]

/-- **At the end of a batch the sources of its calls have come**, each at the end of its call. -/
lemma Path.crawled_at_end (h : pool.Path (s.begin requests) trail t) (hp : pool.Timely trail)
    (hd : t.isDone = true) : (crawledAt trail).Perm
      ((ownCalls trail).map fun b => (pool.finishOf b, pool.answer b)) := by
  have hperm := h.crawled_at_begin hp
  rwa [owedAt_of_isDone hd, List.append_nil] at hperm

/-- At the end of a batch its calls are over. -/
lemma Path.finishOf_le (h : pool.Path (s.begin requests) trail t) (hp : pool.Timely trail)
    (hd : t.isDone = true) : ∀ c ∈ ownCalls trail, pool.finishOf c ≤ t.now := by
  intro c hc
  have hm : (pool.finishOf c, pool.answer c) ∈ crawledAt trail :=
    (h.crawled_at_end hp hd).symm.subset (List.mem_map_of_mem hc)
  exact h.reports_le _ (List.mem_filter.mp hm).1

end Pool

end PageCrawl
