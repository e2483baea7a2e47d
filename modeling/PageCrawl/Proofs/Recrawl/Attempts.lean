import PageCrawl.Proofs.Recrawl.Spread

/-!
# How often everything is crawled again

With a crawl function that has fixed outcomes and an evaluation that tests each source by itself,
the fate of a request depends on nothing but its own attempts.  The first attempt that fails or is
accepted decides it (`DecidedAt`); all attempts before give pages that are rejected.  What crawling
again does as a whole is then a matter of which request is decided when.

**The invariant.**  `Reached` says what there is after `j` rounds: rejected are those of the
requests rejected in the beginning that `j` attempts have not decided, and each of these requests
was called once in every round until it was decided.  A round keeps this (`Reached.next`), since
distinct requests do not get into each other's attempts (`dispatch_distinct`).

**Three ways to go on.**  A failure ends it in the round in which it comes, whatever else is still
undecided (`endsWith_failed`).  Without one it is done when the last request is decided
(`endsWith_done`), and a request that is never decided keeps it going for ever
(`unfinished_of_undecided`).
-/

namespace PageCrawl

/-- The source that attempt number `k` at a request gives. -/
def attempt (outcome : String → Nat → Outcome) (request : String) (k : Nat) : PageSource :=
  ⟨request, outcome request k⟩

/-- Whether an attempt decides about its request: it fails, or its page is accepted. -/
def decides (valid : PageSource → Bool) (outcome : String → Nat → Outcome) (request : String)
    (k : Nat) : Bool :=
  !(attempt outcome request k).isOk || valid (attempt outcome request k)

/-- **The first attempt that decides about a request.** -/
def DecidedAt (valid : PageSource → Bool) (outcome : String → Nat → Outcome) (request : String)
    (k : Nat) : Prop :=
  IsLeast {k | 0 < k ∧ decides valid outcome request k = true} k

/-- The first attempt that decides about a request is a failure. -/
def FailsAt (valid : PageSource → Bool) (outcome : String → Nat → Outcome) (request : String)
    (k : Nat) : Prop :=
  DecidedAt valid outcome request k ∧ (attempt outcome request k).isOk = false

/-- Whether the first attempts at a request, as many as given, leave it undecided. -/
def undecided (valid : PageSource → Bool) (outcome : String → Nat → Outcome) :
    Nat → String → Bool
  | 0, _ => true
  | j + 1, request => undecided valid outcome j request && !decides valid outcome request (j + 1)

section Attempts

variable {valid : PageSource → Bool} {outcome : String → Nat → Outcome} {request : String}
  {j k : Nat}

lemma undecided_iff : undecided valid outcome j request = true ↔
    ∀ k, 0 < k → k ≤ j → decides valid outcome request k = false := by
  induction j with
  | zero =>
      simp only [undecided, true_iff]
      omega
  | succ j ih =>
      simp only [undecided, Bool.and_eq_true, ih, Bool.not_eq_true']
      constructor
      · rintro ⟨hbefore, hlast⟩ k hpos hle
        rcases Nat.le_succ_iff.mp hle with hle | rfl
        · exact hbefore k hpos hle
        · exact hlast
      · intro hall
        exact ⟨fun k hpos hle => hall k hpos (Nat.le_succ_of_le hle),
          hall (j + 1) j.succ_pos le_rfl⟩

/-- A request that is decided at some attempt is undecided before it, and only before it. -/
lemma DecidedAt.undecided_iff (h : DecidedAt valid outcome request k) :
    undecided valid outcome j request = true ↔ j < k := by
  rw [PageCrawl.undecided_iff]
  constructor
  · intro hall
    by_contra hle
    have hfalse := hall k h.1.1 (Nat.le_of_not_lt hle)
    rw [h.1.2] at hfalse
    cases hfalse
  · intro hlt i hpos hle
    by_contra hdecides
    have hk : k ≤ i := h.2 ⟨hpos, by simpa using hdecides⟩
    omega

/-- The next attempt at an undecided request decides it or leaves it undecided. -/
lemma decidedAt_succ (hu : undecided valid outcome j request = true)
    (hd : decides valid outcome request (j + 1) = true) :
    DecidedAt valid outcome request (j + 1) := by
  refine ⟨⟨j.succ_pos, hd⟩, fun k hk => ?_⟩
  by_contra hlt
  have hfalse := undecided_iff.mp hu k hk.1 (by omega)
  rw [hk.2] at hfalse
  cases hfalse

lemma failsAt_succ (hu : undecided valid outcome j request = true)
    (hf : (attempt outcome request (j + 1)).isOk = false) :
    FailsAt valid outcome request (j + 1) :=
  ⟨decidedAt_succ hu (by simp [decides, hf]), hf⟩

/-- What is decided by a page fails at no attempt. -/
lemma DecidedAt.not_failsAt (h : DecidedAt valid outcome request k)
    (hok : (attempt outcome request k).isOk = true) (i : Nat) :
    ¬FailsAt valid outcome request i := by
  rintro ⟨hi, hfailed⟩
  obtain rfl := h.unique hi
  rw [hok] at hfailed
  cases hfailed

/-- What no attempt decides stays undecided. -/
lemma undecided_of_never (h : ∀ k, ¬DecidedAt valid outcome request k) :
    ∀ j, undecided valid outcome j request = true
  | 0 => rfl
  | j + 1 => by
      have hu := undecided_of_never h j
      rw [undecided, hu, Bool.true_and, Bool.not_eq_true']
      by_contra hd
      exact h (j + 1) (decidedAt_succ hu (by simpa using hd))

end Attempts

namespace Pool

variable {pool : Pool} {valid : PageSource → Bool} {outcome : String → Nat → Outcome}
  {initial batch : List PageSource} {s t : Run} {j m : Nat}

/-! ## One batch of distinct requests -/

/-- Distinct requests do not get into each other's attempts. -/
lemma outcomes_append (outcome : String → Nat → Outcome) (log : List String) :
    ∀ {requests : List String}, requests.Nodup →
      outcomes outcome (requests ++ log)
        = requests.map (fun r => attempt outcome r (log.count r + 1)) ++ outcomes outcome log
  | [], _ => rfl
  | r :: requests, h => by
      obtain ⟨hr, hrest⟩ := List.nodup_cons.mp h
      have hcount : (requests ++ log).count r = log.count r := by
        rw [List.count_append, List.count_eq_zero_of_not_mem hr, Nat.zero_add]
      rw [List.cons_append, outcomes, hcount, outcomes_append outcome log hrest]
      rfl

/-- **A batch of distinct requests makes the next attempt at each of them.** -/
lemma dispatch_distinct (hf : pool.crawler.Fixed outcome) (hn : pool.NeverCancelled)
    (hs : Clear s) {requests : List String} (hr : requests.Nodup) :
    ∃ t d, pool.dispatch none requests s = (t, some d) ∧ Clear t ∧
      t.called.Perm (requests ++ s.called) ∧
      d.results.Perm (requests.map fun r => attempt outcome r (s.called.count r + 1)) ∧
      d.error = lastError d.results := by
  obtain ⟨t, trail, ht, hp, hd, hc⟩ := dispatch_clear hn hs requests
  have hcalled := hp.called_perm hs.strays_nil hd hc.uncancelled
  refine ⟨t, _, ht, hc, hcalled, ?_, hp.error_eq⟩
  have hlog := (hp.outcomes_perm hs.strays_nil hd hc.uncancelled hf).trans
    (outcomes_perm outcome hcalled)
  rw [outcomes_append outcome s.called hr] at hlog
  exact (List.perm_append_right_iff _).mp hlog

/-- Of attempts that give pages those are rejected that do not decide. -/
lemma recrawl_attempts {requests : List String} {k : Nat}
    (h : ∀ r ∈ requests, (attempt outcome r k).isOk = true) :
    (Evaluation.ofTest valid [] (requests.map (attempt outcome · k))).recrawl
      = requests.filter fun r => !decides valid outcome r k := by
  have hmap : (fun source : PageSource => source.request) ∘ (attempt outcome · k) = id := rfl
  simp only [Evaluation.ofTest, List.filter_map, List.map_map, hmap, List.map_id]
  refine List.filter_congr fun r hr => ?_
  simp [decides, h r hr]

/-! ## The rounds -/

/-- The requests that are rejected in the beginning. -/
def rejectedAtFirst (valid : PageSource → Bool) (initial : List PageSource) : List String :=
  (Evaluation.ofTest valid [] initial).recrawl

/-- **What there is after `j` rounds** of crawling again, when the next batch is evaluated. -/
structure Reached (valid : PageSource → Bool) (outcome : String → Nat → Outcome)
    (initial : List PageSource) (j : Nat) (batch : List PageSource) (s : Run) : Prop where
  clear : Clear s
  /-- Rejected are the requests that are still undecided. -/
  rejected_perm : (Evaluation.ofTest valid [] batch).recrawl.Perm
    ((rejectedAtFirst valid initial).filter (undecided valid outcome j))
  /-- These were called in every round, -/
  called_undecided : ∀ r ∈ rejectedAtFirst valid initial, undecided valid outcome j r = true →
    s.called.count r = j
  /-- the others until they were decided. -/
  called_decided : ∀ r ∈ rejectedAtFirst valid initial, ∀ k, DecidedAt valid outcome r k → k ≤ j →
    s.called.count r = k
  /-- What was accepted in the beginning was never called. -/
  called_accepted : ∀ r, r ∉ rejectedAtFirst valid initial → s.called.count r = 0

/-- Round number `j + 1` takes place and is followed by another evaluation: something is still
undecided, and the next attempt at it gives a page. -/
def GoesOn (valid : PageSource → Bool) (outcome : String → Nat → Outcome)
    (initial : List PageSource) (j : Nat) : Prop :=
  (∃ r ∈ rejectedAtFirst valid initial, undecided valid outcome j r = true) ∧
    ∀ r ∈ rejectedAtFirst valid initial, undecided valid outcome j r = true →
      (attempt outcome r (j + 1)).isOk = true

lemma goesOn_of_not_failsAt
    (hu : ∃ r ∈ rejectedAtFirst valid initial, undecided valid outcome j r = true)
    (hpages : ∀ r ∈ rejectedAtFirst valid initial, ¬FailsAt valid outcome r (j + 1)) :
    GoesOn valid outcome initial j := by
  refine ⟨hu, fun r hr hur => ?_⟩
  by_contra hfailed
  exact hpages r hr (failsAt_succ hur (by simpa using hfailed))

lemma nodup_rejectedAtFirst (valid : PageSource → Bool) (hd : (initial.map (·.request)).Nodup) :
    (rejectedAtFirst valid initial).Nodup :=
  hd.sublist (List.filter_sublist.map _)

namespace Reached

lemma start (hn : pool.NeverCancelled) :
    Reached valid outcome initial 0 initial { cancelled := pool.cancelAt == some 0 } where
  clear := ⟨by simp [hn.outside], rfl⟩
  rejected_perm := by
    have hall : (rejectedAtFirst valid initial).filter (undecided valid outcome 0)
        = rejectedAtFirst valid initial := List.filter_eq_self.mpr fun _ _ => rfl
    rw [hall]
    exact List.Perm.refl _
  called_undecided _ _ _ := rfl
  called_decided _ _ k hk hle := by
    have hpos := hk.1.1
    omega
  called_accepted _ _ := rfl

/-- **One round**: the requests that are undecided are attempted once more. -/
lemma crawl (h : Reached valid outcome initial j batch s) (hf : pool.crawler.Fixed outcome)
    (hn : pool.NeverCancelled) (hd : (initial.map (·.request)).Nodup) :
    ∃ t d, pool.dispatch none (Evaluation.ofTest valid [] batch).recrawl s = (t, some d) ∧
      Clear t ∧ t.called.Perm ((Evaluation.ofTest valid [] batch).recrawl ++ s.called) ∧
      d.results.Perm (((rejectedAtFirst valid initial).filter (undecided valid outcome j)).map
        (attempt outcome · (j + 1))) ∧
      d.error = lastError d.results := by
  have hnodup := h.rejected_perm.nodup_iff.mpr ((nodup_rejectedAtFirst valid hd).filter _)
  obtain ⟨t, d, ht, hc, hcalled, hresults, herror⟩ := dispatch_distinct hf hn h.clear hnodup
  refine ⟨t, d, ht, hc, hcalled, hresults.trans ?_, herror⟩
  refine (h.rejected_perm.map _).trans (List.Perm.of_eq (List.map_congr_left fun r hr => ?_))
  obtain ⟨hm, hu⟩ := List.mem_filter.mp hr
  rw [h.called_undecided r hm hu]

/-- How often a request is called in a round. -/
lemma count_recrawl (h : Reached valid outcome initial j batch s)
    (hd : (initial.map (·.request)).Nodup) (r : String) :
    (Evaluation.ofTest valid [] batch).recrawl.count r
      = if r ∈ rejectedAtFirst valid initial ∧ undecided valid outcome j r = true then 1
        else 0 := by
  rw [h.rejected_perm.count_eq, ((nodup_rejectedAtFirst valid hd).filter _).count]
  simp only [List.mem_filter]

/-- **The next evaluation**, after a round in which everything gave a page. -/
lemma next (h : Reached valid outcome initial j batch s) (hd : (initial.map (·.request)).Nodup)
    (hc : Clear t)
    (hcalled : t.called.Perm ((Evaluation.ofTest valid [] batch).recrawl ++ s.called))
    {results : List PageSource}
    (hresults : results.Perm
      (((rejectedAtFirst valid initial).filter (undecided valid outcome j)).map
        (attempt outcome · (j + 1))))
    (hok : ∀ source ∈ results, source.isOk = true) :
    Reached valid outcome initial (j + 1)
      ((Evaluation.ofTest valid [] batch).kept ++ results) t := by
  have hcount : ∀ r, t.called.count r
      = (if r ∈ rejectedAtFirst valid initial ∧ undecided valid outcome j r = true then 1 else 0)
        + s.called.count r := fun r => by
    rw [hcalled.count_eq, List.count_append, h.count_recrawl hd]
  refine ⟨hc, ?_, fun r hr hu => ?_, fun r hr k hk hle => ?_, fun r hr => ?_⟩
  · -- what was kept is accepted, and of the fresh sources those are left that do not decide
    have hkept : (Evaluation.ofTest valid [] ((Evaluation.ofTest valid [] batch).kept
        ++ results)).recrawl = (Evaluation.ofTest valid [] results).recrawl := by
      simp [Evaluation.ofTest]
    have hpages : ∀ r ∈ (rejectedAtFirst valid initial).filter (undecided valid outcome j),
        (attempt outcome r (j + 1)).isOk = true := fun r hr =>
      hok _ (hresults.symm.subset (List.mem_map_of_mem hr))
    rw [hkept]
    refine (ofTest_perm valid hresults [] []).1.trans (List.Perm.of_eq ?_)
    rw [recrawl_attempts hpages, List.filter_filter]
    exact List.filter_congr fun r _ => Bool.and_comm _ _
  · simp only [undecided, Bool.and_eq_true] at hu
    rw [hcount, if_pos ⟨hr, hu.1⟩, h.called_undecided r hr hu.1, Nat.add_comm]
  · rcases Nat.le_succ_iff.mp hle with hle | rfl
    · have hu : ¬undecided valid outcome j r = true := by
        rw [hk.undecided_iff]
        omega
      rw [hcount, if_neg fun hboth => hu hboth.2, h.called_decided r hr k hk hle, Nat.zero_add]
    · have hu : undecided valid outcome j r = true := hk.undecided_iff.mpr j.lt_succ_self
      rw [hcount, if_pos ⟨hr, hu⟩, h.called_undecided r hr hu, Nat.add_comm]
  · rw [hcount, if_neg fun hboth => hr hboth.1, h.called_accepted r hr]

end Reached

/-- **Crawling again ends with evaluation number `n`**, or with the crawl after it, and then shows
`r`. -/
structure EndsWith (pool : Pool) (evaluate : Evaluation) (initial : List PageSource) (n : Nat)
    (r : Recrawl) : Prop where
  /-- It goes on until then, -/
  before : ∀ bound, bound < n →
    (pool.recrawl evaluate none bound initial).ending = .unfinished
  /-- and from then on the bound on rounds does not matter. -/
  after : ∀ bound, n ≤ bound → pool.recrawl evaluate none bound initial = r
  length_eq : r.evaluations.length = n

section Endings

variable (hf : pool.crawler.Fixed outcome) (hn : pool.NeverCancelled)
  (hd : (initial.map (·.request)).Nodup)
include hf hn hd

/-- **As long as every round goes on, the next evaluation is reached.** -/
lemma exists_reached : ∀ j, (∀ i < j, GoesOn valid outcome initial i) →
    ∃ past batch s, past.length = j ∧ Reached valid outcome initial j batch s ∧
      ∀ n, pool.recrawl (Evaluation.ofTest valid) none (n + j) initial
        = pool.recrawlFrom (Evaluation.ofTest valid) none n past batch s
  | 0, _ => ⟨[], initial, _, rfl, Reached.start hn, fun _ => rfl⟩
  | j + 1, hall => by
      obtain ⟨past, batch, s, hlength, h, heq⟩ :=
        exists_reached j fun i hi => hall i (Nat.lt_succ_of_lt hi)
      obtain ⟨⟨r, hr, hu⟩, hpages⟩ := hall j j.lt_succ_self
      obtain ⟨t, d, ht, hc, hcalled, hresults, herror⟩ := h.crawl hf hn hd
      have hrejects : (Evaluation.ofTest valid past batch).recrawl ≠ [] :=
        List.ne_nil_of_mem (h.rejected_perm.symm.subset (List.mem_filter.mpr ⟨hr, hu⟩))
      have hok : ∀ source ∈ d.results, source.isOk = true := by
        intro source hm
        obtain ⟨q, hq, rfl⟩ := List.mem_map.mp (hresults.subset hm)
        obtain ⟨hq, hqu⟩ := List.mem_filter.mp hq
        exact hpages q hq hqu
      refine ⟨batch :: past, _, t, by simp [hlength], h.next hd hc hcalled hresults hok, ?_⟩
      intro n
      have hbound : n + (j + 1) = n + 1 + j := by omega
      rw [hbound, heq]
      exact recrawlFrom_again hrejects (pass_zero ..) ht
        (herror.trans (lastError_eq_none.mpr hok)) n

/-- As long as every round goes on, crawling again does not end. -/
lemma unfinished_of_goesOn (hall : ∀ i < j, GoesOn valid outcome initial i) :
    ∃ r, pool.recrawl (Evaluation.ofTest valid) none j initial = r ∧ r.ending = .unfinished ∧
      r.evaluations.length = j ∧ ∀ q ∈ rejectedAtFirst valid initial,
        undecided valid outcome j q = true → r.run.called.count q = j := by
  obtain ⟨past, batch, s, hlength, h, heq⟩ := exists_reached hf hn hd j hall
  have hstop := heq 0
  rw [Nat.zero_add] at hstop
  exact ⟨_, hstop, rfl, by simp [recrawlFrom, hlength], h.called_undecided⟩

/-- What ends after the rounds that go on ends with the next evaluation. -/
lemma endsWith_of_goesOn {past : List (List PageSource)} {r : Recrawl}
    (hall : ∀ i < j, GoesOn valid outcome initial i)
    (heq : ∀ n, pool.recrawl (Evaluation.ofTest valid) none (n + j) initial
      = pool.recrawlFrom (Evaluation.ofTest valid) none n past batch s)
    (hr : ∀ n, pool.recrawlFrom (Evaluation.ofTest valid) none (n + 1) past batch s = r)
    (hlength : r.evaluations.length = j + 1) :
    pool.EndsWith (Evaluation.ofTest valid) initial (j + 1) r := by
  refine ⟨fun bound hb => ?_, fun bound hb => ?_, hlength⟩
  · obtain ⟨_, rfl, hend, -⟩ := unfinished_of_goesOn hf hn hd (j := bound)
      fun i hi => hall i (by omega)
    exact hend
  · obtain ⟨n, rfl⟩ := Nat.exists_eq_add_of_le' hb
    have hbound : n + (j + 1) = n + 1 + j := by omega
    rw [hbound, heq, hr]

/-- **A failure ends crawling again in the round in which it comes.** -/
lemma endsWith_failed (hm : IsLeast {k | ∃ q ∈ rejectedAtFirst valid initial,
      FailsAt valid outcome q k} m) :
    ∃ r e, pool.EndsWith (Evaluation.ofTest valid) initial m r ∧ r.ending = .failed e ∧
      ∃ q ∈ rejectedAtFirst valid initial, FailsAt valid outcome q m ∧
        (attempt outcome q m).error? = some e := by
  obtain ⟨⟨q, hq, hdecided, hfailed⟩, hleast⟩ := hm
  obtain ⟨j, rfl⟩ := Nat.exists_eq_succ_of_ne_zero hdecided.1.1.ne'
  have hall : ∀ i < j, GoesOn valid outcome initial i := by
    intro i hi
    refine goesOn_of_not_failsAt ⟨q, hq, hdecided.undecided_iff.mpr (by omega)⟩ fun r hr hf => ?_
    have hle : j + 1 ≤ i + 1 := hleast ⟨r, hr, hf⟩
    omega
  obtain ⟨past, batch, s, hlength, h, heq⟩ := exists_reached hf hn hd j hall
  obtain ⟨t, d, ht, -, -, hresults, herror⟩ := h.crawl hf hn hd
  have hu : q ∈ (rejectedAtFirst valid initial).filter (undecided valid outcome j) :=
    List.mem_filter.mpr ⟨hq, hdecided.undecided_iff.mpr j.lt_succ_self⟩
  have hrejects : (Evaluation.ofTest valid past batch).recrawl ≠ [] :=
    List.ne_nil_of_mem (h.rejected_perm.symm.subset hu)
  cases he : d.error with
  | none =>
      have hok := lastError_eq_none.mp (herror.symm.trans he) _
        (hresults.symm.subset (List.mem_map_of_mem hu))
      rw [hfailed] at hok
      cases hok
  | some e =>
      -- the error is that of a source of the round, perhaps of another request
      obtain ⟨source, hsource, hse⟩ := exists_of_lastError (herror.symm.trans he)
      obtain ⟨r, hr, rfl⟩ := List.mem_map.mp (hresults.subset hsource)
      obtain ⟨hr, hur⟩ := List.mem_filter.mp hr
      have hrf : (attempt outcome r (j + 1)).isOk = false := by simp [PageSource.isOk, hse]
      have hends := endsWith_of_goesOn hf hn hd hall heq
        (recrawlFrom_failed hrejects (pass_zero ..) ht he)
        (by simp [hlength])
      exact ⟨_, e, hends, rfl, r, hr, failsAt_succ hur hrf, hse⟩

/-- **Without a failure it is done when the last request is decided.** -/
lemma endsWith_done (hpages : ∀ q ∈ rejectedAtFirst valid initial, ∀ k,
      ¬FailsAt valid outcome q k) {a : String → Nat}
    (ha : ∀ q ∈ rejectedAtFirst valid initial, DecidedAt valid outcome q (a q)) :
    ∃ r kept, pool.EndsWith (Evaluation.ofTest valid) initial
        ((rejectedAtFirst valid initial).toFinset.sup a + 1) r ∧ r.ending = .done kept ∧
      (∀ q ∈ rejectedAtFirst valid initial, r.run.called.count q = a q) ∧
      ∀ q, q ∉ rejectedAtFirst valid initial → r.run.called.count q = 0 := by
  generalize hlast : (rejectedAtFirst valid initial).toFinset.sup a = m
  have hle : ∀ q ∈ rejectedAtFirst valid initial, a q ≤ m := fun q hq =>
    hlast ▸ Finset.le_sup (List.mem_toFinset.mpr hq)
  have hall : ∀ i < m, GoesOn valid outcome initial i := by
    intro i hi
    obtain ⟨q, hq, hlt⟩ := Finset.lt_sup_iff.mp (hlast ▸ hi)
    have hq := List.mem_toFinset.mp hq
    exact goesOn_of_not_failsAt ⟨q, hq, (ha q hq).undecided_iff.mpr hlt⟩
      fun r hr => hpages r hr (i + 1)
  obtain ⟨past, batch, s, hlength, h, heq⟩ := exists_reached hf hn hd m hall
  have hnone : (Evaluation.ofTest valid past batch).recrawl = [] := by
    have hrejected := h.rejected_perm
    rw [List.filter_eq_nil_iff.mpr fun q hq => ?_] at hrejected
    · exact hrejected.eq_nil
    · rw [(ha q hq).undecided_iff]
      exact Nat.not_lt.mpr (hle q hq)
  have hends := endsWith_of_goesOn hf hn hd hall heq (recrawlFrom_done hnone)
    (by simp [hlength])
  exact ⟨_, _, hends, rfl, fun q hq => h.called_decided q hq (a q) (ha q hq) (hle q hq),
    h.called_accepted⟩

/-- **A request that is never decided keeps it going for ever**, if nothing fails. -/
lemma unfinished_of_undecided (hpages : ∀ q ∈ rejectedAtFirst valid initial, ∀ k,
      ¬FailsAt valid outcome q k) {q : String} (hq : q ∈ rejectedAtFirst valid initial)
    (hu : ∀ k, ¬DecidedAt valid outcome q k) (bound : Nat) :
    ∃ r, pool.recrawl (Evaluation.ofTest valid) none bound initial = r ∧
      r.ending = .unfinished ∧ r.evaluations.length = bound ∧ r.run.called.count q = bound := by
  obtain ⟨r, heq, hend, hlength, hcalled⟩ := unfinished_of_goesOn hf hn hd (j := bound)
    fun i _ => goesOn_of_not_failsAt ⟨q, hq, undecided_of_never hu i⟩
      fun p hp => hpages p hp (i + 1)
  exact ⟨r, heq, hend, hlength, hcalled q hq (undecided_of_never hu bound)⟩

end Endings

/-- **The attempts at each request decide how crawling again ends, and when.**  Take initial sources
for distinct requests, a crawl function with fixed outcomes, and a pool that is never cancelled.

If the first deciding attempt at some request is a failure, crawling again fails in the round of
the earliest such failure, with the error of a request that fails there.  Otherwise, if every
request is decided at some attempt, it is done after as many rounds as the latest of them takes, and
has called each request until it was decided and no other.  Otherwise it goes on for ever. -/
theorem attempts_decide_recrawl {pool : Pool} {outcome : String → Nat → Outcome}
    (hf : pool.crawler.Fixed outcome) (hn : pool.NeverCancelled) (valid : PageSource → Bool)
    {initial : List PageSource} (hd : (initial.map (·.request)).Nodup) :
    (∀ m, IsLeast {k | ∃ q ∈ rejectedAtFirst valid initial, FailsAt valid outcome q k} m →
      ∃ r e, pool.EndsWith (Evaluation.ofTest valid) initial m r ∧ r.ending = .failed e ∧
        ∃ q ∈ rejectedAtFirst valid initial, FailsAt valid outcome q m ∧
          (attempt outcome q m).error? = some e) ∧
    ((∀ q ∈ rejectedAtFirst valid initial, ∀ k, ¬FailsAt valid outcome q k) →
      (∀ a : String → Nat,
        (∀ q ∈ rejectedAtFirst valid initial, DecidedAt valid outcome q (a q)) →
        ∃ r kept, pool.EndsWith (Evaluation.ofTest valid) initial
            ((rejectedAtFirst valid initial).toFinset.sup a + 1) r ∧ r.ending = .done kept ∧
          (∀ q ∈ rejectedAtFirst valid initial, r.run.called.count q = a q) ∧
          ∀ q, q ∉ rejectedAtFirst valid initial → r.run.called.count q = 0) ∧
      ∀ q ∈ rejectedAtFirst valid initial, (∀ k, ¬DecidedAt valid outcome q k) → ∀ bound,
        ∃ r, pool.recrawl (Evaluation.ofTest valid) none bound initial = r ∧
          r.ending = .unfinished ∧ r.evaluations.length = bound ∧
          r.run.called.count q = bound) :=
  ⟨fun _ hm => endsWith_failed hf hn hd hm, fun hpages =>
    ⟨fun _ ha => endsWith_done hf hn hd hpages ha,
      fun _ hq hu => unfinished_of_undecided hf hn hd hpages hq hu⟩⟩

/-- Page `no` is rejected: the second attempt at `a` is accepted, the third one at `b` fails, no
attempt at `c` is accepted, and the initial source of `d` is. -/
theorem attempts_decide_recrawl_thrice :
    let crawler := (Crawler.ofScripts
      [("a", [{ duration := 3, ending := .page "no" }, { ending := .page "A" }]),
       ("b", [{ ending := .page "no" }, { ending := .page "no" }, { ending := .error ["lost"] }]),
       ("c", [{ ending := .page "no" }])]).uncancelling
    let outcome : String → Nat → Outcome := fun request k =>
      (crawler (List.replicate (k - 1) request) request).ending.outcome
    let pool : Pool := ⟨.new 2 1, crawler, none⟩
    let valid : PageSource → Bool := fun source => !(source.page? == some "no") && source.isOk
    let initial : List String → List PageSource := fun requests =>
      ⟨"d", .page "D"⟩ :: requests.map (⟨·, .page "no"⟩)
    pool.crawler.Fixed outcome ∧ pool.NeverCancelled ∧
      ((initial ["a", "b", "c"]).map (·.request)).Nodup ∧
      (∃ r, pool.EndsWith (Evaluation.ofTest valid) (initial ["a", "b", "c"]) 3 r ∧
        r.ending = .failed (.failed "b" "lost")) ∧
      (∃ r kept, pool.EndsWith (Evaluation.ofTest valid) (initial ["a", "e"]) 3 r ∧
        r.ending = .done kept ∧ r.run.called.count "a" = 2 ∧ r.run.called.count "d" = 0) ∧
      ∀ bound, (pool.recrawl (Evaluation.ofTest valid) none bound (initial ["a", "c"])).ending
        = .unfinished := by
  intro crawler outcome pool valid initial
  have hf : pool.crawler.Fixed outcome := (Crawler.fixed_ofScripts _).uncancelling
  have hn : pool.NeverCancelled := ⟨rfl, fun _ _ => rfl⟩
  have hnever : ∀ k, outcome "c" k = .page "no" := by
    intro k
    simp only [outcome, crawler, Crawler.uncancelling, Crawler.ofScripts,
      List.count_replicate_self]
    cases k - 1 <;> rfl
  have hundecided : ∀ k, ¬DecidedAt valid outcome "c" k := by
    intro k hk
    have hdecides := hk.1.2
    simp only [decides, attempt, hnever] at hdecides
    cases hdecides
  have ha : DecidedAt valid outcome "a" 2 := by
    refine decidedAt_succ ?_ ?_ <;> decide +kernel
  have he : DecidedAt valid outcome "e" 1 := by
    refine decidedAt_succ ?_ ?_ <;> decide +kernel
  have hb : FailsAt valid outcome "b" 3 := by
    refine failsAt_succ ?_ ?_ <;> decide +kernel
  have haf : ∀ k, ¬FailsAt valid outcome "a" k := ha.not_failsAt (by decide +kernel)
  have hef : ∀ k, ¬FailsAt valid outcome "e" k := he.not_failsAt (by decide +kernel)
  have hcf : ∀ k, ¬FailsAt valid outcome "c" k := fun k hk => hundecided k hk.1
  -- of the first three requests only `b` fails
  have honly : ∀ q ∈ rejectedAtFirst valid (initial ["a", "b", "c"]), ∀ k,
      FailsAt valid outcome q k → q = "b" := by
    intro q hq k hk
    have hq : q ∈ ["a", "b", "c"] := hq
    simp only [List.mem_cons, List.not_mem_nil, or_false] at hq
    rcases hq with rfl | rfl | rfl
    · exact absurd hk (haf k)
    · rfl
    · exact absurd hk (hcf k)
  have hleast : IsLeast {k | ∃ q ∈ rejectedAtFirst valid (initial ["a", "b", "c"]),
      FailsAt valid outcome q k} 3 := by
    refine ⟨⟨"b", by decide +kernel, hb⟩, ?_⟩
    rintro k ⟨q, hq, hk⟩
    obtain rfl := honly q hq k hk
    exact (hb.1.unique hk.1).le
  have habc : ((initial ["a", "b", "c"]).map (·.request)).Nodup := by decide
  have hae : ((initial ["a", "e"]).map (·.request)).Nodup := by decide
  have hac : ((initial ["a", "c"]).map (·.request)).Nodup := by decide
  have hrejected : rejectedAtFirst valid (initial ["a", "e"]) = ["a", "e"] := rfl
  have hrejected' : rejectedAtFirst valid (initial ["a", "c"]) = ["a", "c"] := rfl
  refine ⟨hf, hn, habc, ?_, ?_, ?_⟩
  · obtain ⟨r, e, hends, hr, q, hq, hqf, herror⟩ :=
      (attempts_decide_recrawl hf hn valid habc).1 3 hleast
    obtain rfl := honly q hq 3 hqf
    obtain rfl : CrawlError.failed "b" "lost" = e := Option.some.inj herror
    exact ⟨r, hends, hr⟩
  · have hpages : ∀ q ∈ rejectedAtFirst valid (initial ["a", "e"]), ∀ k,
        ¬FailsAt valid outcome q k := by
      simp [hrejected, haf, hef]
    have hdecided : ∀ q ∈ rejectedAtFirst valid (initial ["a", "e"]),
        DecidedAt valid outcome q (if q = "a" then 2 else 1) := by
      simp [hrejected, ha, he]
    obtain ⟨r, kept, hends, hr, hcalled, haccepted⟩ :=
      ((attempts_decide_recrawl hf hn valid hae).2 hpages).1 _ hdecided
    exact ⟨r, kept, hends, hr, hcalled "a" (by decide +kernel), haccepted "d" (by decide +kernel)⟩
  · have hpages : ∀ q ∈ rejectedAtFirst valid (initial ["a", "c"]), ∀ k,
        ¬FailsAt valid outcome q k := by
      simp [hrejected', haf, hcf]
    intro bound
    obtain ⟨r, rfl, hr, -⟩ := ((attempts_decide_recrawl hf hn valid hac).2 hpages).2 "c"
      (by decide +kernel) hundecided bound
    exact hr

end Pool

end PageCrawl
