import PageCrawl.Fetch
import PageCrawl.Proofs.Pool.Leftovers
import PageCrawl.Proofs.Recrawl.Chronicle

/-!
# A deadline only cuts

Crawling again may go on forever, and what bounds it is a deadline.  Until then the loop goes as it
would go without one, in every respect: each dispatch that ends before the deadline is the same
(`dispatch_of_lt`), and so are the evaluations between them.  The round that would not end before
is cut short, before its dispatch begins or on the path that it would have followed
(`dispatch_cut`), and nothing is evaluated any more.  `CutAt` says all this of two runs of the loop,
and `deadline_only_cuts` that it holds for every deadline, whenever it falls.

**The log.**  `logAt` is what a log said at some time: the calls that had begun, with the ends that
they had.  What happens later does not change it (`Path.logAt_late`), so the log of the loop that
is cut off is what the log of the other one said at the deadline.

**Loops without end.**  A loop gets to the deadline if each of its rounds takes time: its pauses,
its calls, or the loop itself (`recrawlFrom_takesTime`).  If it has no end, it is then cut off.
There are such loops: a request whose page never passes keeps it going (`recrawlFrom_unfinished`).
-/

namespace PageCrawl

namespace Pool

variable {pool pool' : Pool} {s t v : Run} {m : Move} {trail rest : List Transition}
  {requests : List String} {limit : Option Nat} {l : Nat} {d : Dispatch} {log : List Call}

/-! ## The log at some time -/

/-- **What a log said at a time**: the calls that had begun, and when those ended that had. -/
def logAt (l : Nat) (log : List Call) : List Call :=
  (log.filter (·.start < l)).map fun c => { c with finish := c.finish.filter (· < l) }

/-- Nothing on a path happens after it. -/
lemma Path.before_le (h : pool.Path s trail t) : ∀ st ∈ trail, st.before.now ≤ t.now := by
  induction h with
  | nil => simp
  | cons hstep hp ih => exact List.forall_mem_cons.mpr ⟨hstep.now_le.trans hp.now_mono, ih⟩

/-- All of a log happened before a time. -/
def Past (l : Nat) (log : List Call) : Prop :=
  ∀ c ∈ log, c.start < l ∧ ∀ time, c.finish = some time → time < l

lemma Past.logAt_eq (h : Past l log) : logAt l log = log := by
  have hall : log.filter (·.start < l) = log :=
    List.filter_eq_self.mpr fun c hc => by simpa using (h c hc).1
  rw [logAt, hall]
  refine (List.map_congr_left fun c hc => ?_).trans (List.map_id log)
  have hfinish : c.finish.filter (· < l) = c.finish := by
    cases htime : c.finish with
    | none => rfl
    | some time => simp [Option.filter, (h c hc).2 time htime]
  rw [hfinish]
  rfl

lemma Past.mono {l' : Nat} (h : Past l log) (hl : l ≤ l') : Past l' log := by
  intro c hc
  obtain ⟨hstart, hfinish⟩ := h c hc
  exact ⟨hstart.trans_le hl, fun time htime => (hfinish time htime).trans_le hl⟩

lemma Past.closed {now k : Nat} {r : String} (h : Past l log) (hn : now < l) :
    Past l (closed now r k log) := by
  intro c hc
  obtain ⟨c', hc', rfl⟩ := List.mem_map.mp hc
  split
  · refine ⟨(h c' hc').1, ?_⟩
    rintro _ ⟨⟩
    exact hn
  · exact h c' hc'

lemma Step.past (h : pool.Step s m t) (hn : s.now < l) (hs : Past l s.calls) :
    Past l t.calls := by
  cases h with
  | call | breakDown | strayCall | strayBreakDown =>
      exact List.forall_mem_cons.mpr ⟨⟨hn, by simp⟩, hs⟩
  | finish | strayFinish => exact hs.closed hn
  | _ => exact hs

/-- Before the deadline everything in the log is past then. -/
lemma Path.past (h : pool.Path s trail t) (hn : ∀ st ∈ trail, st.before.now < l)
    (hs : Past l s.calls) : Past l t.calls := by
  induction h with
  | nil => exact hs
  | cons hstep _ ih =>
      obtain ⟨hfirst, hrest⟩ := List.forall_mem_cons.mp hn
      exact ih hrest (hstep.past hfirst hs)

/-- The end of a call after the deadline does not show in the log at the deadline. -/
lemma logAt_closed {now k : Nat} {r : String} (hl : l ≤ now)
    (hopen : ∀ c ∈ log, c.request = r → c.attempt = k → c.finish = none) :
    logAt l (closed now r k log) = logAt l log := by
  have hfilter : (closed now r k log).filter (·.start < l)
      = closed now r k (log.filter (·.start < l)) := by
    rw [closed, closed, List.filter_map]
    congr 1
    refine List.filter_congr fun c _ => ?_
    simp only [Function.comp_apply]
    split <;> rfl
  rw [logAt, logAt, hfilter, closed, List.map_map]
  refine List.map_congr_left fun c hc => ?_
  simp only [Function.comp_apply]
  split
  · next hsame =>
      simp only [Bool.and_eq_true, beq_iff_eq] at hsame
      have hnone := hopen c (List.mem_of_mem_filter hc) hsame.1 hsame.2
      have hlate : ¬now < l := by omega
      simp [hnone, Option.filter, hlate]
  · rfl

lemma Step.logAt_late (h : pool.Step s m t) (ha : pool.Accounted s) (hl : l ≤ s.now) :
    logAt l t.calls = logAt l s.calls := by
  have hlate : ¬s.now < l := by omega
  cases h with
  | call | breakDown | strayCall | strayBreakDown =>
      simp [logAt, Run.beginCall, Run.report, hlate]
  | finish hh hd =>
      exact logAt_closed hl fun c hc hr hk =>
        ha.finish_eq_none (List.mem_append_left _ (List.mem_of_getElem? hh)) hc hr hk
  | strayFinish hh hd =>
      exact logAt_closed hl fun c hc hr hk =>
        ha.finish_eq_none (List.mem_append_right _ (List.mem_of_getElem? hh)) hc hr hk
  | _ => rfl

/-- **What happens after a time does not change what the log said then.** -/
lemma Path.logAt_late (h : pool.Path s trail t) (hp : pool.Punctual trail)
    (ha : pool.Accounted s) (hl : l ≤ s.now) : logAt l t.calls = logAt l s.calls := by
  induction h with
  | nil => rfl
  | cons hstep _ ih =>
      obtain ⟨hprompt, hpunctual⟩ := punctual_cons.mp hp
      rw [ih hpunctual (hstep.accounted hprompt.wakeful ha) (hl.trans hstep.now_le),
        hstep.logAt_late ha hl]

/-! ## A pool at rest -/

/-- **Nothing is under way**: neither a batch nor a stray, and the log is right. -/
structure Resting (pool : Pool) (s : Run) : Prop where
  isDone : s.isDone = true
  strays_nil : s.strays = []
  accounted : pool.Accounted s

lemma start_resting (pool : Pool) : pool.Resting pool.start :=
  ⟨pool.start_isDone, rfl, pool.start_accounted⟩

/-- A pool is at rest after a batch that was not dropped. -/
lemma Resting.dispatch (hs : pool.Resting s)
    (h : pool.dispatch limit requests s = (t, some d)) : pool.Resting t := by
  obtain ⟨⟨trail, hp, hn⟩, hd, -⟩ := dispatch_eq_some h
  have hstrays : (s.begin requests).strays = [] := hs.strays_nil
  exact ⟨hd, hp.strays_nil hstrays, hp.accounted hn.timely (hs.accounted.begin hs.isDone _)⟩

/-- Time that passes does not disturb it. -/
lemma Resting.pass (hs : pool.Resting s) (limit : Option Nat) (time : Nat) :
    pool.Resting (s.pass limit time) := by
  have hhands : (s.pass limit time).hands = [] := (isDone_iff.mp hs.isDone).2.2
  refine ⟨hs.isDone, hs.strays_nil, hs.accounted.kept, hs.accounted.underWay, ?_, ?_⟩
  · simp [Early, hhands]
  · have hstrays : (s.pass limit time).strays = [] := hs.strays_nil
    simp [Early, hstrays]

/-- All that a dispatch wrote into the log is past when it ends. -/
lemma dispatch_past (h : pool.dispatch limit requests s = (t, some d)) (hl : t.now < l)
    (hs : Past l s.calls) : Past l t.calls := by
  obtain ⟨⟨trail, hp, -⟩, -, -⟩ := dispatch_eq_some h
  exact hp.past (fun st hst => (hp.before_le st hst).trans_lt hl) hs

/-! ## Two runs of the loop -/

variable {evaluate : Evaluation} {pace : Run → Nat} {past : List (List PageSource)}
  {batch : List PageSource} {r : Recrawl} {round : Round}

/-- The clock of the loop never goes back. -/
lemma Course.now_le (h : pool.Course evaluate limit pace past batch s r) :
    s.now ≤ r.run.now := by
  induction h with
  | unfinished => exact le_rfl
  | done => exact le_rfl
  | timedOut hr hd =>
      obtain ⟨trail, v, hp, rfl⟩ := dispatch_eq_none hd
      exact (le_pass_now ..).trans hp.now_mono
  | failed hr hd he =>
      obtain ⟨⟨trail, hp, -⟩, -, -⟩ := dispatch_eq_some hd
      exact (le_pass_now ..).trans hp.now_mono
  | again hr hd he h ih =>
      obtain ⟨⟨trail, hp, -⟩, -, -⟩ := dispatch_eq_some hd
      exact ((le_pass_now ..).trans hp.now_mono).trans ih

/-- Time passes before the limit as it passes without one. -/
lemma pass_of_le {time : Nat} (h : s.now + time ≤ l) :
    s.pass (some l) time = s.pass none time := by
  have hmin : min time (l - s.now) = time := by omega
  simp [Run.pass, hmin]

/-- At the limit it stops. -/
lemma pass_of_lt {time : Nat} (hs : s.now ≤ l) (h : l < s.now + time) :
    s.pass (some l) time = { s with now := l } := by
  have hmin : s.now + min time (l - s.now) = l := by omega
  simp [Run.pass, hmin]

/-- **Before the deadline the two runs are the same.** -/
lemma recrawlFrom_of_lt (pool : Pool) (evaluate : Evaluation) (pace : Run → Nat) : ∀ (n : Nat)
    (past : List (List PageSource)) (batch : List PageSource) (s : Run),
    (pool.recrawlFrom evaluate none n past batch s pace).run.now < l →
      pool.recrawlFrom evaluate (some l) n past batch s pace
        = pool.recrawlFrom evaluate none n past batch s pace
  | 0, past, batch, s, _ => rfl
  | n + 1, past, batch, s, h => by
      by_cases hr : (evaluate past batch).recrawl = []
      · rw [recrawlFrom_done hr, recrawlFrom_done hr]
      · obtain ⟨t, -, ht⟩ :=
          dispatch_none pool (s.pass none (pace s)) (evaluate past batch).recrawl
        obtain ⟨⟨trail, hp, -⟩, -, -⟩ := dispatch_eq_some ht
        have hstart : s.now + pace s ≤ t.now := hp.now_mono
        cases he : t.error with
        | some e =>
            rw [recrawlFrom_failed hr rfl ht he] at h ⊢
            exact recrawlFrom_failed hr (pass_of_le (hstart.trans h.le)) (dispatch_of_lt ht h) he n
        | none =>
            rw [recrawlFrom_again hr rfl ht he] at h ⊢
            have hnow := (course_recrawlFrom pool evaluate none pace n (batch :: past)
              ((evaluate past batch).kept ++ t.reported) t).now_le
            have hlt := hnow.trans_lt h
            rw [recrawlFrom_again hr (pass_of_le (hstart.trans hlt.le)) (dispatch_of_lt ht hlt) he]
            exact recrawlFrom_of_lt pool evaluate pace n _ _ t h

/-- **A dispatch that is cut off** in the state `v`, on a path that goes on to its end. -/
structure DroppedAt (pool : Pool) (l : Nat) (round : Round) (trail rest : List Transition)
    (v : Run) : Prop where
  before : pool.Path (round.before.begin round.rejected) trail v
  after : pool.Path v rest round.after
  punctual : pool.Punctual (trail ++ rest)
  now_lt : ∀ st ∈ trail, st.before.now < l
  now_eq : v.now = l
  /-- What workers have in their hands they took before, and nobody else has anything. -/
  strays_nil : v.strays = []
  taken_isPrefix : taken trail <+: round.rejected
  hands_subperm : (v.hands.map (·.request)).Subperm (taken trail)

/-- **What is left of the round into which the deadline falls.** -/
inductive Remains (pool : Pool) (l : Nat) (round : Round) : Run → Prop
  /-- The time is over before its dispatch begins, and no worker takes anything. -/
  | before (hb : l < round.before.now) : Remains pool l round { round.before with now := l }.drop
  /-- Its dispatch is dropped. -/
  | within {trail rest : List Transition} {v : Run} (h : pool.DroppedAt l round trail rest v) :
      Remains pool l round v.drop

/-- **The loop cut off at a time**: `r` is its run without a deadline, and `r'` the one with the
deadline `l`, from the batch `batch` that is to be evaluated in the state `s`. -/
structure CutAt (pool : Pool) (evaluate : Evaluation) (pace : Run → Nat)
    (past : List (List PageSource)) (batch : List PageSource) (s : Run) (l : Nat)
    (r r' : Recrawl) : Prop where
  /-- It ends with the deadline, -/
  ending_eq : r'.ending = .timedOut
  now_eq : r'.run.now = l
  /-- with the calls that there were by then; -/
  calls_eq : r'.run.calls = logAt l r.run.calls
  /-- it went through the same rounds, evaluated the first batch and what came of each round that
  was over before the deadline, and nothing else; the last of these rounds was not over then. -/
  rounds : ∃ earlier last later,
    pool.Chronicle evaluate none pace past batch s (earlier ++ last :: later) r ∧
    r'.evaluations = past.reverse ++ (earlier ++ [last]).map (·.batch) ∧
    (∀ round ∈ earlier, round.after.now < l) ∧ l ≤ last.after.now ∧
    (∀ round ∈ later, l ≤ round.before.now) ∧ pool.Remains l last r'.run
  /-- Afterwards only what workers had taken goes on to its end. -/
  emptied : ∃ rest, pool.Emptied r'.run rest (pool.drain r'.run.budget r'.run)

/-- Rounds after the deadline do not change what the log said then. -/
lemma recrawlFrom_logAt (pool : Pool) (evaluate : Evaluation) (pace : Run → Nat) : ∀ (n : Nat)
    (past : List (List PageSource)) (batch : List PageSource) (s : Run), pool.Resting s →
    l ≤ s.now →
      logAt l (pool.recrawlFrom evaluate none n past batch s pace).run.calls = logAt l s.calls
  | 0, past, batch, s, _, _ => rfl
  | n + 1, past, batch, s, hs, hl => by
      by_cases hr : (evaluate past batch).recrawl = []
      · rw [recrawlFrom_done hr]
      · have hu := hs.pass none (pace s)
        have hlu : l ≤ (s.pass none (pace s)).now := hl.trans (le_pass_now ..)
        obtain ⟨t, -, ht⟩ :=
          dispatch_none pool (s.pass none (pace s)) (evaluate past batch).recrawl
        obtain ⟨⟨trail, hp, hn⟩, -, -⟩ := dispatch_eq_some ht
        have hlog : logAt l t.calls = logAt l s.calls :=
          hp.logAt_late hn.punctual (hu.accounted.begin hu.isDone _) hlu
        cases he : t.error with
        | some e =>
            rw [recrawlFrom_failed hr rfl ht he]
            exact hlog
        | none =>
            rw [recrawlFrom_again hr rfl ht he,
              recrawlFrom_logAt pool evaluate pace n _ _ t (hu.dispatch ht)
                (hlu.trans hp.now_mono)]
            exact hlog

/-- No round begins before the loop. -/
lemma Chronicle.now_le {rounds : List Round}
    (h : pool.Chronicle evaluate limit pace past batch s rounds r) :
    ∀ round ∈ rounds, s.now ≤ round.before.now := by
  induction h with
  | unfinished => simp
  | done => exact List.forall_mem_singleton.mpr le_rfl
  | timedOut | failed => exact List.forall_mem_singleton.mpr (le_pass_now ..)
  | again hr hw he h ih =>
      have hnow : _ ≤ _ := (le_pass_now ..).trans hw.path.now_mono
      exact List.forall_mem_cons.mpr ⟨le_pass_now .., fun round hm => hnow.trans (ih round hm)⟩

/-- **How a dispatch is cut off** that would begin in the state `u` and end at the deadline or
later, in the state `t`. -/
lemma dispatch_remains (round : Round) {u : Run} (hs : pool.Resting s) (hp : Past l s.calls)
    (hsl : s.now ≤ l)
    {time : Nat} (hu : s.pass none time = u) (hr : round.rejected ≠ []) (hbefore : round.before = u)
    (ht : pool.dispatch none round.rejected u = (round.after, some d))
    (htl : l ≤ round.after.now) :
    ∃ v, pool.dispatch (some l) round.rejected (s.pass (some l) time) = (v, none) ∧
      pool.Remains l round v ∧ v.now = l ∧ v.calls = logAt l round.after.calls ∧
      ∃ rest, pool.Emptied v rest (pool.drain v.budget v) := by
  subst hu
  have hu := hs.pass none time
  have hstart := hu.accounted.begin hu.isDone round.rejected
  rcases Nat.lt_or_ge l (s.now + time) with hlt | hge
  · -- time is over before the dispatch begins
    obtain ⟨⟨trail, hpath, hn⟩, -, -⟩ := dispatch_eq_some ht
    have hlog := hpath.logAt_late (l := l) hn.punctual hstart hlt.le
    have hsame : ({ s with now := l } : Run) = { s.pass none time with now := l } := rfl
    have hfalse : (({ s with now := l } : Run).begin round.rejected).isDone = false := by
      simpa [Run.isDone, Run.begin] using hr
    have hhands : s.hands = [] := (isDone_iff.mp hs.isDone).2.2
    have hv := (hs.pass (some l) time).accounted
    rw [pass_of_lt hsl hlt] at hv ⊢
    refine ⟨({ s with now := l } : Run).drop, ?_, ?_, rfl, ?_, exists_emptied hv.drop rfl⟩
    · rw [dispatch, run_stays (l := l) le_rfl hfalse]
      simp [Run.drop, Run.begin, hhands]
    · rw [hsame, ← hbefore]
      exact Remains.before (hbefore ▸ hlt)
    · rw [hlog]
      exact hp.logAt_eq.symm
  · rw [pass_of_le hge]
    obtain ⟨v, trail, rest, hcut, htrail, hrest, hpunctual, hlt, hnow⟩ :=
      dispatch_cut ht hr hge htl
    obtain ⟨hfirst, hsecond⟩ := punctual_append.mp hpunctual
    have hv : pool.Accounted v := htrail.accounted hfirst.timely hstart
    have hprefix : taken trail <+: round.rejected := by
      simpa [Run.begin] using htrail.taken_isPrefix
    have hhands : (v.hands.map (·.request)).Subperm (taken trail) := by
      have hserved := htrail.served_perm
      simp only [Run.begin, List.map_nil, List.append_nil] at hserved
      exact (List.sublist_append_right _ _).subperm.trans hserved.symm.subperm
    refine ⟨v.drop, hcut, Remains.within ⟨hbefore ▸ htrail, hrest, hpunctual, hlt, hnow,
      htrail.strays_nil hs.strays_nil, hprefix, hhands⟩, hnow, ?_, exists_emptied hv.drop rfl⟩
    have hpast : Past l v.calls := htrail.past hlt hp
    rw [hrest.logAt_late hsecond hv hnow.ge, hpast.logAt_eq]
    rfl

/-- **The round in which the deadline falls.**  It would end at the deadline or later, in the state
`t`; it is cut short, and what the loop without a deadline does from then on changes nothing of what
the log said. -/
lemma cutAt_round {n : Nat} {later : List Round} {r : Recrawl} (hs : pool.Resting s)
    (hp : Past l s.calls) (hsl : s.now ≤ l) (hr : (evaluate past batch).recrawl ≠ [])
    (ht : pool.dispatch none (evaluate past batch).recrawl (s.pass none (pace s)) = (t, some d))
    (htl : l ≤ t.now) (hlog : logAt l r.run.calls = logAt l t.calls)
    (hlater : ∀ round ∈ later, l ≤ round.before.now)
    (hchronicle : ∀ trail,
      pool.Whole ⟨batch, evaluate past batch, s.pass none (pace s), trail, t⟩ →
      pool.Chronicle evaluate none pace past batch s
        (⟨batch, evaluate past batch, s.pass none (pace s), trail, t⟩ :: later) r) :
    pool.CutAt evaluate pace past batch s l r
      (pool.recrawlFrom evaluate (some l) (n + 1) past batch s pace) := by
  obtain ⟨⟨whole, hwhole, hscheduled⟩, hdone, -⟩ := dispatch_eq_some ht
  obtain ⟨v, hcut, hremains, hnow, hcalls, hempty⟩ := dispatch_remains
    ⟨batch, evaluate past batch, s.pass none (pace s), whole, t⟩ hs hp hsl rfl hr rfl ht htl
  rw [recrawlFrom_timedOut hr rfl hcut]
  refine ⟨rfl, hnow, hcalls.trans hlog.symm, ?_, hempty⟩
  exact ⟨[], ⟨batch, evaluate past batch, s.pass none (pace s), whole, t⟩, later,
    hchronicle whole ⟨hwhole, hscheduled, hdone, hs.strays_nil⟩, by simp, by simp, htl, hlater,
    hremains⟩

/-- The loop cut off after a round that ends before the deadline. -/
lemma CutAt.cons {r r' : Recrawl} (ht : t.now < l) (hr : (evaluate past batch).recrawl ≠ [])
    (hw : pool.Whole ⟨batch, evaluate past batch, s.pass none (pace s), trail, t⟩)
    (he : t.error = none)
    (h : pool.CutAt evaluate pace (batch :: past) ((evaluate past batch).kept ++ t.reported) t l
      r r') :
    pool.CutAt evaluate pace past batch s l r r' := by
  obtain ⟨earlier, last, later, hc, heval, hearlier, hlast, hlater, hremains⟩ := h.rounds
  refine ⟨h.ending_eq, h.now_eq, h.calls_eq, ?_, h.emptied⟩
  exact ⟨⟨batch, evaluate past batch, s.pass none (pace s), trail, t⟩ :: earlier, last, later,
    Chronicle.again hr hw he hc, by simpa using heval, List.forall_mem_cons.mpr ⟨ht, hearlier⟩,
    hlast, hlater, hremains⟩

/-- **A loop that does not end before the deadline is cut off there.** -/
lemma recrawlFrom_cut (pool : Pool) (evaluate : Evaluation) (pace : Run → Nat) : ∀ (n : Nat)
    (past : List (List PageSource)) (batch : List PageSource) (s : Run), pool.Resting s →
    Past l s.calls → s.now ≤ l →
    l ≤ (pool.recrawlFrom evaluate none n past batch s pace).run.now →
    s.now < (pool.recrawlFrom evaluate none n past batch s pace).run.now →
      pool.CutAt evaluate pace past batch s l
        (pool.recrawlFrom evaluate none n past batch s pace)
        (pool.recrawlFrom evaluate (some l) n past batch s pace)
  | 0, past, batch, s, _, _, _, _, hlt => absurd hlt (lt_irrefl _)
  | n + 1, past, batch, s, hs, hp, hsl, hl, hlt => by
      by_cases hr : (evaluate past batch).recrawl = []
      · rw [recrawlFrom_done hr] at hlt
        exact absurd hlt (lt_irrefl _)
      · obtain ⟨t, -, ht⟩ :=
          dispatch_none pool (s.pass none (pace s)) (evaluate past batch).recrawl
        have hrest := (hs.pass none (pace s)).dispatch ht
        cases he : t.error with
        | some e =>
            rw [recrawlFrom_failed hr rfl ht he] at hl ⊢
            exact cutAt_round hs hp hsl hr ht hl rfl (by simp)
              fun trail hw => Chronicle.failed hr hw he
        | none =>
            rw [recrawlFrom_again hr rfl ht he] at hl hlt ⊢
            rcases Nat.lt_or_ge t.now l with htl | htl
            · obtain ⟨⟨trail, hpath, hn⟩, hdone, -⟩ := dispatch_eq_some ht
              have hstart : s.now + pace s ≤ t.now := hpath.now_mono
              rw [recrawlFrom_again hr (pass_of_le (hstart.trans htl.le)) (dispatch_of_lt ht htl)
                he]
              exact (recrawlFrom_cut pool evaluate pace n _ _ t hrest (dispatch_past ht htl hp)
                htl.le hl (htl.trans_le hl)).cons htl hr ⟨hpath, hn, hdone, hs.strays_nil⟩ he
            · obtain ⟨later, hlater, -⟩ := chronicle_recrawlFrom pool evaluate none pace n
                (batch :: past) ((evaluate past batch).kept ++ t.reported) hrest.strays_nil
              exact cutAt_round hs hp hsl hr ht htl
                (recrawlFrom_logAt pool evaluate pace n _ _ t hrest htl)
                (fun round hm => htl.trans (hlater.now_le round hm))
                fun trail hw => Chronicle.again hr hw he hlater

/-! ## Loops without end -/

/-- **Rounds take time**: workers pause before each call, calls take time, or it takes some to
evaluate a batch and to begin a dispatch. -/
def TakesTime (pool : Pool) (pace : Run → Nat) : Prop :=
  0 < pool.config.delay ∨
    (∀ earlier request, (pool.crawler earlier request).atCall = false ∧
      0 < (pool.crawler earlier request).duration) ∨
    ∀ s, 0 < pace s

/-- A round without an error takes time. -/
lemma TakesTime.now_lt (hp : pool.TakesTime pace) (hr : requests ≠ [])
    (h : pool.dispatch limit requests (s.pass none (pace s)) = (t, some d))
    (he : d.error = none) : s.now < t.now := by
  have hok := fresh_isOk h he
  obtain ⟨⟨trail, hpath, hn⟩, hd, rfl⟩ := dispatch_eq_some h
  have hstart : s.now + pace s ≤ t.now := hpath.now_mono
  have hanswers := hpath.answers_perm hd
  have hreported := hpath.reported_perm hd
  rw [filter_isCancelled_of_isOk hok] at hanswers
  -- one of its calls is over when it ends
  obtain ⟨source, hm⟩ : ∃ source, source ∈ t.reported := by
    refine List.exists_mem_of_ne_nil _ fun hnil => hr ?_
    rw [hnil, List.map_nil] at hreported
    exact List.nil_perm.mp hreported
  obtain ⟨c, hc, -⟩ := List.mem_map.mp (hanswers.subset hm)
  have hover := hpath.finishOf_le hn.timely hd c hc
  have hle := start_le_finishOf pool c
  have hbegin : s.now + pace s ≤ c.start := hpath.le_start c (List.mem_filter.mp hc).1
  rcases hp with hdelay | hduration | hpace
  · obtain ⟨i, hi⟩ := List.mem_iff_getElem?.mp hc
    obtain ⟨p, htake, hpause⟩ := hpath.start_eq hn.punctual hi
    have hnow : s.now + pace s ≤ p.1 := hpath.le_takes p (List.mem_of_getElem? htake)
    omega
  · obtain ⟨hcall, hpos⟩ := hduration c.earlier c.request
    have hfinish : pool.finishOf c = c.start + (pool.crawler c.earlier c.request).duration := by
      rw [finishOf, replyTo, if_neg (by simp [hcall])]
    omega
  · have hpos := hpace s
    omega

/-- **When rounds take time, a loop that goes on gets anywhere.** -/
lemma recrawlFrom_takesTime (hp : pool.TakesTime pace) (evaluate : Evaluation) : ∀ (n : Nat)
    (past : List (List PageSource)) (batch : List PageSource) (s : Run),
    (pool.recrawlFrom evaluate none n past batch s pace).ending = .unfinished →
      s.now + n ≤ (pool.recrawlFrom evaluate none n past batch s pace).run.now
  | 0, past, batch, s, _ => le_rfl
  | n + 1, past, batch, s, h => by
      by_cases hr : (evaluate past batch).recrawl = []
      · rw [recrawlFrom_done hr] at h
        cases h
      · obtain ⟨t, -, ht⟩ :=
          dispatch_none pool (s.pass none (pace s)) (evaluate past batch).recrawl
        cases he : t.error with
        | some e =>
            rw [recrawlFrom_failed hr rfl ht he] at h
            cases h
        | none =>
            rw [recrawlFrom_again hr rfl ht he] at h ⊢
            have hnow := recrawlFrom_takesTime hp evaluate n _ _ t h
            have hlt := hp.now_lt hr ht he
            simp only at hnow ⊢
            omega

/-- Every call gives a page. -/
def AlwaysPages (pool : Pool) : Prop :=
  ∀ earlier request, ∃ page, (pool.crawler earlier request).ending = .page page

lemma AlwaysPages.isOk (hp : pool.AlwaysPages) :
    ∀ log, ∀ source ∈ pool.answers log, source.isOk = true
  | [] => by simp [answers]
  | r :: earlier => by
      obtain ⟨page, hpage⟩ := hp earlier r
      refine List.forall_mem_cons.mpr ⟨?_, hp.isOk earlier⟩
      rw [hpage]
      rfl

/-- **A request whose pages never pass keeps the loop going**, whatever else there is. -/
lemma recrawlFrom_unfinished (hn : pool.NeverCancelled) (hp : pool.AlwaysPages) {q : String}
    {valid : PageSource → Bool} (hq : ∀ source, source.request = q → valid source = false) :
    ∀ (n : Nat) (past : List (List PageSource)) (batch : List PageSource) (s : Run), Clear s →
      q ∈ batch.map (·.request) →
        (pool.recrawlFrom (.ofTest valid) none n past batch s pace).ending = .unfinished
  | 0, _, _, _, _, _ => rfl
  | n + 1, past, batch, s, hs, hm => by
      obtain ⟨source, hsource, hrequest⟩ := List.mem_map.mp hm
      have hrejected : q ∈ (Evaluation.ofTest valid past batch).recrawl :=
        List.mem_map.mpr ⟨source, List.mem_filter.mpr ⟨hsource, by simp [hq source hrequest]⟩,
          hrequest⟩
      have hu : Clear (s.pass none (pace s)) := ⟨hs.uncancelled, hs.strays_nil⟩
      obtain ⟨t, trail, ht, hpath, hdone, hc⟩ :=
        dispatch_clear hn hu (Evaluation.ofTest valid past batch).recrawl
      have hresults := hpath.results_perm hu.strays_nil hdone hc.uncancelled
      have herror : t.error = none := hpath.error_eq.trans (lastError_eq_none.mpr fun fresh hf =>
        hp.isOk t.called fresh (hresults.subset (List.mem_append_left _ hf)))
      rw [recrawlFrom_again (List.ne_nil_of_mem hrejected) rfl ht herror]
      refine recrawlFrom_unfinished hn hp hq n _ _ t hc ?_
      rw [List.map_append]
      exact List.mem_append_right _ ((hpath.reported_perm hdone).symm.subset hrejected)

/-! ## The deadline -/

/-- **A deadline only cuts.**  The two runs of a loop are given for every bound on its rounds, both
from the batch `batch` on, which is to be evaluated in the state `s`. -/
structure OnlyCuts (pool : Pool) (evaluate : Evaluation) (pace : Run → Nat)
    (batch : List PageSource) (s : Run) (l : Nat) (unbounded bounded : Nat → Recrawl) : Prop where
  /-- What the loop does before the deadline, its end included, it does with the deadline. -/
  same : ∀ n, (unbounded n).run.now < l → bounded n = unbounded n
  /-- If it goes on until the deadline, it is cut off there, and stays as it is under every larger
  bound. -/
  cut : ∀ n, l ≤ (unbounded n).run.now → s.now < (unbounded n).run.now →
    pool.CutAt evaluate pace [] batch s l (unbounded n) (bounded n) ∧
      ∀ k, n ≤ k → bounded k = bounded n
  /-- An endless loop is cut off, when time passes in its rounds. -/
  endless : pool.TakesTime pace → (∀ n, (unbounded n).ending = .unfinished) →
    ∃ n, pool.CutAt evaluate pace [] batch s l (unbounded n) (bounded n) ∧
      ∀ k, n ≤ k → bounded k = bounded n

lemma Resting.onlyCuts (hs : pool.Resting s) (hp : Past l s.calls) (hsl : s.now ≤ l)
    (evaluate : Evaluation) (pace : Run → Nat) (batch : List PageSource) :
    pool.OnlyCuts evaluate pace batch s l
      (fun n => pool.recrawlFrom evaluate none n [] batch s pace)
      fun n => pool.recrawlFrom evaluate (some l) n [] batch s pace := by
  have hcut : ∀ n, l ≤ (pool.recrawlFrom evaluate none n [] batch s pace).run.now →
      s.now < (pool.recrawlFrom evaluate none n [] batch s pace).run.now →
      pool.CutAt evaluate pace [] batch s l (pool.recrawlFrom evaluate none n [] batch s pace)
          (pool.recrawlFrom evaluate (some l) n [] batch s pace) ∧
        ∀ k, n ≤ k → pool.recrawlFrom evaluate (some l) k [] batch s pace
          = pool.recrawlFrom evaluate (some l) n [] batch s pace := by
    intro n hl hlt
    have hcut := recrawlFrom_cut pool evaluate pace n [] batch s hs hp hsl hl hlt
    refine ⟨hcut, fun k hk => recrawlFrom_of_le pool evaluate (some l) ?_ hk⟩
    rw [hcut.ending_eq]
    simp
  refine ⟨fun n h => recrawlFrom_of_lt pool evaluate pace n [] batch s h, hcut,
    fun ht hall => ?_⟩
  have hnow := recrawlFrom_takesTime ht evaluate (l + 1) [] batch s (hall (l + 1))
  exact ⟨l + 1, hcut (l + 1) (by omega) (by omega)⟩

/-- The account of the calls asks only for the crawl function. -/
lemma Accounted.congr (h : pool.crawler = pool'.crawler) (ha : pool.Accounted s) :
    pool'.Accounted s := by
  have hkept : ∀ log, pool.Kept log → pool'.Kept log := by
    intro log
    induction log with
    | nil => exact id
    | cons c log ih =>
        rintro ⟨⟨hattempt, hfinish⟩, hlog⟩
        rw [h] at hfinish
        exact ⟨⟨hattempt, hfinish⟩, ih hlog⟩
  have hopen : ∀ log, pool'.openHands log = pool.openHands log := by
    intro log
    induction log with
    | nil => rfl
    | cons c log ih => simp only [openHands, caller, h, ih]
  exact ⟨hkept _ ha.kept, hopen s.calls ▸ ha.underWay, ha.early_hands, ha.early_strays⟩

/-- The first crawl of a session leaves its pool at rest, with a log that is past. -/
lemma crawl_resting (session : Session) (network : Network) (template : String)
    (config : DispatchConfig) (requests : List String) :
    let t := (session.crawl network template config requests).1
    Resting ⟨.recrawl, session.crawler network template, none⟩ t ∧ Past (t.now + 1) t.calls := by
  have hs := start_resting ⟨config, session.crawler network template, none⟩
  obtain ⟨t, -, ht⟩ := dispatch_none ⟨config, session.crawler network template, none⟩
    (start ⟨config, session.crawler network template, none⟩) requests
  have hcrawl : (session.crawl network template config requests).1 = t := by
    have heq : Pool.dispatch ⟨config, session.crawler network template, none⟩ none requests {}
        = (t, some ⟨t.reported, t.error⟩) := ht
    simp only [Session.crawl, heq]
  have hsame : (Pool.mk config (session.crawler network template) none).crawler
      = (Pool.mk .recrawl (session.crawler network template) none).crawler := rfl
  rw [hcrawl]
  have ht' := hs.dispatch ht
  exact ⟨⟨ht'.isDone, ht'.strays_nil, ht'.accounted.congr hsame⟩,
    dispatch_past ht (Nat.lt_succ_self _) (by simp [Past, start])⟩

/-- **A deadline only cuts crawling again off, it never changes it.**

Until the deadline the loop does what it would do without, and if that is all, so is its result.
Otherwise it ends at the deadline without one, after the evaluations that there were by then and
with the calls that had begun; only requests that workers had taken go on to their end.  It does not
matter how long evaluations take.  The second part says the same of crawling again after the first
crawl of a session, whose deadline counts from there. -/
theorem deadline_only_cuts (pool : Pool) (evaluate : Evaluation) (initial : List PageSource)
    (pace : Run → Nat) (l : Nat) :
    pool.OnlyCuts evaluate pace initial pool.start l
      (fun n => pool.recrawl evaluate none n initial pace)
      (fun n => pool.recrawl evaluate (some l) n initial pace) ∧
    ∀ (session : Session) (network : Network) (template : String) (config : DispatchConfig)
      (requests : List String) (expected : List Selector) (deadline : Nat),
      let pool' : Pool := ⟨.recrawl, session.crawler network template, none⟩
      let t := (session.crawl network template config requests).1
      let first := (session.crawl network template config requests).2.results
      let check := Evaluation.ofTest (Check.hasSelector expected).passes
      pool'.OnlyCuts check pace first t (t.now + max 1 deadline)
          (fun n => pool'.recrawlFrom check none n [] first t pace)
          (fun n => session.recrawlUntilRendered network template expected (some deadline) n first t
            pace) ∧
        ∀ n, session.recrawlUntilRendered network template expected none n first t pace
          = pool'.recrawlFrom check none n [] first t pace := by
  refine ⟨?_, fun session network template config requests expected deadline => ?_⟩
  · exact pool.start_resting.onlyCuts (by simp [Past, start]) (Nat.zero_le l) evaluate pace initial
  · intro pool' t first check
    obtain ⟨hs, hp⟩ := crawl_resting session network template config requests
    have hl : t.now + 1 ≤ t.now + max 1 deadline := by omega
    exact ⟨hs.onlyCuts (hp.mono hl) ((Nat.le_succ _).trans hl) check pace first, fun _ => rfl⟩

/-- All pages are there at once and nobody pauses, but the page of "case-1" never passes: the loop
goes round every 50 milliseconds, until the deadline stops it. -/
theorem deadline_only_cuts_endless :
    let pool : Pool := ⟨.recrawl, fun _ r => { ending := .page r }, none⟩
    let evaluate := Evaluation.ofTest fun source => source.request != "case-1"
    let initial : List PageSource := ["case-0", "case-1", "case-2"].map fun r => ⟨r, .page r⟩
    let pace : Run → Nat := fun _ => 50
    pool.TakesTime pace ∧
      (∀ n, (pool.recrawl evaluate none n initial pace).ending = .unfinished) ∧
      (∃ n, pool.CutAt evaluate pace [] initial pool.start 300
          (pool.recrawl evaluate none n initial pace)
          (pool.recrawl evaluate (some 300) n initial pace) ∧
        ∀ k, n ≤ k → pool.recrawl evaluate (some 300) k initial pace
          = pool.recrawl evaluate (some 300) n initial pace) ∧
      pool.CutAt evaluate pace [] initial pool.start 300
        (pool.recrawl evaluate none 6 initial pace)
        (pool.recrawl evaluate (some 300) 6 initial pace) ∧
      (pool.recrawl evaluate (some 300) 6 initial pace).run.called
        = List.replicate 5 "case-1" := by
  intro pool evaluate initial pace
  obtain ⟨hcut, -⟩ := deadline_only_cuts pool evaluate initial pace 300
  have htime : pool.TakesTime pace := .inr (.inr fun _ => by decide)
  have hendless : ∀ n, (pool.recrawl evaluate none n initial pace).ending = .unfinished := by
    intro n
    refine recrawlFrom_unfinished (q := "case-1") ⟨rfl, fun _ _ => rfl⟩ (fun _ r => ⟨r, rfl⟩) ?_ n
      [] initial _ ⟨rfl, rfl⟩ (by decide)
    rintro ⟨_, _⟩ rfl
    rfl
  have hnow : (pool.recrawl evaluate none 6 initial pace).run.now = 300 := by decide +kernel
  have hcalled : (pool.recrawl evaluate (some 300) 6 initial pace).run.called
      = List.replicate 5 "case-1" := by
    decide +kernel
  refine ⟨htime, hendless, hcut.endless htime hendless, (hcut.cut 6 ?_ ?_).1, hcalled⟩
  · simp only [hnow]
    decide
  · simp only [hnow]
    decide

/-- The deadline falls into the second round, when a worker pauses before its call for "a". -/
example :
    let pool : Pool :=
      ⟨.new 2 1, fun _ r => { duration := if r = "a" then 3 else 0, ending := .page r }, none⟩
    let r := pool.recrawl (.ofTest fun source => source.request == "c") (some 6) 3
      (["a", "b", "c", "d"].map fun r => ⟨r, .page r⟩)
    r.ending = .timedOut ∧ r.evaluations.length = 2 ∧ r.run.strays = [⟨"a", .pausing 6⟩] := by
  decide +kernel

end Pool

end PageCrawl
