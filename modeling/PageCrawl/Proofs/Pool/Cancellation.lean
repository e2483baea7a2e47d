import PageCrawl.Proofs.Pool.Timely

/-!
# What a cancellation leaves of a batch

A cancellation may hit the feeder, the queue, a worker that pauses and a call under way, in any
combination.  It comes from outside or from a call, of the batch or of a stray, that asks for it
when it begins or when it ends (`Cancels`); or the pool was cancelled before the batch.  `Cut` says
what becomes of the batch from then on, whatever the order of things.  `CancelledBy` and `CutOff`
say more of the order that a dispatch follows, and `cancellation_cuts_batch` is all of it.

**The two halves.**  `Path.exists_cancellation` cuts a path in the first state in which the pool is
cancelled.  What workers took before is a beginning of the batch (`Path.taken_eq`), after it they
take nothing (`Path.taken_cancelled`), and calls are made for what was taken (`Path.called_eq`),
also by workers that paused when the cancellation came.

**Who reports the rest.**  The feeder gives up all it holds at once and in order
(`Path.giveUp_all`).  The request in the queue has to wait for a worker: there is none unless the
cancellation came from a call of the batch that is over, whose worker takes the queue before the
feeder acts (`Path.refuse_first`); otherwise all workers are busy, and the first that reports its
own source takes it right afterwards (`Path.refuse_next`).  In another order of things a worker may
be free for other reasons: there `LeftInTime` says when each of the requests is reported.
-/

namespace PageCrawl

namespace Pool

variable {pool : Pool} {s t u v : Run} {m : Move} {trail : List Transition}
  {requests : List String}

/-! ## Until the cancellation -/

/-- A pool that is not cancelled in the end never was. -/
lemma Path.uncancelled (h : pool.Path s trail t) (hc : t.cancelled = false) :
    s.cancelled = false ∧
      ∀ st ∈ trail, st.before.cancelled = false ∧ st.after.cancelled = false := by
  induction h with
  | nil => exact ⟨hc, by simp⟩
  | @cons s u t m trail hs hp ih =>
      obtain ⟨hu, hall⟩ := ih hc
      have hs0 : s.cancelled = false := by
        by_contra hne
        rw [hs.cancelled_mono (by simpa using hne)] at hu
        cases hu
      exact ⟨hs0, List.forall_mem_cons.mpr ⟨⟨hs0, hu⟩, hall⟩⟩

/-- A pool that is not cancelled reports no request as cancelled. -/
lemma Step.refused_eq (h : pool.Step s m t) (hc : s.cancelled = false) :
    t.refused = s.refused := by
  cases h with
  | giveUp hc' | refuse hc' =>
      rw [hc] at hc'
      cases hc'
  | breakDown | finish =>
      simp [Run.refused, Run.report, Run.beginCall, Run.endCall, PageSource.isCancelled_outcome]
  | _ => rfl

lemma Path.refused_eq (h : pool.Path s trail t) (hc : t.cancelled = false) :
    t.refused = s.refused := by
  induction h with
  | nil => rfl
  | cons hs hp ih =>
      rw [ih hc]
      exact hs.refused_eq ((Path.cons hs hp).uncancelled hc).1

/-- **A path to a cancelled state has a transition that cancels**, with a path on either side. -/
lemma Path.exists_cancellation (h : pool.Path s trail t) (hs : s.cancelled = false)
    (ht : t.cancelled = true) :
    ∃ past v m u after, trail = (past ++ [⟨v, m, u⟩]) ++ after ∧ pool.Path s past v ∧
      pool.Step v m u ∧ pool.Path u after t ∧ v.cancelled = false ∧ u.cancelled = true := by
  induction h with
  | nil =>
      rw [hs] at ht
      cases ht
  | @cons s u t m trail hstep hp ih =>
      cases hu : u.cancelled with
      | true => exact ⟨[], s, m, u, trail, rfl, Path.nil s, hstep, hp, hs, hu⟩
      | false =>
          obtain ⟨past, v, m', u', after, rfl, hpast, hrest⟩ := ih hu ht
          exact ⟨⟨s, m, u⟩ :: past, v, m', u', after, rfl, Path.cons hstep hpast, hrest⟩

/-- Whatever comes next but the cancellation from outside comes before its time. -/
lemma Next.now_lt {c : Nat} (hn : pool.Next s m) (hm : m ≠ .cancel) (hc : s.cancelled = false)
    (hp : pool.cancelAt = some c) : s.now < c := by
  have hpend : pool.cancelPending s = some c := by simp [cancelPending, hc, hp]
  cases hn with
  | cancel => exact absurd rfl hm
  | take hu | giveUp hu | feed hu => exact hu c hpend
  | goOn hq | strayOn hq | wait hq => exact hq.undisturbed c hpend

/-- Nobody waits beyond the time of the cancellation from outside. -/
lemma Next.now_le_max {c : Nat} (hn : pool.Next s m) (h : pool.Step s m t)
    (hc : s.cancelled = false) (hp : pool.cancelAt = some c) : t.now ≤ max c s.now := by
  cases h with
  | wait ht =>
      cases hn with
      | wait hq hlt hv hmin =>
          refine le_max_of_le_left (hmin c ?_)
          simp [dueTimes, cancelPending, hc, hp]
  | _ => exact le_max_right _ _

lemma Path.now_le_max {c : Nat} (h : pool.Path s trail t) (hs : pool.Scheduled trail)
    (hc : ∀ st ∈ trail, st.before.cancelled = false) (hp : pool.cancelAt = some c) :
    t.now ≤ max c s.now := by
  induction h with
  | nil => exact le_max_right _ _
  | @cons s u t m trail hstep hpath ih =>
      rw [List.forall_mem_cons] at hc
      have hu := hs.next.now_le_max hstep hc.1 hp
      have ht := ih hs.tail hc.2
      omega

lemma Path.now_mono (h : pool.Path s trail t) : s.now ≤ t.now := by
  induction h with
  | nil => exact le_rfl
  | cons hs _ ih => exact hs.now_le.trans ih

/-- **All that happens in a pool that is not cancelled happens before the time of the
cancellation.** -/
lemma Path.now_lt {c : Nat} (h : pool.Path s trail t) (hs : pool.Scheduled trail)
    (hc : t.cancelled = false) (hp : pool.cancelAt = some c) :
    ∀ st ∈ trail, st.before.now < c := by
  induction h with
  | nil => simp
  | @cons s u t m trail hstep hpath ih =>
      refine List.forall_mem_cons.mpr ⟨?_, ih hs.tail hc⟩
      have hu := (hpath.uncancelled hc).1
      refine hs.next.now_lt ?_ ((Path.cons hstep hpath).uncancelled hc).1 hp
      rintro rfl
      cases hstep
      cases hu

/-- A batch that ends before the pool is cancelled ends before the time of the cancellation. -/
lemma Path.done_before {c : Nat} (h : pool.Path s trail t) (hs : pool.Scheduled trail)
    (hc : t.cancelled = false) (hd : t.isDone = true) (hp : pool.cancelAt = some c) :
    trail = [] ∨ t.now < c := by
  induction h with
  | nil => exact .inl rfl
  | @cons s u t m trail hstep hpath ih =>
      have hlt := (Path.cons hstep hpath).now_lt hs hc hp
      rw [List.forall_mem_cons] at hlt
      rcases ih hs.tail hc hd with rfl | hnow
      · cases hpath
        refine .inr ?_
        -- the last move was no waiting, which would have left the batch as it was
        have hm : ∀ w, m ≠ .wait w := by
          rintro w rfl
          cases hstep
          have hs0 : s.isDone = false := (scheduled_cons.mp hs).1.1
          have hd0 : s.isDone = true := hd
          rw [hs0] at hd0
          cases hd0
        rw [hstep.now_eq hm]
        exact hlt.1
      · exact .inr hnow

/-! ## What cancels a pool -/

/-- Whether a request that goes on at the end of its stage cancels the pool: by the call that
begins, or by the call that ends. -/
def asksToCancel (pool : Pool) (s : Run) : Hand → Bool
  | ⟨r, .pausing _⟩ => (pool.crawler s.called r).cancelsAtOnce
  | ⟨_, .calling _ reply _⟩ => reply.cancels

/-- **What cancels a pool**: the outside, or the beginning or the end of a call that asks for
it. -/
inductive Cancels (pool : Pool) : Transition → Prop
  | outside (s : Run) : Cancels pool ⟨s, .cancel, { s with cancelled := true }⟩
  | call {s t : Run} {i : Nat} {hand : Hand} (hh : s.hands[i]? = some hand)
      (hr : pool.asksToCancel s hand = true) : Cancels pool ⟨s, .goOn i, t⟩
  | stray {s t : Run} {i : Nat} {hand : Hand} (hh : s.strays[i]? = some hand)
      (hr : pool.asksToCancel s hand = true) : Cancels pool ⟨s, .strayOn i, t⟩

lemma Step.cancels (h : pool.Step v m u) (hv : v.cancelled = false) (hu : u.cancelled = true) :
    pool.Cancels ⟨v, m, u⟩ := by
  cases h with
  | cancel hc => exact Cancels.outside v
  | call hh hd ha => exact Cancels.call hh (by simpa [asksToCancel, hv] using hu)
  | breakDown hh hd ha => exact Cancels.call hh (by simpa [asksToCancel, Run.report, hv] using hu)
  | finish hh hd => exact Cancels.call hh (by simpa [asksToCancel, Run.report, hv] using hu)
  | strayCall hh hd ha => exact Cancels.stray hh (by simpa [asksToCancel, hv] using hu)
  | strayBreakDown hh hd ha => exact Cancels.stray hh (by simpa [asksToCancel, hv] using hu)
  | strayFinish hh hd => exact Cancels.stray hh (by simpa [asksToCancel, hv] using hu)
  | _ => exact absurd (hv.symm.trans hu) Bool.false_ne_true

/-- **What cancelled a pool**, at the end of a path from the beginning of a batch to the first
state in which it is cancelled. -/
inductive CancelledBy (pool : Pool) (s : Run) : List Transition → Run → Prop
  /-- It was cancelled before the batch. -/
  | already (hc : s.cancelled = true) : CancelledBy pool s [] s
  /-- It was cancelled from outside, when the time for that came, or at once if that time was
  past; all that happened before happened before that time. -/
  | outside {past : List Transition} {v : Run} {c : Nat} (hp : pool.cancelAt = some c)
      (hn : v.now = max c s.now) (hpast : ∀ st ∈ past, st.before.now < c) :
      CancelledBy pool s (past ++ [⟨v, .cancel, { v with cancelled := true }⟩])
        { v with cancelled := true }
  /-- A call of the batch cancelled it when it began or when it ended. -/
  | call {past : List Transition} {v u : Run} {i : Nat} {hand : Hand}
      (hh : v.hands[i]? = some hand) (hr : pool.asksToCancel v hand = true) :
      CancelledBy pool s (past ++ [⟨v, .goOn i, u⟩]) u
  /-- A call of a stray cancelled it when it began or when it ended. -/
  | stray {past : List Transition} {v u : Run} {i : Nat} {hand : Hand}
      (hh : v.strays[i]? = some hand) (hr : pool.asksToCancel v hand = true) :
      CancelledBy pool s (past ++ [⟨v, .strayOn i, u⟩]) u

/-- Along the order of things a pool is cancelled in one of the ways of `CancelledBy`. -/
lemma Path.cancelledBy (h : pool.Path s trail v) (hstep : pool.Step v m u)
    (hs : pool.Scheduled (trail ++ [⟨v, m, u⟩])) (hv : v.cancelled = false)
    (hu : u.cancelled = true) : pool.CancelledBy s (trail ++ [⟨v, m, u⟩]) u := by
  obtain ⟨htrail, hlast⟩ := scheduled_append.mp hs
  cases hstep.cancels hv hu with
  | outside =>
      cases hlast.next with
      | @cancel c hp hle =>
          have hp' : pool.cancelAt = some c := by simpa [cancelPending, hv] using hp
          have hmax := h.now_le_max htrail (fun st hst => ((h.uncancelled hv).2 st hst).1) hp'
          have hmono := h.now_mono
          exact CancelledBy.outside hp' (by omega) (h.now_lt htrail hv hp')
  | call hh hr => exact CancelledBy.call hh hr
  | stray hh hr => exact CancelledBy.stray hh hr

/-! ## After the cancellation -/

/-- A free worker takes the queue before anything else happens. -/
lemma Next.eq_take (hn : pool.Next s m) (hc : s.cancelled = true) (hs : s.slot.isSome)
    (hf : s.hands.length < pool.config.workers) : m = .take := by
  have hbusy : ¬pool.Settled s := fun h => absurd (h hs) (by omega)
  cases hn with
  | cancel hp => simp [cancelPending, hc] at hp
  | take => rfl
  | giveUp _ h => exact absurd h hbusy
  | feed _ hc' =>
      rw [hc] at hc'
      cases hc'
  | goOn hq | strayOn hq | wait hq => exact absurd hq.settled hbusy

/-- Without a free worker it is the turn of the feeder, as long as it holds something. -/
lemma Next.eq_giveUp (hn : pool.Next s m) (hc : s.cancelled = true) (hf : pool.Settled s)
    (hw : s.waiting ≠ []) : m = .giveUp := by
  cases hn with
  | cancel hp => simp [cancelPending, hc] at hp
  | take _ hs hlt => exact absurd (hf (by simp [hs])) (by omega)
  | giveUp => rfl
  | feed _ hc' =>
      rw [hc] at hc'
      cases hc'
  | goOn hq | strayOn hq | wait hq =>
      rw [(hq.fed hw).1] at hc
      cases hc

/-- **A free worker reports the request in the queue first of all.** -/
lemma Path.refuse_first {q : String} (h : pool.Path s trail t) (hn : pool.Scheduled trail)
    (hc : s.cancelled = true) (hs : s.slot = some q) (hf : s.hands.length < pool.config.workers)
    (hd : t.isDone = true) :
    ∃ w rest, pool.Path w rest t ∧ pool.Scheduled rest ∧ w.now = s.now ∧ w.cancelled = true ∧
      w.slot = none ∧ w.waiting = s.waiting ∧
      reports trail = (s.now, ⟨q, .cancelled⟩) :: reports rest := by
  cases h with
  | nil =>
      rw [(isDone_iff.mp hd).2.1] at hs
      cases hs
  | @cons _ u _ m trail hstep hp =>
      obtain rfl := hn.next.eq_take hc (by simp [hs]) hf
      cases hstep with
      | take hc' =>
          rw [hc] at hc'
          cases hc'
      | @refuse r _ hr =>
          obtain rfl : r = q := by simpa [hr] using hs
          exact ⟨_, trail, hp, hn.tail, rfl, hc, rfl, rfl, by simp [Transition.reports, Run.report]⟩

/-- **The feeder gives up all it holds, at once and in order.** -/
lemma Path.giveUp_all (h : pool.Path s trail t) (hn : pool.Scheduled trail)
    (hc : s.cancelled = true) (hf : pool.Settled s) (hd : t.isDone = true) :
    ∃ w rest, pool.Path w rest t ∧ pool.Scheduled rest ∧ w.cancelled = true ∧ w.waiting = [] ∧
      w.slot = s.slot ∧ w.hands = s.hands ∧
      reports trail = cancelledAt s.now s.waiting ++ reports rest := by
  induction h with
  | nil s =>
      have hw := (isDone_iff.mp hd).1
      exact ⟨s, [], Path.nil s, hn, hc, hw, rfl, rfl, by simp [cancelledAt, hw]⟩
  | @cons s u t m trail hstep hp ih =>
      by_cases hw : s.waiting = []
      · exact ⟨s, _, Path.cons hstep hp, hn, hc, hw, rfl, rfl, by simp [cancelledAt, hw]⟩
      · obtain rfl := hn.next.eq_giveUp hc hf hw
        cases hstep with
        | @giveUp r rest' _ hr =>
            obtain ⟨w, rest, hpath, hs, hcw, hww, hsw, hhw, hrep⟩ := ih hn.tail hc hf hd
            refine ⟨w, rest, hpath, hs, hcw, hww, hsw, hhw, ?_⟩
            rw [reports_cons, hrep]
            simp [Transition.reports, Run.report, cancelledAt, hr]

/-- **When all workers are busy** and the feeder has nothing left, either nothing is reported and
they stay busy, or one of them reports its own source and is free. -/
lemma Step.busy (h : pool.Step s m t) (hc : s.cancelled = true) (hw : s.waiting = [])
    (hf : s.hands.length = pool.config.workers) :
    t.cancelled = true ∧ t.waiting = [] ∧ t.slot = s.slot ∧
      (t.hands.length = pool.config.workers ∧ reports [⟨s, m, t⟩] = [] ∨
        t.now = s.now ∧ t.hands.length < pool.config.workers ∧
          ∃ own : PageSource, own.isCancelled = false ∧ reports [⟨s, m, t⟩] = [(s.now, own)]) := by
  have hending := h.ending hc
  refine ⟨h.cancelled_mono hc, ?_⟩
  generalize reports [⟨s, m, t⟩] = reported at hending ⊢
  cases hending with
  | giveUp hr =>
      rw [hw] at hr
      cases hr
  | refuse _ hlt => omega
  | own hown hs hw' hh hn => exact ⟨hw'.trans hw, hs, .inr ⟨hn, by omega, _, hown, rfl⟩⟩
  | silent hs hw' hh => exact ⟨hw'.trans hw, hs, .inl ⟨hh.trans hf, rfl⟩⟩
  | wait _ hs hw' hh => exact ⟨hw'.trans hw, hs, .inl ⟨hh.trans hf, rfl⟩⟩

/-- The first worker that reports its own source takes the request in the queue right
afterwards. -/
lemma Path.refuse_next {q : String} (h : pool.Path s trail t) (hn : pool.Scheduled trail)
    (hc : s.cancelled = true) (hw : s.waiting = []) (hs : s.slot = some q)
    (hf : s.hands.length = pool.config.workers) (hd : t.isDone = true) :
    ∃ time own rest, own.isCancelled = false ∧
      reports trail = (time, own) :: (time, ⟨q, .cancelled⟩) :: rest := by
  induction h with
  | nil =>
      rw [(isDone_iff.mp hd).2.1] at hs
      cases hs
  | @cons s u t m trail hstep hp ih =>
      obtain ⟨hcu, hwu, hsu, ⟨hfu, hrep⟩ | ⟨hnow, hlt, own, hown, hrep⟩⟩ := hstep.busy hc hw hf
      · rw [reports_split, hrep]
        exact ih hn.tail hcu hwu (hsu.trans hs) hfu hd
      · obtain ⟨w, rest, -, -, -, -, -, -, hrest⟩ :=
          hp.refuse_first hn.tail hcu (hsu.trans hs) hlt hd
        exact ⟨s.now, own, reports rest, hown, by rw [reports_split, hrep, hrest, hnow]; rfl⟩

/-! ## The batch as a whole -/

/-- **How the requests that nobody took are reported**: `before` is what was reported until the
cancellation in the state `u`, and `after` what was reported from then on. -/
inductive LeftInOrder (pool : Pool) (u : Run) (before after : List (Nat × PageSource)) : Prop
  /-- Nothing was in the queue, and the feeder gives up all it holds. -/
  | empty {rest : List (Nat × PageSource)} (hs : u.slot = none)
      (ha : after = cancelledAt u.now u.waiting ++ rest)
  /-- The worker whose call cancelled the pool has just reported its own source; it reports the
  request in the queue, and the feeder gives up all it holds. -/
  | atOnce {q : String} {own : PageSource} {past rest : List (Nat × PageSource)}
      (hs : u.slot = some q) (hown : own.isCancelled = false) (hb : before = past ++ [(u.now, own)])
      (ha : after = (u.now, ⟨q, .cancelled⟩) :: (cancelledAt u.now u.waiting ++ rest))
  /-- All workers were busy: the feeder gives up all it holds, and the first worker that reports
  its own source reports the request in the queue right afterwards. -/
  | next {q : String} {time : Nat} {own : PageSource} {rest : List (Nat × PageSource)}
      (hs : u.slot = some q) (hf : u.hands.length = pool.config.workers)
      (hown : own.isCancelled = false)
      (ha : after = cancelledAt u.now u.waiting ++ (time, own) :: (time, ⟨q, .cancelled⟩) :: rest)

/-- **What becomes of a batch** that is cancelled after the path `before`, in the state `u`, and
goes on to its end with the path `after`, in whatever order things happen. -/
structure Cut (pool : Pool) (requests : List String) (before after : List Transition) (u : Run)
    (results : List PageSource) : Prop where
  /-- What workers took before the cancellation is a beginning of the batch.  What is left is in
  the queue and with the feeder, -/
  taken_append : taken before ++ (u.slot.toList ++ u.waiting) = requests
  /-- and no worker takes any of it. -/
  taken_after : taken after = []
  /-- Calls are made for what was taken before, and for nothing else, -/
  called_perm : ((ownCalls (before ++ after)).map (·.request)).Perm (taken before)
  /-- each of them runs to its end and its own source is reported, -/
  crawled : (results.filter (!·.isCancelled)).Perm ((ownCalls (before ++ after)).map pool.answer)
  /-- and what is left is reported as cancelled, each request once. -/
  refused : (results.filter (·.isCancelled)).Perm
    ((u.slot.toList ++ u.waiting).map fun r => ⟨r, .cancelled⟩)

/-- **What becomes of a batch in the order that a dispatch follows.** -/
structure CutOff (pool : Pool) (requests : List String) (before after : List Transition) (u : Run)
    (results : List PageSource) : Prop extends Cut pool requests before after u results where
  /-- Calls are made in the order in which requests were taken. -/
  called : (ownCalls (before ++ after)).map (·.request) = taken before
  order : pool.LeftInOrder u (reports before) (reports after)

/-- When a cancellation from outside is due, a filled queue means that all workers are busy. -/
lemma Path.settled (h : pool.Path s trail t) (hn : pool.Scheduled trail)
    (hs : ¬pool.Undisturbed s → pool.Settled s) : ¬pool.Undisturbed t → pool.Settled t := by
  induction h with
  | nil => exact hs
  | cons hstep _ ih => exact ih hn.tail (hn.next.settled hstep)

/-- At the cancellation either a filled queue means that all workers are busy, or one of them has
just reported its own source. -/
lemma Path.settled_or_reported (h : pool.Path (s.begin requests) trail v)
    (hstep : pool.Step v m u) (hn : pool.Scheduled (trail ++ [⟨v, m, u⟩]))
    (hv : v.cancelled = false) (hu : u.cancelled = true) :
    pool.Settled u ∨ ∃ own : PageSource, own.isCancelled = false ∧
      reports (trail ++ [⟨v, m, u⟩]) = reports trail ++ [(u.now, own)] := by
  obtain ⟨htrail, hlast⟩ := scheduled_append.mp hn
  cases hstep with
  | cancel hc =>
      cases hlast.next with
      | @cancel c hp hle =>
          have hdue : ¬pool.Undisturbed v := fun hund => absurd (hund c hp) (by omega)
          exact .inl (h.settled htrail (fun _ hs => by simp [Run.begin] at hs) hdue)
  | call hh hd ha =>
      cases hlast.next with
      | goOn hq => exact .inl fun hs => by simpa using hq.settled hs
  | @breakDown i d r hh hd ha =>
      refine .inr ⟨_, PageSource.isCancelled_outcome r (pool.crawler v.called r).ending, ?_⟩
      simp [Transition.reports, Run.beginCall, Run.report]
  | @finish i k d r reply hh hd =>
      refine .inr ⟨_, PageSource.isCancelled_outcome r reply.ending, ?_⟩
      simp [Transition.reports, Run.endCall, Run.report]
  | strayCall | strayBreakDown | strayFinish =>
      cases hlast.next with
      | strayOn hq => exact .inl hq.settled
  | _ => exact absurd (hv.symm.trans hu) Bool.false_ne_true

lemma Path.hands_le (h : pool.Path (s.begin requests) trail t) :
    t.hands.length ≤ pool.config.workers :=
  h.invariant Step.hands_le (by simp [Run.begin])

lemma Path.leftInOrder {before after : List Transition} (hb : pool.Path (s.begin requests) before u)
    (ha : pool.Path u after t) (hn : pool.Scheduled after) (hu : u.cancelled = true)
    (hd : t.isDone = true)
    (hf : pool.Settled u ∨ ∃ past own, own.isCancelled = false ∧
      reports before = past ++ [(u.now, own)]) :
    pool.LeftInOrder u (reports before) (reports after) := by
  cases hs : u.slot with
  | none =>
      obtain ⟨w, rest, -, -, -, -, -, -, hrep⟩ := ha.giveUp_all hn hu (by simp [Settled, hs]) hd
      exact LeftInOrder.empty hs hrep
  | some q =>
      by_cases hfree : u.hands.length < pool.config.workers
      · rcases hf with hf | ⟨past, own, hown, hrep⟩
        · exact absurd (hf (by simp [hs])) (by omega)
        · obtain ⟨w, rest, hp, hs', hnow, hcw, hsw, hww, hq⟩ :=
            ha.refuse_first hn hu hs hfree hd
          obtain ⟨x, rest', -, -, -, -, -, -, hrest⟩ :=
            hp.giveUp_all hs' hcw (by simp [Settled, hsw]) hd
          rw [hrest, hnow, hww] at hq
          exact LeftInOrder.atOnce hs hown hrep hq
      · have hle := hb.hands_le
        have hset : pool.Settled u := fun _ => by omega
        obtain ⟨w, rest, hp, hs', hcw, hww, hsw, hhw, hrep⟩ := ha.giveUp_all hn hu hset hd
        obtain ⟨time, own, rest', hown, hrest⟩ :=
          hp.refuse_next hs' hcw hww (hsw.trans hs) (by rw [hhw]; omega) hd
        rw [hrest] at hrep
        exact LeftInOrder.next hs (by omega) hown hrep

/-- Calls are made for what was taken, in this order. -/
lemma Path.called_eq_taken (h : pool.Path (s.begin requests) trail t) (hn : pool.Scheduled trail)
    (hd : t.isDone = true) : (ownCalls trail).map (·.request) = taken trail := by
  have hcall := h.called_eq hn (pausesInOrder_begin pool s requests)
  simpa [pausing, (isDone_iff.mp hd).2.2, Run.begin] using hcall

lemma Path.cut {before after : List Transition} (hb : pool.Path (s.begin requests) before u)
    (ha : pool.Path u after t) (hc : ∀ st ∈ before, st.before.cancelled = false)
    (hu : u.cancelled = true) (hd : t.isDone = true) :
    pool.Cut requests before after u t.reported := by
  have hp := hb.append ha
  have hsplit : taken before ++ (u.slot.toList ++ u.waiting) = requests := by
    simpa [Run.begin] using (hb.taken_eq hc).symm
  have hnone := ha.taken_cancelled hu
  have hcalled : ((ownCalls (before ++ after)).map (·.request)).Perm (taken before) := by
    have hall := hp.called_perm_taken
    rw [Pool.taken_append, hnone, List.append_nil] at hall
    simpa [pausing, (isDone_iff.mp hd).2.2, Run.begin] using hall
  have hrest : ((t.reported.filter (·.isCancelled)).map (·.request)).Perm
      (u.slot.toList ++ u.waiting) := by
    have hperm := (hcalled.append_right _).symm.trans (hp.requests_perm hd)
    rwa [← hsplit, List.perm_append_left_iff] at hperm
  refine ⟨hsplit, hnone, hcalled, hp.answers_perm hd, ?_⟩
  have hmap : (t.reported.filter (·.isCancelled)).map (fun source => ⟨source.request, .cancelled⟩)
      = t.reported.filter (·.isCancelled) := by
    refine (List.map_congr_left fun source hm => ?_).trans (List.map_id _)
    exact (PageSource.eq_of_isCancelled (List.mem_filter.mp hm).2).symm
  have hrefused := hrest.map fun r => (⟨r, .cancelled⟩ : PageSource)
  rw [List.map_map] at hrefused
  rw [← hmap]
  exact hrefused

lemma Path.cutOff {before after : List Transition} (hb : pool.Path (s.begin requests) before u)
    (ha : pool.Path u after t) (hn : pool.Scheduled (before ++ after))
    (hc : ∀ st ∈ before, st.before.cancelled = false) (hu : u.cancelled = true)
    (hd : t.isDone = true)
    (hf : pool.Settled u ∨ ∃ past own, own.isCancelled = false ∧
      reports before = past ++ [(u.now, own)]) :
    pool.CutOff requests before after u t.reported := by
  refine ⟨hb.cut ha hc hu hd, ?_, hb.leftInOrder ha (scheduled_append.mp hn).2 hu hd hf⟩
  rw [(hb.append ha).called_eq_taken hn hd, Pool.taken_append, ha.taken_cancelled hu,
    List.append_nil]

/-- **Where a path is cut**: at its beginning, or behind the transition that cancels. -/
lemma Path.exists_cut (h : pool.Path (s.begin requests) trail t) (hc : t.cancelled = true) :
    ∃ before u after, trail = before ++ after ∧ pool.Path (s.begin requests) before u ∧
      pool.Path u after t ∧ u.cancelled = true ∧ (∀ st ∈ before, st.before.cancelled = false) ∧
      (before = [] ∧ u = s.begin requests ∨ ∃ past st, before = past ++ [st] ∧ st.after = u ∧
        pool.Path (s.begin requests) past st.before ∧ pool.Step st.before st.move u ∧
        st.before.cancelled = false ∧ pool.Cancels st) := by
  cases hs : s.cancelled with
  | true =>
      exact ⟨[], s.begin requests, trail, rfl, Path.nil _, h, hs, by simp, .inl ⟨rfl, rfl⟩⟩
  | false =>
      obtain ⟨past, v, m, u, after, rfl, hpast, hstep, hafter, hv, hu⟩ :=
        h.exists_cancellation hs hc
      refine ⟨past ++ [⟨v, m, u⟩], u, after, rfl, hpast.append (Path.cons hstep (Path.nil u)),
        hafter, hu, ?_, .inr ⟨past, _, rfl, rfl, hpast, hstep, hv, hstep.cancels hv hu⟩⟩
      exact List.forall_mem_append.mpr ⟨fun st hst => ((hpast.uncancelled hv).2 st hst).1,
        List.forall_mem_singleton.mpr hv⟩

/-- **A cancellation cuts a batch in two.**  Wherever it comes from and in whatever order things
happen, the first state `u` in which the pool is cancelled is the beginning of the batch or follows
a transition of `Cancels`; what workers took before is crawled and reported, and the rest is
reported as cancelled, as `Cut` says, and when, if nobody sleeps on what can be done, `LeftInTime`.

A dispatch follows one such path.  Every dispatch that nobody drops comes to its end; and whatever
the limit, for a dispatch that is not dropped one of two things happens.  Either the pool is
cancelled on the way, in one of the ways of `CancelledBy`, and `CutOff` says more of the order.  Or
it is not; then the batch is crawled as a whole, and ends before the time set for a cancellation
from outside. -/
theorem cancellation_cuts_batch (pool : Pool) (requests : List String) (s : Run) :
    (∀ trail t, pool.Path (s.begin requests) trail t → t.isDone = true → t.cancelled = true →
      ∃ before u after, trail = before ++ after ∧ pool.Path (s.begin requests) before u ∧
        pool.Path u after t ∧ u.cancelled = true ∧
        (∀ st ∈ before, st.before.cancelled = false) ∧
        (before = [] ∧ s.cancelled = true ∨
          ∃ past st, before = past ++ [st] ∧ st.after = u ∧ pool.Cancels st) ∧
        pool.Cut requests before after u t.reported ∧
        (pool.Timely after → pool.LeftInTime u (reports after))) ∧
    (∃ t d, pool.dispatch none requests s = (t, some d)) ∧
    ∀ limit t d, pool.dispatch limit requests s = (t, some d) →
      ∃ trail, pool.Path (s.begin requests) trail t ∧ pool.Scheduled trail ∧ pool.Timely trail ∧
        d.results = (reports trail).map (·.2) ∧
        (t.cancelled = true → ∃ before u after, trail = before ++ after ∧
          pool.Path (s.begin requests) before u ∧ pool.Path u after t ∧ u.cancelled = true ∧
          (∀ st ∈ before, st.before.cancelled = false) ∧
          pool.CancelledBy (s.begin requests) before u ∧
          pool.CutOff requests before after u d.results) ∧
        (t.cancelled = false → (ownCalls trail).map (·.request) = requests ∧
          (∀ source ∈ d.results, source.isCancelled = false) ∧
          ∀ c, pool.cancelAt = some c → requests = [] ∨ t.now < c) := by
  refine ⟨fun trail t hp hd hc => ?_, ?_, fun limit t d h => ?_⟩
  · obtain ⟨before, u, after, rfl, hb, ha, hu, hfirst, hby⟩ := hp.exists_cut hc
    refine ⟨before, u, after, rfl, hb, ha, hu, hfirst, ?_, hb.cut ha hfirst hu hd,
      fun htimely => ha.leftInTime htimely hu hb.hands_le hd⟩
    rcases hby with ⟨hnil, rfl⟩ | ⟨past, st, heq, hafter, -, -, -, hcancels⟩
    · exact .inl ⟨hnil, hu⟩
    · exact .inr ⟨past, st, heq, hafter, hcancels⟩
  · obtain ⟨t, -, ht⟩ := dispatch_none pool s requests
    exact ⟨t, _, ht⟩
  obtain ⟨⟨trail, hp, hn⟩, hd, rfl⟩ := dispatch_eq_some h
  refine ⟨trail, hp, hn, hn.timely, hp.reported_begin, fun hc => ?_, fun hc => ?_⟩
  · obtain ⟨before, u, after, rfl, hb, ha, hu, hfirst, hby⟩ := hp.exists_cut hc
    refine ⟨before, u, after, rfl, hb, ha, hu, hfirst, ?_, hb.cutOff ha hn hfirst hu hd ?_⟩
    · rcases hby with ⟨rfl, rfl⟩ | ⟨past, ⟨v, m, w⟩, rfl, rfl, hpast, hstep, hv, -⟩
      · exact CancelledBy.already hu
      · exact hpast.cancelledBy hstep (scheduled_append.mp hn).1 hv hu
    · rcases hby with ⟨rfl, rfl⟩ | ⟨past, ⟨v, m, w⟩, rfl, rfl, hpast, hstep, hv, -⟩
      · exact .inl fun hslot => by simp [Run.begin] at hslot
      · exact (hpast.settled_or_reported hstep (scheduled_append.mp hn).1 hv hu).imp_right
          fun hown => ⟨reports past, hown⟩
  · have hall := hp.taken_eq fun st hst => ((hp.uncancelled hc).2 st hst).1
    rw [(isDone_iff.mp hd).1, (isDone_iff.mp hd).2.1] at hall
    have hcalled : (ownCalls trail).map (·.request) = requests := by
      rw [hp.called_eq_taken hn hd]
      simpa [Run.begin] using hall.symm
    refine ⟨hcalled, fun source hm => ?_, fun c hcancel => ?_⟩
    · have hlen := (hp.requests_perm hd).length_eq
      rw [hcalled, List.length_append, List.length_map] at hlen
      have hnone : t.reported.filter (·.isCancelled) = [] := List.length_eq_zero_iff.mp (by omega)
      simpa using List.filter_eq_nil_iff.mp hnone source hm
    · refine (hp.done_before hn hc hd hcancel).imp_left fun hnil => ?_
      subst hnil
      simpa using hcalled.symm

/-- Three batches that are cut.  The first is cancelled from outside while one worker pauses, the
other one makes a call and both the queue and the feeder hold a request: the pausing worker goes on
to a call that breaks down, and takes the request in the queue.  The second is cancelled by a call
that begins, while both workers are busy.  The third is cancelled by a call that breaks down at
once, whose worker takes the request in the queue. -/
theorem cancellation_cuts_batch_paused :
    let s : Run := {}
    let Cuts := fun (pool : Pool) (requests : List String) (d : Dispatch) =>
      ∃ t before u after, pool.dispatch none requests s = (t, some d) ∧
        pool.Path (s.begin requests) before u ∧ pool.Path u after t ∧
        pool.CancelledBy (s.begin requests) before u ∧
        pool.CutOff requests before after u d.results ∧ pool.LeftInTime u (reports after)
    Cuts ⟨.new 2 1, Crawler.ofScripts
        [("a", [{ duration := 4, ending := .page "A" },
                { duration := 2, ending := .error ["outer", "root"] }]),
         ("b", [{ ending := .panic .other, atCall := true }])], some 4⟩
      ["a", "a", "b", "c", "d"]
      ⟨[⟨"a", .failed "outer: root"⟩, ⟨"d", .cancelled⟩, ⟨"b", .panicked "unknown panic payload"⟩,
        ⟨"c", .cancelled⟩, ⟨"a", .page "A"⟩], some (.cancelled "c")⟩ ∧
    Cuts ⟨.new 2 1, Crawler.ofScripts
        [("a", [{ duration := 5, ending := .page "A", cancelsAtStart := true }]),
         ("b", [{ duration := 3, ending := .page "B" }])], none⟩
      ["a", "b", "c", "d"]
      ⟨[⟨"d", .cancelled⟩, ⟨"b", .page "B"⟩, ⟨"c", .cancelled⟩, ⟨"a", .page "A"⟩],
        some (.cancelled "c")⟩ ∧
    Cuts ⟨.new 2 1, Crawler.ofScripts
        [("a", [{ ending := .panic (.text "boom"), atCall := true, cancels := true }]),
         ("b", [{ duration := 3, ending := .page "B" }])], none⟩
      ["a", "b", "c", "d"]
      ⟨[⟨"a", .panicked "boom"⟩, ⟨"c", .cancelled⟩, ⟨"d", .cancelled⟩, ⟨"b", .page "B"⟩],
        some (.cancelled "d")⟩ := by
  intro s Cuts
  have hcuts : ∀ pool requests d, (pool.dispatch none requests s).2 = some d →
      (pool.dispatch none requests s).1.cancelled = true → Cuts pool requests d := by
    intro pool requests d hd hc
    obtain ⟨t, ht, hc⟩ := exists_dispatch_eq (P := fun t => t.cancelled = true) hd hc
    obtain ⟨trail, -, -, htimely, -, hcut, -⟩ :=
      (cancellation_cuts_batch pool requests s).2.2 none t d ht
    obtain ⟨before, u, after, rfl, hbefore, hafter, hu, -, hby, hoff⟩ := hcut hc
    have hdone := (dispatch_eq_some ht).2.1
    exact ⟨t, before, u, after, ht, hbefore, hafter, hby, hoff,
      hafter.leftInTime (timely_append.mp htimely).2 hu hbefore.hands_le hdone⟩
  refine ⟨hcuts _ _ _ ?_ ?_, hcuts _ _ _ ?_ ?_, hcuts _ _ _ ?_ ?_⟩
  all_goals decide +kernel

end Pool

end PageCrawl
