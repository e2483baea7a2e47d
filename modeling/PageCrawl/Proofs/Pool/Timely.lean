import PageCrawl.Proofs.Pool.Order

/-!
# When it all happens at once

`Pool.nextMove?` puts the things that can happen at one instant into an order, and a scheduler need
not keep it: of two workers whose calls end now either may be the first, and a cancellation may come
before or after what else is due.  What every scheduler keeps is that nobody sleeps on what can be
done: time does not pass while a free worker faces a filled queue, while the feeder has something to
do, or beyond the end of a stage.  Such a waiting is `Patient`, and a path whose waitings all are is
`Timely`.  On it no stage is overdue (`Early`), so a pause and a call end exactly when they are due.

**After a cancellation.**  `Ending` lists what can still happen in a cancelled pool, with what is
reported by it.  On a timely path the feeder therefore gives up all it holds without any time
passing (`Path.refusals_empty`), and the request in the queue is reported in the same instant if a
worker is free (`Path.refuse_free`), otherwise when the first worker has reported its own source
(`Path.refuse_busy`).  `LeftInTime` is the three together.
-/

namespace PageCrawl

namespace Pool

variable {pool : Pool} {s t u : Run} {m : Move} {trail trail' : List Transition}
  {requests : List String}

/-! ## Timely paths -/

/-- **Nobody sleeps on what can be done** when time passes until `w`. -/
structure Patient (pool : Pool) (s : Run) (w : Nat) : Prop where
  settled : pool.Settled s
  fed : s.waiting ≠ [] → s.cancelled = false ∧ s.slot.isSome
  hands : ∀ h ∈ s.hands, w ≤ h.due
  strays : ∀ h ∈ s.strays, w ≤ h.due

/-- Nobody sleeps on what can be done by making this move. -/
def Wakeful (pool : Pool) (s : Run) (m : Move) : Prop := ∀ w, m = .wait w → pool.Patient s w

/-- A path on which nobody sleeps on what can be done. -/
def Timely (pool : Pool) (trail : List Transition) : Prop :=
  ∀ st ∈ trail, pool.Wakeful st.before st.move

lemma timely_nil : pool.Timely [] := by simp [Timely]

lemma timely_cons {st : Transition} :
    pool.Timely (st :: trail) ↔
      pool.Wakeful st.before st.move ∧ pool.Timely trail :=
  List.forall_mem_cons

lemma timely_append :
    pool.Timely (trail ++ trail') ↔ pool.Timely trail ∧ pool.Timely trail' :=
  List.forall_mem_append

lemma mem_dueTimes_hands {h : Hand} (hm : h ∈ s.hands) : h.due ∈ pool.dueTimes s := by
  simp only [dueTimes, List.mem_append, List.mem_map]
  exact .inl ⟨h, .inl hm, rfl⟩

lemma mem_dueTimes_strays {h : Hand} (hm : h ∈ s.strays) : h.due ∈ pool.dueTimes s := by
  simp only [dueTimes, List.mem_append, List.mem_map]
  exact .inl ⟨h, .inr hm, rfl⟩

/-- In a quiet state it is patient to wait for what is due next. -/
lemma Quiet.patient {w : Nat} (hq : pool.Quiet s) (hle : ∀ due ∈ pool.dueTimes s, w ≤ due) :
    pool.Patient s w where
  settled := hq.settled
  fed := hq.fed
  hands _ hm := hle _ (mem_dueTimes_hands hm)
  strays _ hm := hle _ (mem_dueTimes_strays hm)

/-- **The order that `Pool.nextMove?` chooses is timely.** -/
lemma Scheduled.timely (h : pool.Scheduled trail) : pool.Timely trail := by
  intro st hst w hw
  have hn := next_of_nextMove? (h st hst).2
  rw [hw] at hn
  cases hn with
  | wait hq hlt hv hmin => exact hq.patient hmin

/-! ## Stages end in time -/

/-- No stage is overdue. -/
def Early (now : Nat) (hands : List Hand) : Prop := ∀ h ∈ hands, now ≤ h.due

lemma Early.set {now i : Nat} {hands : List Hand} {h : Hand} (he : Early now hands)
    (hd : now ≤ h.due) : Early now (hands.set i h) := by
  intro h' hm
  rcases List.mem_or_eq_of_mem_set hm with hm | rfl
  · exact he h' hm
  · exact hd

lemma Early.eraseIdx {now : Nat} {hands : List Hand} (he : Early now hands) (i : Nat) :
    Early now (hands.eraseIdx i) := by
  intro h hm
  exact he h (List.mem_of_mem_eraseIdx hm)

lemma Step.early_hands (h : pool.Step s m t) (hp : pool.Wakeful s m) (he : Early s.now s.hands) :
    Early t.now t.hands := by
  cases h with
  | @take r hc hs hf =>
      intro h hm
      rcases List.mem_append.mp hm with hm | hm
      · exact he h hm
      · rw [List.mem_singleton.mp hm]
        exact Nat.le_add_right _ _
  | call hh hd ha => exact he.set (Nat.le_add_right _ _)
  | breakDown hh hd ha | finish hh hd => exact he.eraseIdx _
  | wait ht =>
      intro h hm
      exact (hp _ rfl).hands h hm
  | _ => exact he

lemma Step.early_strays (h : pool.Step s m t) (hp : pool.Wakeful s m)
    (he : Early s.now s.strays) : Early t.now t.strays := by
  cases h with
  | strayCall hh hd ha => exact he.set (Nat.le_add_right _ _)
  | strayBreakDown hh hd ha | strayFinish hh hd => exact he.eraseIdx _
  | wait ht =>
      intro h hm
      exact (hp _ rfl).strays h hm
  | _ => exact he

lemma early_begin (s : Run) (requests : List String) :
    Early (s.begin requests).now (s.begin requests).hands := by
  simp [Early, Run.begin]

/-- **A stage that is over ends now**, since none is overdue. -/
lemma Early.due_eq {now : Nat} {hands : List Hand} {i : Nat} {h : Hand} (he : Early now hands)
    (hh : hands[i]? = some h) (hd : h.due ≤ now) : h.due = now :=
  le_antisymm hd (he h (List.mem_of_getElem? hh))

/-! ## In a cancelled pool -/

/-- **What can still happen in a cancelled pool**, and what is reported by it. -/
inductive Ending (pool : Pool) (s : Run) (m : Move) (t : Run) : List (Nat × PageSource) → Prop
  /-- The feeder gives a request up. -/
  | giveUp {r : String} {rest : List String} (hw : s.waiting = r :: rest) (hw' : t.waiting = rest)
      (hs : t.slot = s.slot) (hh : t.hands.length = s.hands.length) (hn : t.now = s.now) :
      Ending pool s m t [(s.now, ⟨r, .cancelled⟩)]
  /-- A free worker reports the request in the queue. -/
  | refuse {r : String} (hs : s.slot = some r) (hf : s.hands.length < pool.config.workers)
      (hs' : t.slot = none) (hw : t.waiting = s.waiting) (hn : t.now = s.now) :
      Ending pool s m t [(s.now, ⟨r, .cancelled⟩)]
  /-- A worker reports its own source and is free. -/
  | own {source : PageSource} (hown : source.isCancelled = false) (hs : t.slot = s.slot)
      (hw : t.waiting = s.waiting) (hh : t.hands.length + 1 = s.hands.length)
      (hn : t.now = s.now) : Ending pool s m t [(s.now, source)]
  /-- A call begins, or strays go on. -/
  | silent (hs : t.slot = s.slot) (hw : t.waiting = s.waiting)
      (hh : t.hands.length = s.hands.length) (hn : t.now = s.now) : Ending pool s m t []
  | wait {w : Nat} (hm : m = .wait w) (hs : t.slot = s.slot) (hw : t.waiting = s.waiting)
      (hh : t.hands.length = s.hands.length) : Ending pool s m t []

lemma length_eraseIdx_add_one {α : Type} {i : Nat} {xs : List α} {x : α} (hx : xs[i]? = some x) :
    (xs.eraseIdx i).length + 1 = xs.length := by
  obtain ⟨hi, -⟩ := List.getElem?_eq_some_iff.mp hx
  rw [List.length_eraseIdx_of_lt hi]
  omega

lemma Step.ending (h : pool.Step s m t) (hc : s.cancelled = true) :
    pool.Ending s m t (reports [⟨s, m, t⟩]) := by
  cases h with
  | cancel hc' | feed hc' | take hc' =>
      rw [hc] at hc'
      cases hc'
  | @giveUp r rest _ hw =>
      have hrep : reports [⟨s, .giveUp, { s with waiting := rest }.report ⟨r, .cancelled⟩⟩]
          = [(s.now, ⟨r, .cancelled⟩)] := by
        simp [Transition.reports, Run.report]
      rw [hrep]
      exact Ending.giveUp hw rfl rfl rfl rfl
  | @refuse r _ hs hf =>
      have hrep : reports [⟨s, .take, { s with slot := none }.report ⟨r, .cancelled⟩⟩]
          = [(s.now, ⟨r, .cancelled⟩)] := by
        simp [Transition.reports, Run.report]
      rw [hrep]
      exact Ending.refuse hs hf rfl rfl rfl
  | @breakDown i d r hh hd ha =>
      have hown := PageSource.isCancelled_outcome r (pool.crawler s.called r).ending
      simp only [reports_cons, reports_nil, List.append_nil, Transition.reports, Run.report,
        Run.beginCall, List.drop_left, List.map_cons, List.map_nil]
      exact Ending.own hown rfl rfl (length_eraseIdx_add_one hh) rfl
  | @finish i k d r reply hh hd =>
      have hown := PageSource.isCancelled_outcome r reply.ending
      simp only [reports_cons, reports_nil, List.append_nil, Transition.reports, Run.report,
        Run.endCall, List.drop_left, List.map_cons, List.map_nil]
      exact Ending.own hown rfl rfl (length_eraseIdx_add_one hh) rfl
  | call | strayCall | strayBreakDown | strayFinish =>
      simp only [reports_cons, reports_nil, List.append_nil, Transition.reports, Run.beginCall,
        Run.endCall, List.drop_length, List.map_nil]
      exact Ending.silent rfl rfl (by simp) rfl
  | @wait w ht =>
      simp only [reports_cons, reports_nil, List.append_nil, Transition.reports, List.drop_length,
        List.map_nil]
      exact Ending.wait rfl rfl rfl rfl

/-! ## Who reports what is left -/

/-- Requests reported as cancelled at some time. -/
def cancelledAt (now : Nat) (requests : List String) : List (Nat × PageSource) :=
  requests.map fun r => (now, ⟨r, .cancelled⟩)

/-- The requests that were reported as cancelled. -/
def refusals (entries : List (Nat × PageSource)) : List (Nat × PageSource) :=
  entries.filter (·.2.isCancelled)

/-- The sources of calls that were reported. -/
def ownReports (entries : List (Nat × PageSource)) : List (Nat × PageSource) :=
  entries.filter (!·.2.isCancelled)

@[simp] lemma refusals_nil : refusals [] = [] := rfl

@[simp] lemma refusals_append (a b : List (Nat × PageSource)) :
    refusals (a ++ b) = refusals a ++ refusals b := by
  simp [refusals]

@[simp] lemma refusals_cancelled (now : Nat) (r : String) (entries : List (Nat × PageSource)) :
    refusals ((now, ⟨r, .cancelled⟩) :: entries) = (now, ⟨r, .cancelled⟩) :: refusals entries :=
  List.filter_cons_of_pos rfl

lemma refusals_own {source : PageSource} (h : source.isCancelled = false) (now : Nat)
    (entries : List (Nat × PageSource)) :
    refusals ((now, source) :: entries) = refusals entries := by
  simp [refusals, h]

@[simp] lemma ownReports_nil : ownReports [] = [] := rfl

@[simp] lemma ownReports_cancelled (now : Nat) (r : String) (entries : List (Nat × PageSource)) :
    ownReports ((now, ⟨r, .cancelled⟩) :: entries) = ownReports entries := by
  simp [ownReports]

lemma ownReports_own {source : PageSource} (h : source.isCancelled = false) (now : Nat)
    (entries : List (Nat × PageSource)) :
    ownReports ((now, source) :: entries) = (now, source) :: ownReports entries := by
  simp [ownReports, h]

/-- Who waits patiently in a cancelled pool waits with an idle feeder. -/
lemma Patient.waiting_eq_nil {w : Nat} (h : pool.Patient s w) (hc : s.cancelled = true) :
    s.waiting = [] := by
  by_contra hw
  have huncancelled := (h.fed hw).1
  rw [hc] at huncancelled
  cases huncancelled

/-- **With an empty queue** the feeder gives up all it holds, at once and in order, and nothing else
is reported as cancelled. -/
lemma Path.refusals_empty (h : pool.Path s trail t) (hp : pool.Timely trail)
    (hc : s.cancelled = true) (hs : s.slot = none) (hd : t.isDone = true) :
    refusals (reports trail) = cancelledAt s.now s.waiting := by
  induction h with
  | nil => simp [cancelledAt, (isDone_iff.mp hd).1]
  | @cons s u t m trail hstep hpath ih =>
      obtain ⟨hpatient, hp⟩ := timely_cons.mp hp
      have ih := ih hp (hstep.cancelled_mono hc)
      have hending := hstep.ending hc
      rw [reports_split]
      generalize reports [⟨s, m, u⟩] = shown at hending ⊢
      cases hending with
      | giveUp hw hw' hs' hh hn =>
          rw [List.singleton_append, refusals_cancelled, ih (hs'.trans hs) hd, hn, hw, hw']
          rfl
      | refuse hs' =>
          rw [hs] at hs'
          cases hs'
      | own hown hs' hw hh hn =>
          rw [List.singleton_append, refusals_own hown, ih (hs'.trans hs) hd, hn, hw]
      | silent hs' hw hh hn => rw [List.nil_append, ih (hs'.trans hs) hd, hn, hw]
      | wait hm hs' hw hh =>
          have hnil := (hpatient _ hm).waiting_eq_nil hc
          rw [List.nil_append, ih (hs'.trans hs) hd, hw, hnil]
          rfl

/-- **A free worker reports the request in the queue in the same instant.** -/
lemma Path.refuse_free {q : String} (h : pool.Path s trail t) (hp : pool.Timely trail)
    (hc : s.cancelled = true) (hs : s.slot = some q) (hf : s.hands.length < pool.config.workers)
    (hd : t.isDone = true) :
    ∃ past rest, reports trail = past ++ (s.now, ⟨q, .cancelled⟩) :: rest ∧
      refusals (past ++ rest) = cancelledAt s.now s.waiting ∧
      ∀ entry ∈ ownReports past, entry.1 = s.now := by
  induction h with
  | nil =>
      rw [(isDone_iff.mp hd).2.1] at hs
      cases hs
  | @cons s u t m trail hstep hpath ih =>
      obtain ⟨hpatient, hp⟩ := timely_cons.mp hp
      have hcu := hstep.cancelled_mono hc
      have ih := ih hp hcu
      have hending := hstep.ending hc
      rw [reports_split]
      generalize reports [⟨s, m, u⟩] = shown at hending ⊢
      cases hending with
      | giveUp hw hw' hs' hh hn =>
          obtain ⟨past, rest, hrep, hleft, hnow⟩ := ih (hs'.trans hs) (hh ▸ hf) hd
          refine ⟨_ :: past, rest, by rw [hrep, hn]; rfl, ?_, ?_⟩
          · rw [List.cons_append, refusals_cancelled, hleft, hn, hw, hw']
            rfl
          · rw [ownReports_cancelled]
            exact fun entry hm => (hnow entry hm).trans hn
      | refuse hr hf' hs' hw hn =>
          obtain rfl := Option.some.inj (hr.symm.trans hs)
          refine ⟨[], reports trail, rfl, ?_, by simp⟩
          rw [List.nil_append, hpath.refusals_empty hp hcu hs' hd, hn, hw]
      | @own source hown hs' hw hh hn =>
          obtain ⟨past, rest, hrep, hleft, hnow⟩ := ih (hs'.trans hs) (by omega) hd
          refine ⟨_ :: past, rest, by rw [hrep, hn]; rfl, ?_, ?_⟩
          · rw [List.cons_append, refusals_own hown, hleft, hn, hw]
          · rw [ownReports_own hown]
            exact List.forall_mem_cons.mpr ⟨rfl, fun entry hm => (hnow entry hm).trans hn⟩
      | silent hs' hw hh hn =>
          obtain ⟨past, rest, hrep, hleft, hnow⟩ := ih (hs'.trans hs) (hh ▸ hf) hd
          exact ⟨past, rest, by rw [hrep, hn]; rfl, by rw [hleft, hn, hw],
            fun entry hm => (hnow entry hm).trans hn⟩
      | wait hm hs' hw hh =>
          -- nobody waits while a free worker faces a filled queue
          exact absurd ((hpatient _ hm).settled (by simp [hs])) (by simpa using hf)

/-- **When all workers are busy**, the request in the queue is reported at the time at which the
first of them reports its own source, and after it. -/
lemma Path.refuse_busy {q : String} (h : pool.Path s trail t) (hp : pool.Timely trail)
    (hc : s.cancelled = true) (hs : s.slot = some q) (hf : s.hands.length = pool.config.workers)
    (hd : t.isDone = true) :
    ∃ time past rest, reports trail = past ++ (time, ⟨q, .cancelled⟩) :: rest ∧
      refusals (past ++ rest) = cancelledAt s.now s.waiting ∧ ownReports past ≠ [] ∧
      ∀ entry ∈ ownReports past, entry.1 = time := by
  induction h with
  | nil =>
      rw [(isDone_iff.mp hd).2.1] at hs
      cases hs
  | @cons s u t m trail hstep hpath ih =>
      obtain ⟨hpatient, hp⟩ := timely_cons.mp hp
      have hcu := hstep.cancelled_mono hc
      have ih := ih hp hcu
      have hending := hstep.ending hc
      rw [reports_split]
      generalize reports [⟨s, m, u⟩] = shown at hending ⊢
      cases hending with
      | giveUp hw hw' hs' hh hn =>
          obtain ⟨time, past, rest, hrep, hleft, hne, hnow⟩ := ih (hs'.trans hs) (hh.trans hf) hd
          refine ⟨time, _ :: past, rest, by rw [hrep]; rfl, ?_, ?_⟩
          · rw [List.cons_append, refusals_cancelled, hleft, hn, hw, hw']
            rfl
          · rw [ownReports_cancelled]
            exact ⟨hne, hnow⟩
      | refuse _ hlt => omega
      | @own source hown hs' hw hh hn =>
          obtain ⟨past, rest, hrep, hleft, hnow⟩ :=
            hpath.refuse_free hp hcu (hs'.trans hs) (by omega) hd
          refine ⟨s.now, _ :: past, rest, by rw [hrep, hn]; rfl, ?_, ?_, ?_⟩
          · rw [List.cons_append, refusals_own hown, hleft, hn, hw]
          · simp [ownReports_own hown]
          · rw [ownReports_own hown]
            exact List.forall_mem_cons.mpr ⟨rfl, fun entry hm => (hnow entry hm).trans hn⟩
      | silent hs' hw hh hn =>
          obtain ⟨time, past, rest, hrep, hleft, hown⟩ := ih (hs'.trans hs) (hh.trans hf) hd
          exact ⟨time, past, rest, hrep, by rw [hleft, hn, hw], hown⟩
      | wait hm hs' hw hh =>
          obtain ⟨time, past, rest, hrep, hleft, hown⟩ := ih (hs'.trans hs) (hh.trans hf) hd
          have hnil := (hpatient _ hm).waiting_eq_nil hc
          refine ⟨time, past, rest, hrep, ?_, hown⟩
          rw [hleft, hw, hnil]
          rfl

/-- **How the requests that nobody took are reported**, in whatever order things happen at one
instant: `after` is what is reported after the cancellation in the state `u`. -/
inductive LeftInTime (pool : Pool) (u : Run) (after : List (Nat × PageSource)) : Prop
  /-- Nothing was in the queue: the feeder gives up all it holds at once and in order, and nothing
  else is reported as cancelled. -/
  | empty (hs : u.slot = none) (hr : refusals after = cancelledAt u.now u.waiting)
  /-- A worker was free: it reports the request in the queue at once.  The others that are reported
  as cancelled are those of the feeder, at once and in order. -/
  | free {q : String} {past rest : List (Nat × PageSource)} (hs : u.slot = some q)
      (hf : u.hands.length < pool.config.workers)
      (ha : after = past ++ (u.now, ⟨q, .cancelled⟩) :: rest)
      (hr : refusals (past ++ rest) = cancelledAt u.now u.waiting)
  /-- All workers were busy: the request in the queue is reported at the time of the first source
  of a call, and after it. -/
  | busy {q : String} {time : Nat} {past rest : List (Nat × PageSource)} (hs : u.slot = some q)
      (hf : u.hands.length = pool.config.workers)
      (ha : after = past ++ (time, ⟨q, .cancelled⟩) :: rest)
      (hr : refusals (past ++ rest) = cancelledAt u.now u.waiting) (hne : ownReports past ≠ [])
      (htime : ∀ entry ∈ ownReports past, entry.1 = time)

lemma Path.leftInTime (h : pool.Path s trail t) (hp : pool.Timely trail) (hc : s.cancelled = true)
    (hle : s.hands.length ≤ pool.config.workers) (hd : t.isDone = true) :
    pool.LeftInTime s (reports trail) := by
  cases hs : s.slot with
  | none => exact LeftInTime.empty hs (h.refusals_empty hp hc hs hd)
  | some q =>
      rcases hle.lt_or_eq with hf | hf
      · obtain ⟨past, rest, hrep, hr, -⟩ := h.refuse_free hp hc hs hf hd
        exact LeftInTime.free hs hf hrep hr
      · obtain ⟨time, past, rest, hrep, hr, hne, htime⟩ := h.refuse_busy hp hc hs hf hd
        exact LeftInTime.busy hs hf hrep hr hne htime

end Pool

end PageCrawl
