import Mathlib
import PageCrawl.Pool

/-!
# Transitions of a pool

`Run.after?` says by a computation what a move makes of a state.  Proofs want the same fact the
other way round: *if a move was possible, what was the state like before, and what is it like
now?*  `Pool.Step` answers that once, with one constructor for each way in which a move can
succeed.  A move that was computed is one of these (`step_of_after?`), and each of these is what
the computation gives (`after?_of_step`).  Every later invariant is a case analysis on `Pool.Step`;
the two lemmas are what ties it to `Pool.run`, and nothing else opens `Run.after?` again.

**Paths.**  `Pool.Path` strings transitions together, in any order in which they are possible.
It fixes no scheduler: a cancellation may come at any point of it, time may pass while something
else could happen, and hands may go on in any order.  The one path that `Pool.nextMove?` chooses is
among them.

**What a path shows.**  A transition keeps the states before and after it, so what happened on a
path can be read off: the requests taken by workers (`taken`), the calls that began (`calls`), and
the sources that were reported, each with its time (`reports`).
-/

namespace PageCrawl

namespace Pool

/-! ## One transition -/

/-- **What a move can do.**  One case for each way in which the move is possible. -/
inductive Step (pool : Pool) (s : Run) : Move → Run → Prop
  /-- The pool is cancelled from outside. -/
  | cancel (hc : s.cancelled = false) : Step pool s .cancel { s with cancelled := true }
  /-- The feeder gives a request up. -/
  | giveUp {r : String} {rest : List String} (hc : s.cancelled = true)
      (hw : s.waiting = r :: rest) :
      Step pool s .giveUp ({ s with waiting := rest }.report ⟨r, .cancelled⟩)
  /-- The feeder fills the queue. -/
  | feed {r : String} {rest : List String} (hc : s.cancelled = false) (hs : s.slot = none)
      (hw : s.waiting = r :: rest) :
      Step pool s .feed { s with waiting := rest, slot := some r }
  /-- A free worker finds a request in the queue after the cancellation. -/
  | refuse {r : String} (hc : s.cancelled = true) (hs : s.slot = some r)
      (hf : s.hands.length < pool.config.workers) :
      Step pool s .take ({ s with slot := none }.report ⟨r, .cancelled⟩)
  /-- A free worker takes the request in the queue into its hands. -/
  | take {r : String} (hc : s.cancelled = false) (hs : s.slot = some r)
      (hf : s.hands.length < pool.config.workers) :
      Step pool s .take
        { s with slot := none, hands := s.hands ++ [⟨r, .pausing (s.now + pool.config.delay)⟩] }
  /-- A pause is over and the call begins. -/
  | call {i d : Nat} {r : String} (hh : s.hands[i]? = some ⟨r, .pausing d⟩) (hd : d ≤ s.now)
      (ha : (pool.crawler s.called r).atCall = false) :
      Step pool s (.goOn i)
        { s.beginCall r (s.nextAttempt r) with
          cancelled := s.cancelled || (pool.crawler s.called r).cancelsAtOnce
          hands := s.hands.set i ⟨r, .calling (s.nextAttempt r) (pool.crawler s.called r)
            (s.now + (pool.crawler s.called r).duration)⟩ }
  /-- A pause is over and the call breaks down before it has begun. -/
  | breakDown {i d : Nat} {r : String} (hh : s.hands[i]? = some ⟨r, .pausing d⟩) (hd : d ≤ s.now)
      (ha : (pool.crawler s.called r).atCall = true) :
      Step pool s (.goOn i)
        ({ s.beginCall r (s.nextAttempt r) with
          cancelled := s.cancelled || (pool.crawler s.called r).cancelsAtOnce
          hands := s.hands.eraseIdx i }.report
          ⟨r, (pool.crawler s.called r).ending.outcome⟩)
  /-- A call ends. -/
  | finish {i k d : Nat} {r : String} {reply : Reply}
      (hh : s.hands[i]? = some ⟨r, .calling k reply d⟩) (hd : d ≤ s.now) :
      Step pool s (.goOn i)
        ({ s.endCall r k with
          cancelled := s.cancelled || reply.cancels, hands := s.hands.eraseIdx i }.report
          ⟨r, reply.ending.outcome⟩)
  /-- The pause of a stray is over and its call begins. -/
  | strayCall {i d : Nat} {r : String} (hh : s.strays[i]? = some ⟨r, .pausing d⟩)
      (hd : d ≤ s.now) (ha : (pool.crawler s.called r).atCall = false) :
      Step pool s (.strayOn i)
        { s.beginCall r (s.nextAttempt r) with
          cancelled := s.cancelled || (pool.crawler s.called r).cancelsAtOnce
          strays := s.strays.set i ⟨r, .calling (s.nextAttempt r) (pool.crawler s.called r)
            (s.now + (pool.crawler s.called r).duration)⟩ }
  /-- The pause of a stray is over and its call breaks down before it has begun. -/
  | strayBreakDown {i d : Nat} {r : String} (hh : s.strays[i]? = some ⟨r, .pausing d⟩)
      (hd : d ≤ s.now) (ha : (pool.crawler s.called r).atCall = true) :
      Step pool s (.strayOn i)
        { s.beginCall r (s.nextAttempt r) with
          cancelled := s.cancelled || (pool.crawler s.called r).cancelsAtOnce
          strays := s.strays.eraseIdx i }
  /-- The call of a stray ends. -/
  | strayFinish {i k d : Nat} {r : String} {reply : Reply}
      (hh : s.strays[i]? = some ⟨r, .calling k reply d⟩) (hd : d ≤ s.now) :
      Step pool s (.strayOn i)
        { s.endCall r k with
          cancelled := s.cancelled || reply.cancels, strays := s.strays.eraseIdx i }
  /-- Time passes. -/
  | wait {t : Nat} (ht : s.now < t) : Step pool s (.wait t) { s with now := t }

variable {pool : Pool} {s t u : Run} {m : Move}

/-- What `Run.after?` computes for a request in a worker's hands is one of the three cases of
`Step`. -/
lemma step_of_goOn {i : Nat} (h : s.after? pool (.goOn i) = some t) :
    pool.Step s (.goOn i) t := by
  simp only [Run.after?] at h
  split at h
  · cases h
  · next hand hh =>
      obtain ⟨r, stage⟩ := hand
      split at h
      · next hd =>
          cases stage with
          | pausing d =>
              by_cases ha : (pool.crawler s.called r).atCall = true
              · simp only [Run.goOn, ha, ↓reduceIte, Option.some.injEq] at h
                subst h
                exact Step.breakDown hh hd ha
              · simp only [Run.goOn, ha, Bool.false_eq_true, ↓reduceIte, Option.some.injEq] at h
                subst h
                exact Step.call hh hd (by simpa using ha)
          | calling k reply d =>
              simp only [Run.goOn, Option.some.injEq] at h
              subst h
              exact Step.finish hh hd
      · cases h

/-- The same for a stray, whose outcome is heard by nobody. -/
lemma step_of_strayOn {i : Nat} (h : s.after? pool (.strayOn i) = some t) :
    pool.Step s (.strayOn i) t := by
  simp only [Run.after?] at h
  split at h
  · cases h
  · next hand hh =>
      obtain ⟨r, stage⟩ := hand
      split at h
      · next hd =>
          cases stage with
          | pausing d =>
              by_cases ha : (pool.crawler s.called r).atCall = true
              · simp only [Run.goOn, ha, ↓reduceIte, Option.some.injEq] at h
                subst h
                exact Step.strayBreakDown hh hd ha
              · simp only [Run.goOn, ha, Bool.false_eq_true, ↓reduceIte, Option.some.injEq] at h
                subst h
                exact Step.strayCall hh hd (by simpa using ha)
          | calling k reply d =>
              simp only [Run.goOn, Option.some.injEq] at h
              subst h
              exact Step.strayFinish hh hd
      · cases h

/-- **What was computed is a transition.** -/
lemma step_of_after? (h : s.after? pool m = some t) : pool.Step s m t := by
  cases m with
  | cancel =>
      simp only [Run.after?] at h
      split at h
      · cases h
      · next hc => cases h; exact Step.cancel (by simpa using hc)
  | giveUp =>
      simp only [Run.after?] at h
      split at h
      · next hc hw => cases h; exact Step.giveUp hc hw
      · cases h
  | feed =>
      simp only [Run.after?] at h
      split at h
      · next hc hs hw => cases h; exact Step.feed hc hs hw
      · cases h
  | take =>
      simp only [Run.after?] at h
      split at h
      · cases h
      · next r hs =>
          split at h
          · next hf =>
              split at h
              · next hc => cases h; exact Step.refuse hc hs hf
              · next hc => cases h; exact Step.take (by simpa using hc) hs hf
          · cases h
  | goOn i => exact step_of_goOn h
  | strayOn i => exact step_of_strayOn h
  | wait t =>
      simp only [Run.after?] at h
      split at h
      · next ht => cases h; exact Step.wait ht
      · cases h

/-- **A transition is what is computed.** -/
lemma after?_of_step (h : pool.Step s m t) : s.after? pool m = some t := by
  cases h with
  | cancel hc => simp [Run.after?, hc]
  | giveUp hc hw => simp [Run.after?, hc, hw]
  | feed hc hs hw => simp [Run.after?, hc, hs, hw]
  | refuse hc hs hf => simp [Run.after?, hc, hs, hf]
  | take hc hs hf => simp [Run.after?, hc, hs, hf]
  | call hh hd ha => simp [Run.after?, Run.goOn, Run.beginCall, Hand.due, hh, hd, ha]
  | breakDown hh hd ha => simp [Run.after?, Run.goOn, Run.beginCall, Hand.due, hh, hd, ha]
  | finish hh hd => simp [Run.after?, Run.goOn, Run.endCall, Hand.due, hh, hd]
  | strayCall hh hd ha => simp [Run.after?, Run.goOn, Run.beginCall, Hand.due, hh, hd, ha]
  | strayBreakDown hh hd ha => simp [Run.after?, Run.goOn, Run.beginCall, Hand.due, hh, hd, ha]
  | strayFinish hh hd => simp [Run.after?, Run.goOn, Run.endCall, Hand.due, hh, hd]
  | wait ht => simp [Run.after?, ht]

/-- The clock never goes back. -/
lemma Step.now_le (h : pool.Step s m t) : s.now ≤ t.now := by
  cases h with
  | wait ht => exact ht.le
  | _ => exact le_rfl

/-- A cancelled pool stays cancelled. -/
lemma Step.cancelled_mono (h : pool.Step s m t) (hc : s.cancelled = true) :
    t.cancelled = true := by
  cases h with
  | breakDown | finish => simp [Run.report, hc]
  | call | strayCall | strayBreakDown | strayFinish => simp [hc]
  | cancel _ => rfl
  | _ => exact hc

/-- A batch is done when nobody has a request of it any more. -/
lemma isDone_iff : s.isDone = true ↔ s.waiting = [] ∧ s.slot = none ∧ s.hands = [] := by
  simp [Run.isDone, and_assoc]

/-- A list taken apart at one of its places, with what `List.set` and `List.eraseIdx` make of
it there. -/
lemma exists_split {α : Type} {xs : List α} {i : Nat} {x : α} (h : xs[i]? = some x) :
    ∃ l r, xs = l ++ x :: r ∧ (∀ y, xs.set i y = l ++ y :: r) ∧ xs.eraseIdx i = l ++ r ∧
      l.length = i := by
  obtain ⟨hi, rfl⟩ := List.getElem?_eq_some_iff.mp h
  refine ⟨xs.take i, xs.drop (i + 1), ?_, fun y => ?_, ?_, ?_⟩
  · simp
  · rw [List.set_eq_take_append_cons_drop, if_pos hi]
  · exact List.eraseIdx_eq_take_drop_succ xs i
  · simp only [List.length_take]
    omega

/-! ## Paths -/

/-- A move with the states before and after it. -/
structure Transition where
  before : Run
  move : Move
  after : Run

/-- **A path**: transitions one after another, in any order in which they are possible. -/
inductive Path (pool : Pool) : Run → List Transition → Run → Prop
  | nil (s : Run) : Path pool s [] s
  | cons {s u t : Run} {m : Move} {trail : List Transition} (hs : pool.Step s m u)
      (hp : Path pool u trail t) : Path pool s (⟨s, m, u⟩ :: trail) t

namespace Path

variable {trail trail' : List Transition}

lemma append (h : pool.Path s trail u) (h' : pool.Path u trail' t) :
    pool.Path s (trail ++ trail') t := by
  induction h with
  | nil => exact h'
  | cons hs _ ih => exact cons hs (ih h')

/-- **What every transition keeps, a path keeps.** -/
lemma invariant {P : Run → Prop} (h : pool.Path s trail t)
    (hstep : ∀ {s t : Run} {m : Move}, pool.Step s m t → P s → P t) (h0 : P s) : P t := by
  induction h with
  | nil => exact h0
  | cons hs _ ih => exact ih (hstep hs h0)

lemma cancelled_mono (h : pool.Path s trail t) (hc : s.cancelled = true) : t.cancelled = true :=
  h.invariant (P := fun s => s.cancelled = true) Step.cancelled_mono hc

end Path

/-! ## What a path shows -/

/-- A call at the moment when it begins. -/
structure Beginning where
  request : String
  start : Nat
  /-- The requests of the calls that began before it, latest first. -/
  earlier : List String
  /-- Whether it is a call of the batch, and not of a stray. -/
  own : Bool

namespace Beginning

/-- The number of the call among those for its request. -/
def attempt (b : Beginning) : Nat := b.earlier.count b.request + 1

end Beginning

/-- How the crawl function answers a call. -/
def replyTo (pool : Pool) (b : Beginning) : Reply := pool.crawler b.earlier b.request

/-- The call that begins when a request goes on at the end of its stage. -/
def beginning? (s : Run) (own : Bool) : Option Hand → Option Beginning
  | some ⟨r, .pausing _⟩ => some ⟨r, s.now, s.called, own⟩
  | _ => none

namespace Transition

/-- The request that a worker takes to crawl it. -/
def taken? (st : Transition) : Option String :=
  match st.move, st.before.cancelled with
  | .take, false => st.before.slot
  | _, _ => none

/-- The call that begins. -/
def call? (st : Transition) : Option Beginning :=
  match st.move with
  | .goOn i => beginning? st.before true st.before.hands[i]?
  | .strayOn i => beginning? st.before false st.before.strays[i]?
  | _ => none

/-- The sources that are reported, with the time. -/
def reports (st : Transition) : List (Nat × PageSource) :=
  (st.after.reported.drop st.before.reported.length).map (st.before.now, ·)

end Transition

/-- The requests that workers took to crawl them, in the order in which they did. -/
def taken (trail : List Transition) : List String := trail.filterMap (·.taken?)

/-- The calls that began, in order. -/
def calls (trail : List Transition) : List Beginning := trail.filterMap (·.call?)

/-- The calls of the batch, without those of strays. -/
def ownCalls (trail : List Transition) : List Beginning := (calls trail).filter (·.own)

/-- The sources that were reported, in order, each with its time. -/
def reports (trail : List Transition) : List (Nat × PageSource) := trail.flatMap (·.reports)

@[simp] lemma taken_nil : taken [] = [] := rfl

@[simp] lemma taken_cons (st : Transition) (trail : List Transition) :
    taken (st :: trail) = st.taken?.toList ++ taken trail := by
  cases h : st.taken? <;> simp [taken, h]

@[simp] lemma taken_append (a b : List Transition) : taken (a ++ b) = taken a ++ taken b := by
  simp [taken]

@[simp] lemma calls_nil : calls [] = [] := rfl

@[simp] lemma calls_cons (st : Transition) (trail : List Transition) :
    calls (st :: trail) = st.call?.toList ++ calls trail := by
  cases h : st.call? <;> simp [calls, h]

lemma calls_append (a b : List Transition) : calls (a ++ b) = calls a ++ calls b := by
  simp [calls]

@[simp] lemma ownCalls_nil : ownCalls [] = [] := rfl

@[simp] lemma ownCalls_cons (st : Transition) (trail : List Transition) :
    ownCalls (st :: trail) = st.call?.toList.filter (·.own) ++ ownCalls trail := by
  simp [ownCalls]

@[simp] lemma ownCalls_append (a b : List Transition) :
    ownCalls (a ++ b) = ownCalls a ++ ownCalls b := by
  simp [ownCalls, calls_append]

@[simp] lemma reports_nil : reports [] = [] := rfl

@[simp] lemma reports_cons (st : Transition) (trail : List Transition) :
    reports (st :: trail) = st.reports ++ reports trail := by
  simp [reports]

@[simp] lemma reports_append (a b : List Transition) :
    reports (a ++ b) = reports a ++ reports b := by
  simp [reports]

/-! A path shows what its first transition shows, and then what the others show. -/

lemma taken_split (st : Transition) (trail : List Transition) :
    taken (st :: trail) = taken [st] ++ taken trail :=
  taken_append [st] trail

lemma calls_split (st : Transition) (trail : List Transition) :
    calls (st :: trail) = calls [st] ++ calls trail :=
  calls_append [st] trail

lemma ownCalls_split (st : Transition) (trail : List Transition) :
    ownCalls (st :: trail) = ownCalls [st] ++ ownCalls trail :=
  ownCalls_append [st] trail

lemma reports_split (st : Transition) (trail : List Transition) :
    reports (st :: trail) = reports [st] ++ reports trail :=
  reports_append [st] trail

end Pool

end PageCrawl
