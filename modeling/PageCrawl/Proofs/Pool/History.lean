import PageCrawl.Proofs.Pool.Ledger
import PageCrawl.Proofs.Pool.Limit

/-!
# Batches one after another

A pool outlives its batches.  Between two of them the caller may wait as long as it likes, and
strays of a batch that was dropped go on meanwhile.  `Pool.History` is such a sequence: every batch
comes with the path before it (`idle`) and the path of its dispatch (`trail`), which ends in the
state `last`; there the batch is done, or it is dropped.  Every sequence of dispatches is a history
(`exists_batch`, `history_of_dispatchEach`).

Between batches nobody has a request but strays (`Path.isDone`), and the account of the calls is
right throughout (`History.accounted`).
-/

namespace PageCrawl

namespace Pool

/-- The state of a pool in which nothing has happened yet. -/
def start (pool : Pool) : Run := { cancelled := pool.cancelAt == some 0 }

/-- A batch and what happened in the pool before and during it. -/
structure Batch where
  /-- What happened since the batch before it. -/
  idle : List Transition
  before : Run
  requests : List String
  limit : Option Nat
  trail : List Transition
  /-- The state in which the batch was done or dropped. -/
  last : Run
  result : Option Dispatch

namespace Batch

/-- The state that the batch left. -/
def after (b : Batch) : Run := if b.result.isSome then b.last else b.last.drop

lemma after_awaited {b : Batch} {d : Dispatch} (h : b.result = some d) : b.after = b.last := by
  simp [after, h]

lemma after_dropped {b : Batch} (h : b.result = none) : b.after = b.last.drop := by
  simp [after, h]

@[simp] lemma after_now (b : Batch) : b.after.now = b.last.now := by
  unfold after
  split <;> rfl

@[simp] lemma after_cancelled (b : Batch) : b.after.cancelled = b.last.cancelled := by
  unfold after
  split <;> rfl

@[simp] lemma after_calls (b : Batch) : b.after.calls = b.last.calls := by
  unfold after
  split <;> rfl

end Batch

/-- **What a dispatch did.** -/
structure Dispatched (pool : Pool) (b : Batch) : Prop where
  dispatch_eq : pool.dispatch b.limit b.requests b.before = (b.after, b.result)
  path : pool.Path (b.before.begin b.requests) b.trail b.last
  punctual : pool.Punctual b.trail
  unfinished : Unfinished b.trail
  /-- A batch that is not dropped is followed to its end. -/
  awaited : ∀ d, b.result = some d →
    pool.Scheduled b.trail ∧ b.last.isDone = true ∧ d = ⟨b.last.reported, b.last.error⟩
  /-- One that is dropped stands at its limit, or began after it. -/
  dropped : b.result = none → b.last.isDone = false ∧
    ∃ l, b.limit = some l ∧ b.last.now = max l b.before.now ∧ ∀ st ∈ b.trail, st.before.now < l

/-- **A history of a pool**: batches one after another, with idle time between them. -/
inductive History (pool : Pool) : Run → List Batch → Run → Prop
  | nil (s : Run) : History pool s [] s
  | cons {s t : Run} {b : Batch} {batches : List Batch} (hi : pool.Path s b.idle b.before)
      (hp : pool.Punctual b.idle) (hb : pool.Dispatched b) (hr : History pool b.after batches t) :
      History pool s (b :: batches) t

variable {pool : Pool} {s t u : Run} {m : Move} {trail : List Transition} {b : Batch}
  {batches : List Batch}

/-- Every dispatch is one of a batch. -/
lemma exists_batch (pool : Pool) (limit : Option Nat) (requests : List String) (s : Run) :
    ∃ b : Batch, pool.Dispatched b ∧ b.idle = [] ∧ b.before = s ∧ b.requests = requests ∧
      b.limit = limit := by
  rcases hdispatch : pool.dispatch limit requests s with ⟨t, _ | d⟩
  · obtain ⟨l, trail, v, rfl, hp, hpunctual, hopen, hd, hall, hnow, rfl⟩ :=
      dispatch_dropped hdispatch
    exact ⟨⟨[], s, requests, some l, trail, v, none⟩,
      ⟨hdispatch, hp, hpunctual, hopen, by simp, fun _ => ⟨hd, l, rfl, hnow, hall⟩⟩,
      rfl, rfl, rfl, rfl⟩
  · obtain ⟨⟨trail, hp, hs⟩, hd, rfl⟩ := dispatch_eq_some hdispatch
    refine ⟨⟨[], s, requests, limit, trail, t, some ⟨t.reported, t.error⟩⟩,
      ⟨hdispatch, hp, hs.punctual, hs.unfinished, ?_, by simp⟩, rfl, rfl, rfl, rfl⟩
    rintro _ ⟨⟩
    exact ⟨hs, hd, rfl⟩

/-- **Dispatches one after another are a history.** -/
lemma history_of_dispatchEach (pool : Pool) (dropAfter : Option Nat) :
    ∀ (requests : List (List String)) (s : Run), ∃ batches,
      pool.History s batches (pool.dispatchEach dropAfter requests s).1 ∧
        batches.map (·.requests) = requests ∧
        batches.map (fun b => (b.after.now, b.result))
          = (pool.dispatchEach dropAfter requests s).2
  | [], s => ⟨[], History.nil s, rfl, rfl⟩
  | first :: requests, s => by
      obtain ⟨b, hb, hidle, rfl, rfl, hlimit⟩ :=
        exists_batch pool (dropAfter.map (s.now + ·)) first s
      obtain ⟨batches, hr, hrequests, hresults⟩ :=
        history_of_dispatchEach pool dropAfter requests b.after
      have heq := hb.dispatch_eq
      rw [hlimit] at heq
      refine ⟨b :: batches, History.cons ?_ ?_ hb ?_, ?_, ?_⟩
      · rw [hidle]
        exact Path.nil _
      · rw [hidle]
        exact punctual_nil
      · simpa only [dispatchEach, heq] using hr
      · rw [List.map_cons, hrequests]
      · simp only [dispatchEach, heq, List.map_cons, hresults]

/-- Batches can be dispatched in any sequence, with any limits. -/
lemma exists_history (pool : Pool) : ∀ (plan : List (Option Nat × List String)) (s : Run),
    ∃ batches t, pool.History s batches t ∧ batches.map (fun b => (b.limit, b.requests)) = plan
  | [], s => ⟨[], s, History.nil s, rfl⟩
  | (limit, requests) :: plan, s => by
      obtain ⟨b, hb, hidle, rfl, rfl, rfl⟩ := exists_batch pool limit requests s
      obtain ⟨batches, t, hr, hplan⟩ := exists_history pool plan b.after
      refine ⟨b :: batches, t, History.cons ?_ ?_ hb hr, ?_⟩
      · rw [hidle]
        exact Path.nil _
      · rw [hidle]
        exact punctual_nil
      · rw [List.map_cons, hplan]

/-! ## Between batches -/

/-- When nobody has a request of a batch, nobody gets one. -/
lemma Step.isDone (h : pool.Step s m t) (hd : s.isDone = true) : t.isDone = true := by
  obtain ⟨hw, hs, hh⟩ := isDone_iff.mp hd
  cases h with
  | giveUp _ hw' | feed _ _ hw' =>
      rw [hw] at hw'
      cases hw'
  | refuse _ hs' | take _ hs' =>
      rw [hs] at hs'
      cases hs'
  | call hh' | breakDown hh' | finish hh' =>
      rw [hh] at hh'
      cases hh'
  | _ => exact hd

/-- Nobody takes anything then, and no calls begin but those of strays. -/
lemma Step.idle (h : pool.Step s m t) (hd : s.isDone = true) :
    taken [⟨s, m, t⟩] = [] ∧ ownCalls [⟨s, m, t⟩] = [] := by
  obtain ⟨-, hs, hh⟩ := isDone_iff.mp hd
  cases h with
  | refuse _ hs' | take _ hs' =>
      rw [hs] at hs'
      cases hs'
  | call hh' | breakDown hh' | finish hh' =>
      rw [hh] at hh'
      cases hh'
  | strayCall | strayBreakDown | strayFinish =>
      exact ⟨by simp [Transition.taken?], ownCalls_strayOn _⟩
  | _ => simp [Transition.taken?, Transition.call?]

lemma Path.idle (h : pool.Path s trail t) (hd : s.isDone = true) :
    taken trail = [] ∧ ownCalls trail = [] := by
  induction h with
  | nil => simp
  | @cons s u t m trail hs hp ih =>
      obtain ⟨htaken, hcalls⟩ := hs.idle hd
      obtain ⟨htaken', hcalls'⟩ := ih (hs.isDone hd)
      rw [taken_split, ownCalls_split, htaken, hcalls, htaken', hcalls']
      exact ⟨rfl, rfl⟩

lemma Path.isDone (h : pool.Path s trail t) (hd : s.isDone = true) : t.isDone = true :=
  h.invariant (P := fun s => s.isDone = true) Step.isDone hd

namespace Dispatched

lemma after_isDone (h : pool.Dispatched b) : b.after.isDone = true := by
  cases hr : b.result with
  | none =>
      rw [Batch.after_dropped hr]
      rfl
  | some d =>
      rw [Batch.after_awaited hr]
      exact (h.awaited d hr).2.1

lemma now_le (h : pool.Dispatched b) : b.before.now ≤ b.after.now := by
  rw [Batch.after_now]
  exact h.path.now_mono

lemma accounted (h : pool.Dispatched b) (ha : pool.Accounted b.before)
    (hd : b.before.isDone = true) : pool.Accounted b.after := by
  have hlast := h.path.accounted h.punctual.timely (ha.begin hd b.requests)
  unfold Batch.after
  split
  · exact hlast
  · exact hlast.drop

end Dispatched

lemma start_isDone (pool : Pool) : pool.start.isDone = true := rfl

lemma start_accounted (pool : Pool) : pool.Accounted pool.start :=
  ⟨trivial, List.Perm.refl _, by simp [Early, start], by simp [Early, start]⟩

namespace History

lemma isDone (h : pool.History s batches t) (hd : s.isDone = true) : t.isDone = true := by
  induction h with
  | nil => exact hd
  | cons _ _ hb _ ih => exact ih hb.after_isDone

lemma now_mono (h : pool.History s batches t) : s.now ≤ t.now := by
  induction h with
  | nil => exact le_rfl
  | cons hi _ hb _ ih => exact hi.now_mono.trans (hb.now_le.trans ih)

/-- **The account of the calls is right in every history.** -/
lemma accounted (h : pool.History s batches t) (ha : pool.Accounted s) (hd : s.isDone = true) :
    pool.Accounted t := by
  induction h with
  | nil => exact ha
  | cons hi hp hb _ ih =>
      exact ih (hb.accounted (hi.accounted hp.timely ha) (hi.isDone hd)) hb.after_isDone

/-- A history taken apart at one of its batches. -/
lemma exists_split (h : pool.History s batches t) (hb : b ∈ batches) :
    ∃ u earlier later, batches = earlier ++ b :: later ∧ pool.History s earlier u ∧
      pool.Path u b.idle b.before ∧ pool.Punctual b.idle ∧ pool.Dispatched b ∧
      pool.History b.after later t := by
  induction h with
  | nil => simp at hb
  | @cons s t first batches hi hp hfirst hr ih =>
      rcases List.mem_cons.mp hb with rfl | hb
      · exact ⟨s, [], batches, rfl, History.nil s, hi, hp, hfirst, hr⟩
      · obtain ⟨u, earlier, later, rfl, hearlier, hrest⟩ := ih hb
        exact ⟨u, first :: earlier, later, rfl, History.cons hi hp hfirst hearlier, hrest⟩

/-- What is known of the state in which a batch of a history begins. -/
lemma before_batch (h : pool.History s batches t) (ha : pool.Accounted s) (hd : s.isDone = true)
    (hb : b ∈ batches) : pool.Dispatched b ∧ pool.Accounted b.before ∧ b.before.isDone = true := by
  obtain ⟨u, earlier, later, -, hearlier, hi, hp, hdispatched, -⟩ := h.exists_split hb
  have hu := hearlier.isDone hd
  exact ⟨hdispatched, hi.accounted hp.timely (hearlier.accounted ha hd), hi.isDone hu⟩

/-- No batch of a history begins before it. -/
lemma now_le (h : pool.History s batches t) (hb : b ∈ batches) : s.now ≤ b.before.now := by
  obtain ⟨u, earlier, later, -, hearlier, hi, -⟩ := h.exists_split hb
  exact hearlier.now_mono.trans hi.now_mono

end History

end Pool

end PageCrawl
