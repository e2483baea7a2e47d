import PageCrawl.Proofs.Pool.Alone
import PageCrawl.Proofs.Pool.History

/-!
# What a batch leaves behind

A batch that is dropped leaves its workers where they are: one that pauses goes on to its call, one
that makes a call goes on to its end, and that is all.  `Path.strays_at` is the account of the
pauses: a stray's call begins at the end of its pause, and no stray begins another one.  Over a
history this makes the calls of strays exactly those for which the pauses were left
(`History.strays_at`).

Nor does a batch leave a cancellation behind.  A pool is cancelled by the outside, or by a call that
asks for it (`Cancels`), and neither the end of a batch nor its drop is such a transition.  Hence a
later batch goes as it would go alone (`Path.dispatch_alone`), whatever strays are still on their
way: `histories_are_independent`.

All this is of batches as `Pool.dispatch` runs them, one after another, and of the drain at the end.
That the tasks of a dispatch get along like that, in any order, is in `Proofs.Tasks.Leftovers`.
-/

namespace PageCrawl

/-- The pauses of strays. -/
def Run.strayPauses (s : Run) : List (Nat × String) := s.strays.filterMap Hand.pausingUntil?

namespace Pool

variable {pool : Pool} {s t u : Run} {m : Move} {trail : List Transition} {b : Batch}
  {batches : List Batch} {requests : List String} {d : Dispatch}

/-! ## Strays -/

/-- The calls of strays. -/
def strayCalls (trail : List Transition) : List Beginning := (calls trail).filter (!·.own)

@[simp] lemma strayCalls_append (trail trail' : List Transition) :
    strayCalls (trail ++ trail') = strayCalls trail ++ strayCalls trail' := by
  simp [strayCalls, calls_append]

lemma strayCalls_split (st : Transition) (trail : List Transition) :
    strayCalls (st :: trail) = strayCalls [st] ++ strayCalls trail :=
  strayCalls_append [st] trail

lemma strayCalls_pausing {i d : Nat} {r : String} (hh : s.strays[i]? = some ⟨r, .pausing d⟩) :
    strayCalls [⟨s, .strayOn i, t⟩] = [⟨r, s.now, s.called, false⟩] := by
  simp [strayCalls, Transition.call?, beginning?, hh]

lemma strayCalls_calling {i k d : Nat} {r : String} {reply : Reply}
    (hh : s.strays[i]? = some ⟨r, .calling k reply d⟩) :
    strayCalls [⟨s, .strayOn i, t⟩] = [] := by
  simp [strayCalls, Transition.call?, beginning?, hh]

/-- **A stray's call begins at the end of its pause**, and no stray pauses again. -/
lemma Step.strays_at (h : pool.Step s m t) (he : Early s.now s.strays) :
    ((strayCalls [⟨s, m, t⟩]).map Beginning.at ++ t.strayPauses).Perm s.strayPauses := by
  cases h with
  | @strayCall i d r hh hd ha =>
      obtain ⟨l, l', hx, hset, -, -⟩ := exists_split hh
      obtain rfl : d = s.now := he.due_eq hh hd
      rw [strayCalls_pausing hh]
      simp only [Run.strayPauses, hset]
      simp only [hx, List.filterMap_append, List.filterMap_cons, Hand.pausingUntil?, List.map_cons,
        List.map_nil, List.cons_append, List.nil_append, Beginning.at]
      exact List.perm_middle.symm
  | @strayBreakDown i d r hh hd ha =>
      obtain ⟨l, l', hx, -, herase, -⟩ := exists_split hh
      obtain rfl : d = s.now := he.due_eq hh hd
      rw [strayCalls_pausing hh]
      simp only [Run.strayPauses, herase]
      simp only [hx, List.filterMap_append, List.filterMap_cons, Hand.pausingUntil?, List.map_cons,
        List.map_nil, List.cons_append, List.nil_append, Beginning.at]
      exact List.perm_middle.symm
  | @strayFinish i k d r reply hh hd =>
      obtain ⟨l, l', hx, -, herase, -⟩ := exists_split hh
      rw [strayCalls_calling hh]
      simp only [Run.strayPauses, herase]
      simp [hx, List.filterMap_cons, Hand.pausingUntil?]
  | call hh | breakDown hh | finish hh =>
      simp [strayCalls, Transition.call?, beginning?, hh, Run.strayPauses, Run.beginCall,
        Run.endCall, Run.report]
  | _ => exact List.Perm.refl _

lemma Path.strays_at (h : pool.Path s trail t) (hp : pool.Punctual trail)
    (he : Early s.now s.strays) :
    ((strayCalls trail).map Beginning.at ++ t.strayPauses).Perm s.strayPauses := by
  induction h with
  | nil => exact List.Perm.refl _
  | @cons s u t m trail hs hpath ih =>
      obtain ⟨hprompt, hpunctual⟩ := punctual_cons.mp hp
      rw [strayCalls_split, List.map_append, List.append_assoc]
      exact ((ih hpunctual (hs.early_strays hprompt.wakeful he)).append_left _).trans
        (hs.strays_at he)

/-- All that happened in a history. -/
def events (batches : List Batch) : List Transition := batches.flatMap fun b => b.idle ++ b.trail

/-- A batch leaves the pauses of its workers to strays. -/
lemma Dispatched.strayPauses_after (h : pool.Dispatched b) :
    b.after.strayPauses = b.last.strayPauses ++ b.last.pauses := by
  cases hr : b.result with
  | none =>
      rw [Batch.after_dropped hr]
      exact List.filterMap_append
  | some d =>
      have hhands := (isDone_iff.mp (h.awaited d hr).2.1).2.2
      rw [Batch.after_awaited hr, Run.pauses, hhands]
      exact (List.append_nil _).symm

/-- **The calls of strays are those for which dropped batches left a pause.** -/
lemma History.strays_at (h : pool.History s batches t) (ha : pool.Accounted s)
    (hd : s.isDone = true) :
    ((strayCalls (events batches)).map Beginning.at ++ t.strayPauses).Perm
      (s.strayPauses ++ batches.flatMap (·.last.pauses)) := by
  induction h with
  | nil => simp [events, strayCalls]
  | @cons s t b batches hi hp hb hr ih =>
      have hbefore := hi.accounted hp.timely ha
      have hdone := hi.isDone hd
      have hidle := hi.strays_at hp ha.early_strays
      have htrail := hb.path.strays_at hb.punctual hbefore.early_strays
      have hrest := ih (hb.accounted hbefore hdone) hb.after_isDone
      have hsame : (b.before.begin b.requests).strayPauses = b.before.strayPauses := rfl
      rw [hsame] at htrail
      rw [hb.strayPauses_after] at hrest
      -- each of the three accounts passes its pauses on to the next
      rw [List.perm_iff_count] at hidle htrail hrest ⊢
      intro a
      have hidle := hidle a
      have htrail := htrail a
      have hrest := hrest a
      simp only [events, List.flatMap_cons, strayCalls_append, List.map_append,
        List.count_append] at hidle htrail hrest ⊢
      omega

/-! ## The end of all strays -/

lemma strays_of_nextMove? (h : pool.nextMove? s = none) : s.strays = [] := by
  rcases nextMove?_cases pool s with ⟨m, hm, -⟩ | ⟨-, hq, hh⟩
  · rw [h] at hm
    cases hm
  · rw [hq.nextMove?_eq, hh] at h
    simp only [List.findIdx?_nil] at h
    split at h
    · cases h
    · rw [Option.map_eq_none_iff, earliest_eq_min?, List.min?_eq_none_iff, dueTimes] at h
      simp only [List.append_eq_nil_iff, List.map_eq_nil_iff] at h
      exact h.1.2

lemma strays_of_cost (h : pool.cost s = 0) : s.strays = [] := by
  cases hx : s.strays with
  | nil => rfl
  | cons hand strays =>
      have hpos := handCost_pos s.now hand
      simp only [cost, hx, List.map_cons, List.sum_cons] at h
      omega

/-- **Strays come to their end**, and nothing else happens meanwhile. -/
lemma drain_path : ∀ (n : Nat) (s : Run), pool.cost s ≤ n →
    ∃ rest, pool.Path s rest (pool.drain n s) ∧ pool.Punctual rest ∧ (pool.drain n s).strays = []
  | 0, s, h => ⟨[], Path.nil s, punctual_nil, strays_of_cost (Nat.le_zero.mp h)⟩
  | n + 1, s, h => by
      rw [drain]
      split_ifs with hempty
      · exact ⟨[], Path.nil s, punctual_nil, List.isEmpty_iff.mp hempty⟩
      · cases hm : pool.nextMove? s with
        | none => exact absurd (List.isEmpty_iff.mpr (strays_of_nextMove? hm)) hempty
        | some m =>
            have hn := next_of_nextMove? hm
            obtain ⟨u, hu⟩ := hn.possible
            have hlt := hn.cost_lt hu
            obtain ⟨rest, hp, hpunctual, hstrays⟩ := drain_path n u (by omega)
            simp only [Option.bind_some, after?_of_step hu]
            exact ⟨⟨s, m, u⟩ :: rest, Path.cons hu hp,
              punctual_cons.mpr ⟨Prompt.next hn, hpunctual⟩, hstrays⟩

/-- **What becomes of strays** when they are followed to their end. -/
structure Emptied (pool : Pool) (t : Run) (rest : List Transition) (u : Run) : Prop where
  path : pool.Path t rest u
  punctual : pool.Punctual rest
  taken_nil : taken rest = []
  ownCalls_nil : ownCalls rest = []
  strays_nil : u.strays = []
  /-- Each pause that was left ends with its call, and no other call begins. -/
  strays_at : ((strayCalls rest).map Beginning.at).Perm t.strayPauses
  /-- Every call, also of those that were made before, ran to its end, as the log says. -/
  calls_over : ∀ c, Logged c t.calls ∨ c ∈ calls rest → pool.entry c ∈ u.calls

lemma exists_emptied (ha : pool.Accounted t) (hd : t.isDone = true) :
    ∃ rest, pool.Emptied t rest (pool.drain t.budget t) := by
  obtain ⟨rest, hp, hpunctual, hnil⟩ := drain_path t.budget t (cost_le pool t)
  have hend := hp.accounted hpunctual.timely ha
  have hhands := (isDone_iff.mp (hp.isDone hd)).2.2
  have hover : (pool.drain t.budget t).strayPauses = [] := by simp [Run.strayPauses, hnil]
  have hstrays := hp.strays_at hpunctual ha.early_strays
  rw [hover, List.append_nil] at hstrays
  refine ⟨rest, hp, hpunctual, (hp.idle hd).1, (hp.idle hd).2, hnil, hstrays, fun c hc => ?_⟩
  have hlogged : Logged c (pool.drain t.budget t).calls := hc.elim hp.logged_mono hp.logged
  rcases hend.entry_or_underWay hlogged with hm | hm
  · exact hm
  · rw [hhands, hnil] at hm
    cases hm

/-- What happens later only adds to the log. -/
lemma History.logged (h : pool.History s batches t) :
    (∀ c, Logged c s.calls → Logged c t.calls) ∧
      ∀ c ∈ calls (events batches), Logged c t.calls := by
  induction h with
  | nil => exact ⟨fun c hc => hc, by simp [events]⟩
  | @cons s t b batches hi hp hb hr ih =>
      obtain ⟨hkeep, hnew⟩ := ih
      rw [Batch.after_calls] at hkeep
      have htrail : ∀ c, Logged c b.before.calls → Logged c b.last.calls := fun c hc =>
        hb.path.logged_mono hc
      refine ⟨fun c hc => hkeep c (htrail c (hi.logged_mono hc)), fun c hc => ?_⟩
      rw [events, List.flatMap_cons, calls_append, calls_append, List.mem_append,
        List.mem_append] at hc
      rcases hc with (hc | hc) | hc
      · exact hkeep c (htrail c (hi.logged hc))
      · exact hkeep c (hb.path.logged hc)
      · exact hnew c hc

/-! ## Cancellations -/

lemma Path.exists_cancels (h : pool.Path s trail t) (hs : s.cancelled = false)
    (ht : t.cancelled = true) : ∃ st ∈ trail, pool.Cancels st := by
  obtain ⟨past, v, m, u, after, rfl, -, hstep, -, hv, hu⟩ := h.exists_cancellation hs ht
  exact ⟨⟨v, m, u⟩, by simp, hstep.cancels hv hu⟩

/-- **A cancelled pool was cancelled by something that happened**, and not between its batches. -/
lemma History.exists_cancels (h : pool.History s batches t) (hs : s.cancelled = false)
    (ht : t.cancelled = true) : ∃ st ∈ events batches, pool.Cancels st := by
  induction h with
  | nil =>
      rw [hs] at ht
      cases ht
  | @cons s t b batches hi hp hb hr ih =>
      rw [events, List.flatMap_cons]
      cases hbefore : b.before.cancelled with
      | true =>
          obtain ⟨st, hst, hc⟩ := hi.exists_cancels hs hbefore
          exact ⟨st, by simp [hst], hc⟩
      | false =>
          cases hlast : b.last.cancelled with
          | true =>
              obtain ⟨st, hst, hc⟩ := hb.path.exists_cancels hbefore hlast
              exact ⟨st, by simp [hst], hc⟩
          | false =>
              obtain ⟨st, hst, hc⟩ := ih ((Batch.after_cancelled b).trans hlast) ht
              exact ⟨st, List.mem_append_right _ hst, hc⟩

lemma History.cancelled_mono (h : pool.History s batches t) (hs : s.cancelled = true) :
    t.cancelled = true := by
  induction h with
  | nil => exact hs
  | @cons s t b batches hi hp hb hr ih =>
      exact ih ((Batch.after_cancelled b).trans (hb.path.cancelled_mono (hi.cancelled_mono hs)))

/-- A call under way asks for what the crawl function said when it began. -/
lemma Accounted.asksToCancel_eq (ha : pool.Accounted s) (hn : pool.NeverCancelled) {hand : Hand}
    (hm : hand ∈ s.hands ++ s.strays) : pool.asksToCancel s hand = false := by
  obtain ⟨r, stage⟩ := hand
  cases stage with
  | pausing d => exact Reply.cancelsAtOnce_of_mayCancel (hn.calls _ _)
  | calling k reply d =>
      obtain ⟨newer, c, older, -, -, hcaller⟩ := Pool.mem_openHands (ha.mem_openHands hm rfl)
      rw [caller, Hand.mk.injEq, Stage.calling.injEq] at hcaller
      obtain ⟨-, -, rfl, -⟩ := hcaller
      exact Reply.cancels_of_mayCancel (hn.calls _ _)

lemma Path.not_cancels (h : pool.Path s trail t) (hp : pool.Punctual trail)
    (ha : pool.Accounted s) (hn : pool.NeverCancelled) : ∀ st ∈ trail, ¬pool.Cancels st := by
  induction h with
  | nil => simp
  | @cons s u t m trail hs hpath ih =>
      obtain ⟨hprompt, hpunctual⟩ := punctual_cons.mp hp
      refine List.forall_mem_cons.mpr ⟨fun hc => ?_, ih hpunctual (hs.accounted hprompt.wakeful ha)⟩
      cases hc with
      | outside => exact hn.ne_cancel (hprompt.next_of_ne (by simp)) rfl
      | call hh hw =>
          rw [ha.asksToCancel_eq hn (List.mem_append_left _ (List.mem_of_getElem? hh))] at hw
          cases hw
      | stray hh hw =>
          rw [ha.asksToCancel_eq hn (List.mem_append_right _ (List.mem_of_getElem? hh))] at hw
          cases hw

lemma History.not_cancels (h : pool.History s batches t) (ha : pool.Accounted s)
    (hd : s.isDone = true) (hn : pool.NeverCancelled) :
    ∀ st ∈ events batches, ¬pool.Cancels st := by
  induction h with
  | nil => simp [events]
  | @cons s t b batches hi hp hb hr ih =>
      have hbefore := hi.accounted hp.timely ha
      have hdone := hi.isDone hd
      rw [events, List.flatMap_cons]
      refine List.forall_mem_append.mpr ⟨List.forall_mem_append.mpr ⟨hi.not_cancels hp ha hn,
        hb.path.not_cancels hb.punctual (hbefore.begin hdone _) hn⟩,
        ih (hb.accounted hbefore hdone) hb.after_isDone⟩

/-! ## Batches beside one another -/

/-- **A batch that was dropped.** -/
structure Interrupted (pool : Pool) (b : Batch) : Prop where
  /-- It stands at its limit, or at its beginning if that is later. -/
  now_eq : ∃ l, b.limit = some l ∧ b.after.now = max l b.before.now
  /-- Of the requests that workers took each has its call, one pause later, or the pause is left. -/
  calls_eq : (ownCalls b.trail).map Beginning.at ++ b.last.pauses
    = (takes b.trail).map fun p => (p.1 + pool.config.delay, p.2)
  /-- Nobody has any other request of it. -/
  isDone : b.after.isDone = true
  strays_eq : b.after.strays = b.last.strays ++ b.last.hands

lemma Dispatched.interrupted (h : pool.Dispatched b) (hr : b.result = none) :
    pool.Interrupted b := by
  obtain ⟨-, l, hl, hnow, -⟩ := h.dropped hr
  refine ⟨⟨l, hl, (Batch.after_now b).trans hnow⟩, ?_, h.after_isDone, ?_⟩
  · exact h.path.called_at_begin h.punctual
  · rw [Batch.after_dropped hr]
    rfl

/-- **The end of a history**, when the last stray is gone. -/
structure Drained (pool : Pool) (batches : List Batch) (t : Run) (rest : List Transition)
    (u : Run) : Prop extends Emptied pool t rest u where
  /-- Calls of strays are those for which dropped batches left a pause, when this was over, -/
  left_at : ((strayCalls (events batches ++ rest)).map Beginning.at).Perm
    (batches.flatMap (·.last.pauses))
  /-- and every call ran to its end, as the log says. -/
  all_over : ∀ c ∈ calls (events batches ++ rest), pool.entry c ∈ u.calls

lemma History.drained (h : pool.History pool.start batches t) :
    ∃ rest, pool.Drained batches t rest (pool.drain t.budget t) := by
  have ha := h.accounted pool.start_accounted pool.start_isDone
  obtain ⟨rest, hempty⟩ := exists_emptied ha (h.isDone pool.start_isDone)
  refine ⟨rest, hempty, ?_, fun c hc => hempty.calls_over c ?_⟩
  · have hstrays := h.strays_at pool.start_accounted pool.start_isDone
    have hstart : pool.start.strayPauses = [] := rfl
    rw [hstart, List.nil_append] at hstrays
    rw [strayCalls_append, List.map_append]
    exact (hempty.strays_at.append_left _).trans hstrays
  · rw [calls_append, List.mem_append] at hc
    exact hc.imp_left (h.logged.2 c)

/-- **A batch that goes as it would alone**, with the results `d`. -/
structure AsAlone (pool : Pool) (b : Batch) (d : Dispatch) : Prop where
  uncancelled : ∀ source ∈ d.results, source.isCancelled = false
  results_perm : (d.results.map (·.request)).Perm b.requests
  /-- In every pool with the same settings that nobody cancels, in every state without strays, and
  with every crawl function that answers the calls of the batch as they were answered here, it
  gives the same, takes as long and makes the same calls after the same time. -/
  alone : ∀ pool' s', Alone pool pool' → Clear s' →
    pool.Agrees pool' s'.called (ownCalls b.trail) →
      ∃ trail' t', pool'.dispatch none b.requests s' = (t', some d) ∧
        pool'.Path (s'.begin b.requests) trail' t' ∧
        b.after.now + s'.now = t'.now + b.before.now ∧
        (ownCalls trail').map (pool'.callAt b.before.now)
          = (ownCalls b.trail).map (pool.callAt s'.now)
  /-- There is such a crawl function for a pool that has made no calls. -/
  fresh : ∃ pool', Alone pool pool' ∧ pool.Agrees pool' [] (ownCalls b.trail)

lemma Dispatched.asAlone (h : pool.Dispatched b) (hr : b.result = some d)
    (hc : b.after.cancelled = false) : pool.AsAlone b d := by
  obtain ⟨-, hd, rfl⟩ := h.awaited d hr
  rw [Batch.after_cancelled] at hc
  refine ⟨fun source hm => ?_, h.path.reported_perm hd, fun pool' s' ha hs' hagree => ?_,
    exists_agrees pool _⟩
  · have hnone : b.last.reported.filter (·.isCancelled) = [] := h.path.refused_eq hc
    simpa using List.filter_eq_nil_iff.mp hnone source hm
  · rw [Batch.after_now]
    exact h.path.dispatch_alone h.punctual h.unfinished hd hc ha hs' hagree

/-- **Batches that a pool runs do not get in each other's way.**

Batches may follow one another in any sequence, each awaited or dropped.  When a batch is dropped,
workers keep what they have taken and take no more; what they have taken is called for at the end
of the pause, nothing else is, and all calls run to their end.  Neither the end nor the drop of a
batch cancels the pool: if it is cancelled, the outside or a call did it.  And as long as it is not,
a batch that is awaited has a source for each request, none of them cancelled, and goes as it would
alone. -/
theorem histories_are_independent (pool : Pool) :
    (∀ plan : List (Option Nat × List String), ∃ batches t,
      pool.History pool.start batches t ∧
        batches.map (fun b => (b.limit, b.requests)) = plan) ∧
    ∀ batches t, pool.History pool.start batches t →
      (∀ b ∈ batches, taken b.idle = [] ∧ ownCalls b.idle = [] ∧ taken b.trail <+: b.requests ∧
        (b.result = none → pool.Interrupted b)) ∧
      (∃ rest, pool.Drained batches t rest (pool.drain t.budget t)) ∧
      (∀ b ∈ batches, b.after.cancelled = true →
        pool.cancelAt = some 0 ∨ ∃ st ∈ events batches, pool.Cancels st) ∧
      (pool.NeverCancelled → ∀ b ∈ batches, b.after.cancelled = false) ∧
      ∀ b ∈ batches, ∀ d, b.result = some d → b.after.cancelled = false →
        pool.AsAlone b d := by
  refine ⟨fun plan => exists_history pool plan pool.start, fun batches t h => ?_⟩
  have hbatch : ∀ b ∈ batches, pool.Dispatched b := fun b hb =>
    (h.before_batch pool.start_accounted pool.start_isDone hb).1
  have hcancelled : ∀ b ∈ batches, b.after.cancelled = true →
      pool.cancelAt = some 0 ∨ ∃ st ∈ events batches, pool.Cancels st := by
    intro b hb hc
    obtain ⟨_, _, _, _, _, _, _, _, hlater⟩ := h.exists_split hb
    cases hstart : pool.start.cancelled with
    | true => exact .inl (by simpa [start] using hstart)
    | false => exact .inr (h.exists_cancels hstart (hlater.cancelled_mono hc))
  refine ⟨fun b hb => ?_, h.drained, hcancelled, fun hn b hb => ?_,
    fun b hb d hr hc => (hbatch b hb).asAlone hr hc⟩
  · obtain ⟨u, earlier, later, -, hearlier, hi, -, hdispatched, -⟩ := h.exists_split hb
    obtain ⟨htaken, hcalls⟩ := hi.idle (hearlier.isDone pool.start_isDone)
    have hprefix := hdispatched.path.taken_isPrefix
    exact ⟨htaken, hcalls, by simpa [Run.begin] using hprefix, hdispatched.interrupted⟩
  · by_contra hne
    rcases hcancelled b hb (by simpa using hne) with hzero | ⟨st, hst, hc⟩
    · rw [hn.outside] at hzero
      cases hzero
    · exact h.not_cancels pool.start_accounted pool.start_isDone hn st hst hc

end Pool

end PageCrawl
