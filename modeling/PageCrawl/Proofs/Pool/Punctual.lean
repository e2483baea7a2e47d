import PageCrawl.Proofs.Pool.Cancellation

/-!
# Nothing comes late

`Pool.Path` allows every order of moves, `Pool.Scheduled` only the one that `Pool.nextMove?`
chooses.  A dispatch that is dropped follows neither of the two to its end: its last waiting is cut
short.  `Pool.Punctual` is what all of them share: a path on which each move is the next one, or
lets some of the time pass that nobody needs.

A punctual path is timely (`Punctual.timely`), so on it no stage is overdue.

**The path of a run.**  Whatever its limit, `Pool.run` follows a punctual path (`run_punctual`).
Conversely a punctual path to the end of a batch is the one that `Pool.dispatch` follows, but for
waitings that it makes in one piece (`dispatch_of_punctual`).
-/

namespace PageCrawl

namespace Pool

variable {pool : Pool} {s t u v : Run} {m : Move} {limit : Option Nat}
  {trail trail' : List Transition} {requests : List String} {d : Dispatch}

/-! ## Punctual paths -/

/-- **A move that is not late**: what comes next, or time that passes until something is due at
most. -/
inductive Prompt (pool : Pool) (s : Run) : Move → Prop
  | next {m : Move} (hn : pool.Next s m) : Prompt pool s m
  | passing {w : Nat} (hq : pool.Quiet s) (hlt : ∀ due ∈ pool.dueTimes s, s.now < due)
      (hle : ∀ due ∈ pool.dueTimes s, w ≤ due) : Prompt pool s (.wait w)

/-- A path on which no move is late. -/
def Punctual (pool : Pool) (trail : List Transition) : Prop :=
  ∀ st ∈ trail, pool.Prompt st.before st.move

lemma punctual_nil : pool.Punctual [] := by simp [Punctual]

lemma punctual_cons {st : Transition} :
    pool.Punctual (st :: trail) ↔ pool.Prompt st.before st.move ∧ pool.Punctual trail :=
  List.forall_mem_cons

lemma punctual_append :
    pool.Punctual (trail ++ trail') ↔ pool.Punctual trail ∧ pool.Punctual trail' :=
  List.forall_mem_append

lemma Scheduled.punctual (h : pool.Scheduled trail) : pool.Punctual trail := by
  intro st hst
  exact Prompt.next (next_of_nextMove? (h st hst).2)

/-- All that keeps a batch from being done is on the way. -/
def Unfinished (trail : List Transition) : Prop := ∀ st ∈ trail, st.before.isDone = false

lemma Scheduled.unfinished (h : pool.Scheduled trail) : Unfinished trail := by
  intro st hst
  exact (h st hst).1

/-- Waiting is prompt in a quiet state in which nothing is due, and only there. -/
lemma Prompt.wait {w : Nat} (h : pool.Prompt s (.wait w)) :
    pool.Quiet s ∧ (∀ due ∈ pool.dueTimes s, s.now < due) ∧ ∀ due ∈ pool.dueTimes s, w ≤ due := by
  cases h with
  | next hn =>
      cases hn with
      | wait hq hlt hv hmin => exact ⟨hq, hlt, hmin⟩
  | passing hq hlt hle => exact ⟨hq, hlt, hle⟩

lemma Prompt.wakeful (h : pool.Prompt s m) : pool.Wakeful s m := by
  rintro w rfl
  exact h.wait.1.patient h.wait.2.2

/-- **Nobody sleeps on a punctual path.** -/
lemma Punctual.timely (h : pool.Punctual trail) : pool.Timely trail := fun st hst =>
  (h st hst).wakeful

lemma Prompt.next_of_ne (h : pool.Prompt s m) (hm : ∀ w, m ≠ .wait w) : pool.Next s m := by
  cases h with
  | next hn => exact hn
  | @passing w => exact absurd rfl (hm w)

/-! ## Only one thing comes next -/

lemma Undisturbed.not_due (hu : pool.Undisturbed s) :
    ¬(pool.cancelPending s).any (· ≤ s.now) = true := by
  intro h
  obtain ⟨c, hp, hc⟩ := (Option.any_eq_true _ _).mp h
  have hlt := hu c hp
  simp only [decide_eq_true_eq] at hc
  omega

lemma Settled.not_take (hf : pool.Settled s) :
    ¬(s.slot.isSome && s.hands.length < pool.config.workers) = true := by
  intro h
  simp only [Bool.and_eq_true, decide_eq_true_eq] at h
  have hle := hf h.1
  omega

/-- In a quiet state it is the turn of the hands and strays. -/
lemma Quiet.nextMove?_eq (hq : pool.Quiet s) :
    pool.nextMove? s =
      match s.hands.findIdx? (fun h => h.due ≤ s.now) with
      | some i => some (.goOn i)
      | none =>
        match s.strays.findIdx? (fun h => h.due ≤ s.now) with
        | some i => some (.strayOn i)
        | none => (earliest (pool.dueTimes s)).map .wait := by
  have hgive : ¬(s.cancelled && !s.waiting.isEmpty) = true := by
    intro h
    simp only [Bool.and_eq_true, Bool.not_eq_true', List.isEmpty_eq_false_iff] at h
    rw [(hq.fed h.2).1] at h
    exact Bool.false_ne_true h.1
  have hfeed : ¬(s.slot.isNone && !s.waiting.isEmpty) = true := by
    intro h
    simp only [Bool.and_eq_true, Option.isNone_iff_eq_none, Bool.not_eq_true',
      List.isEmpty_eq_false_iff] at h
    have hs := (hq.fed h.2).2
    rw [h.1] at hs
    cases hs
  rw [nextMove?, if_neg hq.undisturbed.not_due, if_neg hq.settled.not_take, if_neg hgive,
    if_neg hfeed]
  rfl

lemma findIdx?_due_eq_none {now : Nat} {hands : List Hand} (h : ∀ h ∈ hands, now < h.due) :
    hands.findIdx? (fun h => h.due ≤ now) = none := by
  simpa using h

/-- **Without strays the reasons of `Next` determine what `Pool.nextMove?` chooses.** -/
lemma Next.nextMove?_eq (h : pool.Next s m) (hn : s.strays = []) : pool.nextMove? s = some m := by
  cases h with
  | @cancel c hp hc =>
      rw [nextMove?, if_pos]
      exact (Option.any_eq_true _ _).mpr ⟨c, hp, by simpa using hc⟩
  | take hu hs hf =>
      rw [nextMove?, if_neg hu.not_due, if_pos]
      simp [hs, hf]
  | giveUp hu hf hc hw =>
      rw [nextMove?, if_neg hu.not_due, if_neg hf.not_take, if_pos]
      simp [hc, hw]
  | feed hu hc hs hw =>
      rw [nextMove?, if_neg hu.not_due, if_neg, if_neg, if_pos]
      · simp [hs, hw]
      · simp [hc]
      · simp [hs]
  | @goOn i h hq hh hd hi =>
      have hfind : s.hands.findIdx? (fun h => h.due ≤ s.now) = some i := by
        obtain ⟨hlt, rfl⟩ := List.getElem?_eq_some_iff.mp hh
        refine List.findIdx?_eq_some_iff_getElem.mpr ⟨hlt, by simpa using hd, ?_⟩
        intro j hj
        have hlate := hi j hj _ (List.getElem?_eq_getElem (hj.trans hlt))
        simpa using hlate
      rw [hq.nextMove?_eq, hfind]
  | strayOn hq hlate hh =>
      rw [hn] at hh
      cases hh
  | @wait w hq hlt hw hmin =>
      have hhands : ∀ h ∈ s.hands, s.now < h.due := fun h hm => hlt _ (mem_dueTimes_hands hm)
      have hleast : (pool.dueTimes s).min? = some w := List.min?_eq_some_iff.mpr ⟨hw, hmin⟩
      rw [hq.nextMove?_eq, findIdx?_due_eq_none hhands, hn, earliest_eq_min?, hleast]
      rfl

/-! ## The path that a run follows -/

lemma limitedMove?_prompt (h : pool.limitedMove? limit s = some m) :
    pool.Prompt s m ∧ ∀ l, limit = some l → ∀ w, m = .wait w → w ≤ l := by
  unfold limitedMove? at h
  split at h
  · next w l hm =>
      cases h
      cases next_of_nextMove? hm with
      | wait hq hlt hv hmin =>
          refine ⟨Prompt.passing hq hlt fun due hdue => (min_le_left _ _).trans (hmin due hdue), ?_⟩
          rintro _ ⟨⟩ _ ⟨⟩
          exact min_le_right _ _
  · next hcut =>
      refine ⟨Prompt.next (next_of_nextMove? h), ?_⟩
      rintro l rfl w rfl
      exact absurd rfl (hcut w l h)

/-- Nothing is late on the path of a run, and its limit is not passed. -/
lemma run_punctual (pool : Pool) (limit : Option Nat) : ∀ (n : Nat) (s : Run),
    ∃ trail, pool.Path s trail (pool.run limit n s).1 ∧ pool.Punctual trail ∧ Unfinished trail ∧
      ∀ l, limit = some l →
        (∀ st ∈ trail, st.before.now < l) ∧ (pool.run limit n s).1.now ≤ max l s.now
  | 0, s => ⟨[], Path.nil s, punctual_nil, by simp [Unfinished], by simp [run]⟩
  | n + 1, s => by
      have hstay : ∃ trail, pool.Path s trail s ∧ pool.Punctual trail ∧ Unfinished trail ∧
          ∀ l, limit = some l → (∀ st ∈ trail, st.before.now < l) ∧ s.now ≤ max l s.now :=
        ⟨[], Path.nil s, punctual_nil, by simp [Unfinished], by simp⟩
      rw [run]
      split_ifs with hd hl
      · exact hstay
      · exact hstay
      · split
        · next u hu =>
            obtain ⟨m, hm, ha⟩ := Option.bind_eq_some_iff.mp hu
            have hstep := step_of_after? ha
            obtain ⟨trail, hp, hpunctual, hopen, hlimit⟩ := run_punctual pool limit n u
            have hbefore : ∀ l, limit = some l → s.now < l := by
              rintro l rfl
              simpa using hl
            obtain ⟨hprompt, hwait⟩ := limitedMove?_prompt hm
            have hnext : ∀ l, limit = some l → u.now ≤ max l s.now := by
              intro l hl
              cases hstep with
              | wait ht => exact le_max_of_le_left (hwait l hl _ rfl)
              | _ => exact le_max_right _ _
            refine ⟨⟨s, m, u⟩ :: trail, Path.cons hstep hp, punctual_cons.mpr ⟨hprompt, hpunctual⟩,
              List.forall_mem_cons.mpr ⟨by simpa using hd, hopen⟩, ?_⟩
            intro l hl'
            obtain ⟨hall, hnow⟩ := hlimit l hl'
            have hu' := hnext l hl'
            have hs' := hbefore l hl'
            exact ⟨List.forall_mem_cons.mpr ⟨hs', hall⟩, by omega⟩
        · exact hstay

lemma run_succ (hd : s.isDone = false) (hl : ∀ l, limit = some l → s.now < l)
    (hm : pool.limitedMove? limit s = some m) (h : pool.Step s m u) (n : Nat) :
    pool.run limit (n + 1) s = pool.run limit n u := by
  have hopen : ¬limit.any (· ≤ s.now) = true := by
    intro hany
    obtain ⟨l, rfl, hle⟩ := (Option.any_eq_true _ _).mp hany
    have hlt := hl l rfl
    simp only [decide_eq_true_eq] at hle
    omega
  rw [run, hm]
  simp [hd, hopen, after?_of_step h]

lemma run_none_succ (hd : s.isDone = false) (hm : pool.nextMove? s = some m)
    (h : pool.Step s m u) (n : Nat) : pool.run none (n + 1) s = pool.run none n u :=
  run_succ hd (by simp) ((limitedMove?_none pool s).trans hm) h n

/-! ## A punctual path is the path of a dispatch -/

/-- When nothing is due, what comes next is the first thing that will be. -/
lemma Quiet.next_wait (hq : pool.Quiet s) (hlt : ∀ due ∈ pool.dueTimes s, s.now < due)
    (hn : pool.Next s m) :
    ∃ w, m = .wait w ∧ w ∈ pool.dueTimes s ∧ ∀ due ∈ pool.dueTimes s, w ≤ due := by
  cases hn with
  | cancel hp hc =>
      have hdue := hq.undisturbed _ hp
      omega
  | take hu hs hf =>
      have hle := hq.settled (by simp [hs])
      omega
  | giveUp hu hf hc hw =>
      rw [(hq.fed (by simp [hw])).1] at hc
      cases hc
  | feed hu hc hs hw =>
      have hslot := (hq.fed (by simp [hw])).2
      rw [hs] at hslot
      cases hslot
  | goOn hq' hh hd hi =>
      have hdue := hlt _ (mem_dueTimes_hands (List.mem_of_getElem? hh))
      omega
  | strayOn hq' hlate hh hd =>
      have hdue := hlt _ (mem_dueTimes_strays (List.mem_of_getElem? hh))
      omega
  | wait hq' hlt' hw hmin => exact ⟨_, rfl, hw, hmin⟩

lemma Quiet.passing {w : Nat} (hq : pool.Quiet s) (hw : ∀ due ∈ pool.dueTimes s, w < due) :
    pool.Quiet { s with now := w } := by
  refine ⟨fun c hc => hw c ?_, hq.settled, hq.fed⟩
  simp only [dueTimes, List.mem_append, Option.mem_toList]
  exact .inr hc

/-- **Time that passes until nothing is due yet changes nothing of what comes next.** -/
lemma run_of_passing {w : Nat} (hq : pool.Quiet s) (hlt : ∀ due ∈ pool.dueTimes s, s.now < due)
    (hle : ∀ due ∈ pool.dueTimes s, w ≤ due) (hd : s.isDone = false) (hn : s.strays = [])
    (n : Nat) : pool.run none (n + 1) s = pool.run none (n + 1) { s with now := w } ∨
      w ∈ pool.dueTimes s ∧ pool.run none (n + 1) s = pool.run none n { s with now := w } := by
  cases hm : pool.nextMove? s with
  | none =>
      rw [isDone_of_nextMove? hm] at hd
      cases hd
  | some m =>
      obtain ⟨first, rfl, hfirst, hmin⟩ := hq.next_wait hlt (next_of_nextMove? hm)
      have hrun := run_none_succ hd hm (Step.wait (hlt first hfirst)) n
      rcases (hle first hfirst).eq_or_lt with rfl | hw
      · exact .inr ⟨hfirst, hrun⟩
      · -- after the first part of the waiting the same thing is waited for
        have hlt' : ∀ due ∈ pool.dueTimes s, w < due := fun due hdue =>
          hw.trans_le (hmin due hdue)
        have hnext : pool.Next { s with now := w } (.wait first) :=
          Next.wait (hq.passing hlt') hlt' hfirst hmin
        have hstep : pool.Step { s with now := w } (.wait first) { s with now := first } :=
          Step.wait hw
        refine .inl (hrun.trans ?_)
        exact (run_none_succ (s := { s with now := w }) hd (hnext.nextMove?_eq hn) hstep n).symm

lemma cost_passing_le (pool : Pool) {w : Nat} (hw : s.now ≤ w) :
    pool.cost { s with now := w } ≤ pool.cost s := by
  have hhands := sum_handCost_le s.now w hw s.hands
  have hstrays := sum_handCost_le s.now w hw s.strays
  have hcancel : pool.cancelCost { s with now := w } ≤ pool.cancelCost s := cancelCost_le hw id
  simp only [cost]
  omega

/-- **A punctual path to the end of a batch is the one that a run follows.** -/
lemma Path.run_eq (h : pool.Path s trail t) (hp : pool.Punctual trail) (ho : Unfinished trail)
    (hn : s.strays = []) (hd : t.isDone = true) :
    ∀ n, pool.cost s ≤ n → pool.run none n s = (t, true) := by
  induction h with
  | nil s =>
      intro n _
      cases n with
      | zero => rw [run, hd]
      | succ n =>
          rw [run]
          simp [hd]
  | @cons s u t m trail hstep hpath ih =>
      have hprompt : pool.Prompt s m := (punctual_cons.mp hp).1
      have hs : s.isDone = false := (List.forall_mem_cons.mp ho).1
      have ih := ih (punctual_cons.mp hp).2 (List.forall_mem_cons.mp ho).2 (hstep.strays_nil hn) hd
      intro n hcost
      obtain ⟨n, rfl⟩ : ∃ k, n = k + 1 := by
        refine Nat.exists_eq_succ_of_ne_zero fun hzero => ?_
        rw [isDone_of_cost pool (Nat.le_zero.mp (hzero ▸ hcost))] at hs
        cases hs
      cases hprompt with
      | next hnext =>
          have hlt := hnext.cost_lt hstep
          rw [run_none_succ hs (hnext.nextMove?_eq hn) hstep]
          exact ih n (by omega)
      | @passing w hq hlt hle =>
          cases hstep with
          | wait hw =>
              rcases run_of_passing hq hlt hle hs hn n with heq | ⟨hdue, heq⟩
              · rw [heq]
                exact ih (n + 1) ((cost_passing_le pool hw.le).trans hcost)
              · have hcheap := cost_wait_lt hlt hdue
                rw [heq]
                exact ih n (by omega)

/-- **The same for a dispatch.** -/
lemma dispatch_of_punctual (h : pool.Path (s.begin requests) trail t) (hp : pool.Punctual trail)
    (ho : Unfinished trail) (hn : s.strays = []) (hd : t.isDone = true) :
    pool.dispatch none requests s = (t, some ⟨t.reported, t.error⟩) := by
  have hrun := h.run_eq hp ho hn hd _ (cost_le_budget pool s requests)
  simp only [dispatch, hrun]

end Pool

end PageCrawl
