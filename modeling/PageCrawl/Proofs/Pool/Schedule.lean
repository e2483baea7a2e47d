import PageCrawl.Proofs.Pool.Transitions

/-!
# The order of things, and why it comes to an end

`Pool.nextMove?` chooses what happens next.  `Pool.Next` states the choice with its reasons: what
is chosen, and that nothing which comes before it was possible.  `Quiet` names the reasons that
the last three choices share: no cancellation is due, no free worker faces a filled queue, and the
feeder can neither give up a request nor fill the queue.

**Termination.**  `cost` bounds the moves that are left: a request pays for being fed, taken,
called and ended, and for the two times that are waited for it.  Each chosen move lowers it
(`Next.cost_lt`); the case that is not plain is waiting, which pays because it leads to the first
time at which something is due.  A batch that is not done always has a next move
(`isDone_of_nextMove?`), and what is chosen is possible (`Next.possible`), so `Pool.run` with
`Run.budget` moves follows every batch to its end: `dispatch_none`.
-/

namespace PageCrawl

namespace Pool

variable {pool : Pool} {s t u : Run} {m : Move} {limit : Option Nat} {trail : List Transition}

/-! ## What comes next -/

/-- No cancellation from outside is due. -/
def Undisturbed (pool : Pool) (s : Run) : Prop := ∀ c, pool.cancelPending s = some c → s.now < c

/-- No free worker faces a filled queue. -/
def Settled (pool : Pool) (s : Run) : Prop := s.slot.isSome → pool.config.workers ≤ s.hands.length

/-- Neither the outside, nor a free worker, nor the feeder can do anything now. -/
structure Quiet (pool : Pool) (s : Run) : Prop where
  undisturbed : pool.Undisturbed s
  settled : pool.Settled s
  fed : s.waiting ≠ [] → s.cancelled = false ∧ s.slot.isSome

/-- The times at which something is due. -/
def dueTimes (pool : Pool) (s : Run) : List Nat :=
  (s.hands ++ s.strays).map (·.due) ++ (pool.cancelPending s).toList

/-- **What comes next, and why.** -/
inductive Next (pool : Pool) (s : Run) : Move → Prop
  | cancel {c : Nat} (hp : pool.cancelPending s = some c) (hc : c ≤ s.now) : Next pool s .cancel
  | take {r : String} (hu : pool.Undisturbed s) (hs : s.slot = some r)
      (hf : s.hands.length < pool.config.workers) : Next pool s .take
  | giveUp {r : String} {rest : List String} (hu : pool.Undisturbed s) (hf : pool.Settled s)
      (hc : s.cancelled = true) (hw : s.waiting = r :: rest) : Next pool s .giveUp
  | feed {r : String} {rest : List String} (hu : pool.Undisturbed s) (hc : s.cancelled = false)
      (hs : s.slot = none) (hw : s.waiting = r :: rest) : Next pool s .feed
  /-- The first request in a worker's hands whose stage is over goes on. -/
  | goOn {i : Nat} {h : Hand} (hq : pool.Quiet s) (hh : s.hands[i]? = some h) (hd : h.due ≤ s.now)
      (hi : ∀ j < i, ∀ h', s.hands[j]? = some h' → s.now < h'.due) : Next pool s (.goOn i)
  | strayOn {i : Nat} {h : Hand} (hq : pool.Quiet s) (hn : ∀ h ∈ s.hands, s.now < h.due)
      (hh : s.strays[i]? = some h) (hd : h.due ≤ s.now) : Next pool s (.strayOn i)
  /-- Time passes until the first thing is due. -/
  | wait {v : Nat} (hq : pool.Quiet s) (hlt : ∀ w ∈ pool.dueTimes s, s.now < w)
      (hv : v ∈ pool.dueTimes s) (hmin : ∀ w ∈ pool.dueTimes s, v ≤ w) : Next pool s (.wait v)

/-- `Pool.earliest` is the least element of a list. -/
lemma earliest_eq_min? : ∀ ts : List Nat, earliest ts = ts.min?
  | [] => rfl
  | t :: ts => by
      rw [earliest, earliest_eq_min? ts, List.min?_cons]
      cases ts.min? <;> rfl

lemma undisturbed_of_any (h : ¬(pool.cancelPending s).any (· ≤ s.now) = true) :
    pool.Undisturbed s := by
  intro c hc
  rw [hc] at h
  simpa using h

/-- Either `Pool.nextMove?` chooses a move for the reasons of `Next`, or nothing is left that a
batch could wait for. -/
lemma nextMove?_cases (pool : Pool) (s : Run) :
    (∃ m, pool.nextMove? s = some m ∧ pool.Next s m) ∨
      pool.nextMove? s = none ∧ pool.Quiet s ∧ s.hands = [] := by
  rw [nextMove?]
  split_ifs with hcan htake hgive hfeed
  · obtain ⟨c, hp, hc⟩ := (Option.any_eq_true _ _).mp hcan
    exact .inl ⟨_, rfl, Next.cancel hp (by simpa using hc)⟩
  · have hu := undisturbed_of_any hcan
    simp only [Bool.and_eq_true, Option.isSome_iff_exists, decide_eq_true_eq] at htake
    obtain ⟨⟨r, hs⟩, hf⟩ := htake
    exact .inl ⟨_, rfl, Next.take hu hs hf⟩
  · have hu := undisturbed_of_any hcan
    have hf : pool.Settled s := fun hs => by simpa [hs] using htake
    simp only [Bool.and_eq_true, Bool.not_eq_true', List.isEmpty_eq_false_iff] at hgive
    obtain ⟨r, rest, hw⟩ := List.exists_cons_of_ne_nil hgive.2
    exact .inl ⟨_, rfl, Next.giveUp hu hf hgive.1 hw⟩
  · have hu := undisturbed_of_any hcan
    simp only [Bool.and_eq_true, Option.isNone_iff_eq_none, Bool.not_eq_true',
      List.isEmpty_eq_false_iff] at hfeed
    obtain ⟨r, rest, hw⟩ := List.exists_cons_of_ne_nil hfeed.2
    have hc : s.cancelled = false := by simpa [hw] using hgive
    exact .inl ⟨_, rfl, Next.feed hu hc hfeed.1 hw⟩
  · have hu := undisturbed_of_any hcan
    have hf : pool.Settled s := fun hs => by simpa [hs] using htake
    have hq : pool.Quiet s := by
      refine ⟨hu, hf, fun hw => ?_⟩
      simp only [Bool.and_eq_true, Bool.not_eq_true', List.isEmpty_eq_false_iff, hw, ne_eq,
        not_false_eq_true, and_true, Bool.not_eq_true] at hgive hfeed
      exact ⟨hgive, by simpa using hfeed⟩
    cases hh : s.hands.findIdx? (fun h => h.due ≤ s.now) with
    | some i =>
        obtain ⟨hi, hd, hj⟩ := List.findIdx?_eq_some_iff_getElem.mp hh
        refine .inl ⟨_, rfl, Next.goOn hq (List.getElem?_eq_getElem hi) (by simpa using hd) ?_⟩
        intro j hji h' hh'
        obtain ⟨hl, rfl⟩ := List.getElem?_eq_some_iff.mp hh'
        simpa using hj j hji
    | none =>
        have hn : ∀ h ∈ s.hands, s.now < h.due := by simpa using hh
        cases hst : s.strays.findIdx? (fun h => h.due ≤ s.now) with
        | some i =>
            obtain ⟨hi, hd, -⟩ := List.findIdx?_eq_some_iff_getElem.mp hst
            exact .inl ⟨_, rfl,
              Next.strayOn hq hn (List.getElem?_eq_getElem hi) (by simpa using hd)⟩
        | none =>
            have hns : ∀ h ∈ s.strays, s.now < h.due := by simpa using hst
            have hlt : ∀ w ∈ pool.dueTimes s, s.now < w := by
              intro w hw
              simp only [dueTimes, List.mem_append, List.mem_map, Option.mem_toList] at hw
              rcases hw with ⟨h, hm | hm, rfl⟩ | hw
              · exact hn h hm
              · exact hns h hm
              · exact hu w hw
            change (∃ m, (earliest (pool.dueTimes s)).map Move.wait = some m ∧ _) ∨
              (earliest (pool.dueTimes s)).map Move.wait = none ∧ _
            rw [earliest_eq_min?]
            cases hm : (pool.dueTimes s).min? with
            | some v =>
                obtain ⟨hv, hmin⟩ := List.min?_eq_some_iff.mp hm
                exact .inl ⟨_, rfl, Next.wait hq hlt hv hmin⟩
            | none =>
                refine .inr ⟨rfl, hq, ?_⟩
                have := List.min?_eq_none_iff.mp hm
                simp only [dueTimes, List.append_eq_nil_iff, List.map_eq_nil_iff] at this
                exact this.1.1

lemma next_of_nextMove? (h : pool.nextMove? s = some m) : pool.Next s m := by
  rcases nextMove?_cases pool s with ⟨m', hm, hn⟩ | ⟨hm, -⟩
  · rw [h] at hm
    cases hm
    exact hn
  · rw [h] at hm
    cases hm

/-- Nothing comes next only when the batch is done. -/
lemma isDone_of_nextMove? (h : pool.nextMove? s = none) : s.isDone = true := by
  rcases nextMove?_cases pool s with ⟨m', hm, -⟩ | ⟨-, hq, hh⟩
  · rw [h] at hm
    cases hm
  · -- a filled queue would keep all workers busy, and there is at least one
    have hs : s.slot = none := by
      by_contra hs
      have hle := hq.settled (Option.isSome_iff_ne_none.mpr hs)
      rw [hh] at hle
      exact absurd pool.config.workers_pos (by simpa using hle)
    have hw : s.waiting = [] := by
      by_contra hw
      have := (hq.fed hw).2
      rw [hs] at this
      cases this
    exact isDone_iff.mpr ⟨hw, hs, hh⟩

/-- What is chosen is possible. -/
lemma Next.possible (h : pool.Next s m) : ∃ t, pool.Step s m t := by
  cases h with
  | cancel hp hc =>
      rw [cancelPending] at hp
      split at hp
      · cases hp
      · next hs => exact ⟨_, Step.cancel (by simpa using hs)⟩
  | take hu hs hf =>
      cases hc : s.cancelled with
      | true => exact ⟨_, Step.refuse hc hs hf⟩
      | false => exact ⟨_, Step.take hc hs hf⟩
  | giveUp hu hf hc hw => exact ⟨_, Step.giveUp hc hw⟩
  | feed hu hc hs hw => exact ⟨_, Step.feed hc hs hw⟩
  | @goOn i h hq hh hd hi =>
      obtain ⟨r, stage⟩ := h
      cases stage with
      | pausing d =>
          cases ha : (pool.crawler s.called r).atCall with
          | true => exact ⟨_, Step.breakDown hh hd ha⟩
          | false => exact ⟨_, Step.call hh hd ha⟩
      | calling k reply d => exact ⟨_, Step.finish hh hd⟩
  | @strayOn i h hq hn hh hd =>
      obtain ⟨r, stage⟩ := h
      cases stage with
      | pausing d =>
          cases ha : (pool.crawler s.called r).atCall with
          | true => exact ⟨_, Step.strayBreakDown hh hd ha⟩
          | false => exact ⟨_, Step.strayCall hh hd ha⟩
      | calling k reply d => exact ⟨_, Step.strayFinish hh hd⟩
  | wait hq hlt hv hmin => exact ⟨_, Step.wait (hlt _ hv)⟩

/-! ## Every move costs -/

/-- What a request in a worker's hands still costs: each of its stages that is left, and the time
that has to be waited for it. -/
def handCost (now : Nat) (h : Hand) : Nat :=
  (match h.stage with
    | .pausing _ => 3
    | .calling .. => 1) + if now < h.due then 1 else 0

/-- What a cancellation from outside still costs. -/
def cancelCost (pool : Pool) (s : Run) : Nat :=
  match pool.cancelPending s with
  | none => 0
  | some c => if s.now < c then 2 else 1

/-- A bound for the moves that are left. -/
def cost (pool : Pool) (s : Run) : Nat :=
  6 * s.waiting.length + 5 * s.slot.toList.length + (s.hands.map (handCost s.now)).sum
    + (s.strays.map (handCost s.now)).sum + pool.cancelCost s

lemma handCost_pos (now : Nat) (h : Hand) : 0 < handCost now h := by
  unfold handCost
  split <;> omega

lemma handCost_le_four (now : Nat) (h : Hand) : handCost now h ≤ 4 := by
  unfold handCost
  split <;> split <;> omega

/-- Time that passes makes nothing dearer. -/
lemma handCost_anti {a b : Nat} (hab : a ≤ b) (h : Hand) : handCost b h ≤ handCost a h := by
  unfold handCost
  split_ifs <;> omega

lemma handCost_pausing {now d : Nat} (r : String) (hd : d ≤ now) :
    handCost now ⟨r, .pausing d⟩ = 3 := by
  have : ¬now < d := by omega
  simp [handCost, Hand.due, this]

lemma handCost_calling_le (now : Nat) (r : String) (k : Nat) (reply : Reply) (d : Nat) :
    handCost now ⟨r, .calling k reply d⟩ ≤ 2 := by
  simp only [handCost]
  split <;> omega

/-- A cancellation gets no dearer when time passes or when it has happened. -/
lemma cancelCost_le (hn : s.now ≤ t.now) (hc : s.cancelled = true → t.cancelled = true) :
    pool.cancelCost t ≤ pool.cancelCost s := by
  unfold cancelCost cancelPending
  cases hs : s.cancelled with
  | true => simp [hc hs]
  | false =>
      cases ht : t.cancelled with
      | true => simp
      | false =>
          cases pool.cancelAt with
          | none => simp
          | some c =>
              simp only [Bool.false_eq_true, ↓reduceIte]
              split_ifs <;> omega

lemma sum_handCost_le (now now' : Nat) (hn : now ≤ now') (hands : List Hand) :
    (hands.map (handCost now')).sum ≤ (hands.map (handCost now)).sum :=
  List.sum_le_sum fun h _ => handCost_anti hn h

/-- Waiting pays: it leads to a time at which something is due. -/
lemma cost_wait_lt {v : Nat} (hlt : ∀ w ∈ pool.dueTimes s, s.now < w)
    (hv : v ∈ pool.dueTimes s) : pool.cost { s with now := v } < pool.cost s := by
  have hnow : s.now < v := hlt v hv
  have hh := sum_handCost_le s.now v hnow.le s.hands
  have hst := sum_handCost_le s.now v hnow.le s.strays
  have hc : pool.cancelCost { s with now := v } ≤ pool.cancelCost s :=
    cancelCost_le hnow.le id
  have hdue : ∀ h : Hand, h.due = v → handCost v h < handCost s.now h := by
    rintro h rfl
    simp [handCost, hnow]
  have hsum : ∀ hands : List Hand, (∃ h ∈ hands, h.due = v) →
      (hands.map (handCost v)).sum < (hands.map (handCost s.now)).sum := by
    rintro hands ⟨h, hm, hd⟩
    exact List.sum_lt_sum _ _ (fun h _ => handCost_anti hnow.le h) ⟨h, hm, hdue h hd⟩
  simp only [dueTimes, List.mem_append, List.mem_map, Option.mem_toList] at hv
  simp only [cost]
  rcases hv with ⟨h, hm | hm, hd⟩ | hp
  · have := hsum s.hands ⟨h, hm, hd⟩
    omega
  · have := hsum s.strays ⟨h, hm, hd⟩
    omega
  · have : pool.cancelCost { s with now := v } < pool.cancelCost s := by
      have hp' : pool.cancelPending { s with now := v } = some v := hp
      simp [cancelCost, hp, hp', hnow]
    omega

/-- What the hands cost, taken apart at one of them. -/
lemma sum_handCost_split (now : Nat) (l r : List Hand) (h : Hand) :
    ((l ++ h :: r).map (handCost now)).sum
      = ((l ++ r).map (handCost now)).sum + handCost now h := by
  simp only [List.map_append, List.map_cons, List.sum_append, List.sum_cons]
  omega

/-- **Every chosen move lowers the cost.** -/
lemma Next.cost_lt (hn : pool.Next s m) (h : pool.Step s m t) : pool.cost t < pool.cost s := by
  have hcc : pool.cancelCost t ≤ pool.cancelCost s := cancelCost_le h.now_le h.cancelled_mono
  cases h with
  | cancel hc =>
      cases hn with
      | @cancel c hp hle =>
          have h0 : pool.cancelCost { s with cancelled := true } = 0 := by
            simp [cancelCost, cancelPending]
          have h1 : 0 < pool.cancelCost s := by
            simp only [cancelCost, hp]
            split <;> omega
          simp only [cost]
          omega
  | giveUp hc hw =>
      simp only [cost, Run.report] at hcc ⊢
      simp only [hw, List.length_cons]
      omega
  | feed hc hs hw =>
      simp only [cost] at hcc ⊢
      simp only [hw, hs, List.length_cons, Option.toList_some, Option.toList_none,
        List.length_nil]
      omega
  | refuse hc hs hf =>
      simp only [cost, Run.report] at hcc ⊢
      simp only [hs, Option.toList_some, Option.toList_none, List.length_cons, List.length_nil]
      omega
  | @take r hc hs hf =>
      have h4 := handCost_le_four s.now ⟨r, .pausing (s.now + pool.config.delay)⟩
      simp only [cost] at hcc ⊢
      simp only [hs, Option.toList_some, Option.toList_none, List.length_cons, List.length_nil,
        List.map_append, List.map_cons, List.map_nil, List.sum_append, List.sum_cons, List.sum_nil]
      omega
  | @call i d r hh hd ha =>
      obtain ⟨l, l', hx, hset, -, -⟩ := exists_split hh
      have h2 := handCost_calling_le s.now r (s.nextAttempt r) (pool.crawler s.called r)
        (s.now + (pool.crawler s.called r).duration)
      have h3 := handCost_pausing r hd
      simp only [cost, Run.beginCall, hset] at hcc ⊢
      rw [hx, sum_handCost_split, sum_handCost_split]
      omega
  | @breakDown i d r hh hd ha =>
      obtain ⟨l, l', hx, -, he, -⟩ := exists_split hh
      have h3 := handCost_pausing r hd
      simp only [cost, Run.beginCall, Run.report, he] at hcc ⊢
      rw [hx, sum_handCost_split]
      omega
  | @finish i k d r reply hh hd =>
      obtain ⟨l, l', hx, -, he, -⟩ := exists_split hh
      have h1 := handCost_pos s.now ⟨r, .calling k reply d⟩
      simp only [cost, Run.endCall, Run.report, he] at hcc ⊢
      rw [hx, sum_handCost_split]
      omega
  | @strayCall i d r hh hd ha =>
      obtain ⟨l, l', hx, hset, -, -⟩ := exists_split hh
      have h2 := handCost_calling_le s.now r (s.nextAttempt r) (pool.crawler s.called r)
        (s.now + (pool.crawler s.called r).duration)
      have h3 := handCost_pausing r hd
      simp only [cost, Run.beginCall, hset] at hcc ⊢
      rw [hx, sum_handCost_split, sum_handCost_split]
      omega
  | @strayBreakDown i d r hh hd ha =>
      obtain ⟨l, l', hx, -, he, -⟩ := exists_split hh
      have h3 := handCost_pausing r hd
      simp only [cost, Run.beginCall, he] at hcc ⊢
      rw [hx, sum_handCost_split]
      omega
  | @strayFinish i k d r reply hh hd =>
      obtain ⟨l, l', hx, -, he, -⟩ := exists_split hh
      have h1 := handCost_pos s.now ⟨r, .calling k reply d⟩
      simp only [cost, Run.endCall, he] at hcc ⊢
      rw [hx, sum_handCost_split]
      omega
  | wait ht =>
      cases hn with
      | wait hq hlt hv hmin => exact cost_wait_lt hlt hv

/-! ## Following a batch -/

/-- **A path that follows the order of things**: as long as the batch is not done, its next
transition is the one that comes next. -/
def Scheduled (pool : Pool) (trail : List Transition) : Prop :=
  ∀ st ∈ trail, st.before.isDone = false ∧ pool.nextMove? st.before = some st.move

lemma scheduled_cons {st : Transition} :
    pool.Scheduled (st :: trail) ↔
      (st.before.isDone = false ∧ pool.nextMove? st.before = some st.move) ∧
        pool.Scheduled trail :=
  List.forall_mem_cons

lemma scheduled_append {trail' : List Transition} :
    pool.Scheduled (trail ++ trail') ↔ pool.Scheduled trail ∧ pool.Scheduled trail' :=
  List.forall_mem_append

lemma limitedMove?_none (pool : Pool) (s : Run) : pool.limitedMove? none s = pool.nextMove? s := by
  unfold limitedMove?
  split
  · next h => cases h
  · rfl

/-- A limit changes nothing of what comes next, but time may pass only until then. -/
lemma limitedMove?_cases (h : pool.limitedMove? limit s = some m) :
    pool.nextMove? s = some m ∨ ∃ l, limit = some l ∧ m = .wait l := by
  unfold limitedMove? at h
  split at h
  · next t l hm =>
      cases h
      rcases Nat.le_total t l with htl | hlt
      · rw [Nat.min_eq_left htl]
        exact .inl hm
      · rw [Nat.min_eq_right hlt]
        exact .inr ⟨l, rfl, rfl⟩
  · exact .inl h

/-- A batch that is not done at its limit is not followed any further. -/
lemma run_at_limit (pool : Pool) {l : Nat} (hl : l ≤ s.now) (hd : s.isDone = false) :
    ∀ n, (pool.run (some l) n s).2 = false
  | 0 => hd
  | n + 1 => by
      rw [run]
      simp [hd, hl]

/-- Whatever the limit, following a batch is a path. -/
lemma run_path (pool : Pool) (limit : Option Nat) : ∀ (n : Nat) (s : Run),
    ∃ trail, pool.Path s trail (pool.run limit n s).1
  | 0, s => ⟨[], Path.nil s⟩
  | n + 1, s => by
      rw [run]
      split_ifs with hd hl
      · exact ⟨[], Path.nil s⟩
      · exact ⟨[], Path.nil s⟩
      · split
        · next u hu =>
            obtain ⟨m, -, ha⟩ := Option.bind_eq_some_iff.mp hu
            obtain ⟨trail, hp⟩ := run_path pool limit n u
            exact ⟨_, Path.cons (step_of_after? ha) hp⟩
        · exact ⟨[], Path.nil s⟩

/-- **A batch that is followed to its end follows the order of things**, whatever the limit: one
that cuts a waiting short leaves the batch undone. -/
lemma run_scheduled (pool : Pool) (limit : Option Nat) : ∀ (n : Nat) (s : Run),
    (pool.run limit n s).2 = true →
      ∃ trail, pool.Path s trail (pool.run limit n s).1 ∧ pool.Scheduled trail
  | 0, s, _ => ⟨[], Path.nil s, by simp [Scheduled]⟩
  | n + 1, s, h => by
      rw [run] at h ⊢
      split_ifs at h ⊢ with hd hl
      · exact ⟨[], Path.nil s, by simp [Scheduled]⟩
      · split at h
        · next u hu =>
            obtain ⟨m, hm, ha⟩ := Option.bind_eq_some_iff.mp hu
            have hstep := step_of_after? ha
            rcases limitedMove?_cases hm with hnext | ⟨l, rfl, rfl⟩
            · obtain ⟨trail, hp, hs⟩ := run_scheduled pool limit n u h
              exact ⟨⟨s, m, u⟩ :: trail, Path.cons hstep hp,
                scheduled_cons.mpr ⟨⟨by simpa using hd, hnext⟩, hs⟩⟩
            · cases hstep
              have hd' : { s with now := l }.isDone = false := Bool.eq_false_iff.mpr hd
              rw [run_at_limit pool (s := { s with now := l }) le_rfl hd'] at h
              cases h
        · cases h

/-- What `Pool.run` answers is whether the batch is done. -/
lemma run_snd (pool : Pool) (limit : Option Nat) : ∀ (n : Nat) (s : Run),
    (pool.run limit n s).2 = (pool.run limit n s).1.isDone
  | 0, s => rfl
  | n + 1, s => by
      rw [run]
      split_ifs with hd hl
      · simp [hd]
      · simp [hd]
      · split
        · exact run_snd pool limit n _
        · simp [hd]

/-- **A batch that is dispatched and not dropped is done**, and the path to its end follows the
order of things. -/
lemma dispatch_eq_some {requests : List String} {d : Dispatch}
    (h : pool.dispatch limit requests s = (t, some d)) :
    (∃ trail, pool.Path (s.begin requests) trail t ∧ pool.Scheduled trail) ∧
      t.isDone = true ∧ d = ⟨t.reported, t.error⟩ := by
  have hp := run_scheduled pool limit ((s.begin requests).budget + 2) (s.begin requests)
  have hf := run_snd pool limit ((s.begin requests).budget + 2) (s.begin requests)
  rw [dispatch] at h
  split at h
  · next v hv =>
      cases h
      rw [hv] at hp hf
      exact ⟨hp rfl, hf.symm, rfl⟩
  · cases h

/-- A dispatch that gives nothing is dropped in the middle of its path. -/
lemma dispatch_eq_none (h : pool.dispatch limit requests s = (t, none)) :
    ∃ trail v, pool.Path (s.begin requests) trail v ∧ t = v.drop := by
  obtain ⟨trail, hp⟩ := run_path pool limit ((s.begin requests).budget + 2) (s.begin requests)
  rw [dispatch] at h
  split at h
  · cases h
  · next v hv =>
      rw [hv] at hp
      cases h
      exact ⟨trail, v, hp, rfl⟩

/-- What a dispatch gave and what is known of the state after it, put together. -/
lemma exists_dispatch_eq {requests : List String} {d : Dispatch} {P : Run → Prop}
    (h : (pool.dispatch limit requests s).2 = some d)
    (ht : P (pool.dispatch limit requests s).1) :
    ∃ t, pool.dispatch limit requests s = (t, some d) ∧ P t :=
  ⟨(pool.dispatch limit requests s).1, Prod.ext rfl h, ht⟩

/-- A state without cost is the end of its batch. -/
lemma isDone_of_cost (pool : Pool) (h : pool.cost s = 0) : s.isDone = true := by
  have hw : s.waiting = [] := List.length_eq_zero_iff.mp (by simp only [cost] at h; omega)
  have hs : s.slot.toList = [] := List.length_eq_zero_iff.mp (by simp only [cost] at h; omega)
  have hh : s.hands = [] := by
    cases hx : s.hands with
    | nil => rfl
    | cons a l =>
        have := handCost_pos s.now a
        simp only [cost, hx, List.map_cons, List.sum_cons] at h
        omega
  exact isDone_iff.mpr ⟨hw, Option.toList_eq_nil_iff.mp hs, hh⟩

/-- Without a limit, as many moves as the cost are enough. -/
lemma run_none_isDone (pool : Pool) : ∀ (n : Nat) (s : Run), pool.cost s ≤ n →
    (pool.run none n s).1.isDone = true
  | 0, s, h => isDone_of_cost pool (Nat.le_zero.mp h)
  | n + 1, s, h => by
      rw [run]
      split_ifs with hd hl
      · exact hd
      · simp at hl
      · rw [limitedMove?_none]
        cases hm : pool.nextMove? s with
        | none => exact absurd (isDone_of_nextMove? hm) hd
        | some m =>
            obtain ⟨u, hu⟩ := (next_of_nextMove? hm).possible
            have hlt := (next_of_nextMove? hm).cost_lt hu
            simp only [Option.bind_some, after?_of_step hu]
            exact run_none_isDone pool n u (by omega)

lemma sum_handCost_le_four (now : Nat) (hands : List Hand) :
    (hands.map (handCost now)).sum ≤ 4 * hands.length := by
  induction hands with
  | nil => simp
  | cons h hands ih =>
      have hle := handCost_le_four now h
      simp only [List.map_cons, List.sum_cons, List.length_cons]
      omega

/-- The bound that a state puts on its moves covers the cost. -/
lemma cost_le (pool : Pool) (s : Run) : pool.cost s ≤ s.budget := by
  have hhands := sum_handCost_le_four s.now s.hands
  have hstrays := sum_handCost_le_four s.now s.strays
  have hcancel : pool.cancelCost s ≤ 2 := by
    unfold cancelCost
    split
    · omega
    · split <;> omega
  simp only [cost, Run.budget]
  omega

/-- The bound that `Pool.dispatch` puts on the moves covers the cost. -/
lemma cost_le_budget (pool : Pool) (s : Run) (requests : List String) :
    pool.cost (s.begin requests) ≤ (s.begin requests).budget + 2 :=
  (cost_le pool (s.begin requests)).trans (Nat.le_add_right _ 2)

/-- **Every dispatch that nobody drops comes to its end.** -/
theorem dispatch_none (pool : Pool) (s : Run) (requests : List String) :
    ∃ t, t.isDone = true ∧
      pool.dispatch none requests s = (t, some ⟨t.reported, t.error⟩) := by
  have hd := run_none_isDone pool _ _ (cost_le_budget pool s requests)
  have hf := run_snd pool none ((s.begin requests).budget + 2) (s.begin requests)
  rw [hd] at hf
  refine ⟨(pool.run none ((s.begin requests).budget + 2) (s.begin requests)).1, hd, ?_⟩
  rw [dispatch]
  split
  · next v hv => rw [hv]
  · next v hv =>
      rw [hv] at hf
      cases hf

end Pool

end PageCrawl
