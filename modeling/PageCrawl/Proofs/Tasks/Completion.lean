import PageCrawl.Proofs.Tasks.Executions

/-!
# Every dispatch comes to its end

A dispatch that nobody drops returns, whoever does what when (`Tasks.Inevitable`): as long as it has
not returned something can happen (`Tasks.Sound.possible`), and nothing that happens can go on for
ever.  `Crew.work` counts what the tasks of a crew may still do, and each step but waiting lowers
the count; waiting, which changes no count, comes nearer to the end of a pause or call.  The same
holds of the crews that were left behind: in the end nobody of them is there.

**When it returns.**  A dispatch collects in the order in which sources arrive, and waits for
nothing after the last one.  So it returns at the time at which it collected last (`Tasks.Prompt`),
and by then every call of its own is over (`Tasks.Steps.calls_over`).
-/

namespace PageCrawl

open Pool

namespace Crew

variable {pool : Pool} {c c' : Shared} {k k' : Crew} {requests : List String}
  {called : Option String}

/-- What is left to do with a request in the hands of a worker. -/
def handWork (h : Hand) : Nat :=
  match h.stage with
  | .pausing _ => 5
  | .calling .. => 4

/-- What is left to do for the dispatch itself. -/
def phaseWork : Phase → Nat
  | .collecting => 2
  | .joining => 1
  | .returned _ | .dropped => 0

/-- **A bound for the steps that are left to the tasks of a crew.**  A request is worth less the
further it has come, and whoever can still go is worth one. -/
def work (k : Crew) : Nat :=
  7 * k.waiting.length + 6 * k.slot.toList.length + (k.hands.map handWork).sum
    + 3 * k.outbox.length + k.channel.length + k.idle
    + (if k.feeder.isSome then 1 else 0) + (if k.starter then 1 else 0) + phaseWork k.phase

lemma four_le_handWork (h : Hand) : 4 ≤ handWork h := by
  unfold handWork
  split <;> omega

/-- Going on is progress. -/
lemma handWork_goOn {crawler : Crawler} {h h' : Hand} {s : Run}
    (hg : c.run.goOn crawler h = (s, .inl h')) : handWork h' < handWork h := by
  obtain ⟨r, stage⟩ := h
  cases stage with
  | pausing d =>
      simp only [Run.goOn] at hg
      split at hg
      · cases hg
      · cases hg
        simp [handWork]
  | calling n reply d => cases hg

/-- **Every step of a task lowers the count.** -/
lemma Step.work_lt (hs : k.Step pool c called c' k') : k'.work < k.work := by
  cases hs with
  | feed hc hw hslot =>
      simp only [work, waiting, hw, hslot, Option.getD_some, Option.toList_some, Option.toList_none,
        List.length_cons, List.length_nil, Option.isSome_some, ↓reduceIte]
      omega
  | giveUp hc hw hl hr =>
      simp only [work, waiting, hw, Option.getD_some, List.length_append, List.length_cons,
        List.length_nil, Option.isSome_some, ↓reduceIte]
      omega
  | forsake hc hw | depart hw =>
      simp only [work, waiting, hw, Option.getD_some, Option.getD_none, List.length_cons,
        List.length_nil, Option.isSome_some, Option.isSome_none, Bool.false_eq_true, ↓reduceIte]
      omega
  | take hc hslot hi =>
      simp only [work, waiting, hslot, handWork, Option.toList_some, Option.toList_none,
        List.length_cons, List.length_nil, List.map_append, List.map_cons, List.map_nil,
        List.sum_append, List.sum_cons, List.sum_nil]
      omega
  | refuse hc hslot hi =>
      simp only [work, waiting, hslot, Option.toList_some, Option.toList_none, List.length_cons,
        List.length_nil, List.length_append]
      omega
  | leave hslot hw hi =>
      simp only [work, waiting]
      omega
  | @goOn i h h' s hh hd hg =>
      obtain ⟨l, r, hx, hset, -, -⟩ := exists_split hh
      have hlt := handWork_goOn hg
      simp only [work, waiting, hset]
      simp only [hx, List.map_append, List.map_cons, List.sum_append, List.sum_cons]
      omega
  | @finish i h outcome s hh hd hg =>
      obtain ⟨l, r, hx, -, herase, -⟩ := exists_split hh
      have hle := four_le_handWork h
      simp only [work, waiting, herase]
      simp only [hx, List.map_append, List.map_cons, List.sum_append, List.sum_cons,
        List.length_append, List.length_cons, List.length_nil]
      omega
  | send ho hl hr =>
      have hlength := length_eraseIdx_add_one ho
      simp only [work, waiting, List.length_append, List.length_cons, List.length_nil]
      omega
  | unheard ho hl =>
      have hlength := length_eraseIdx_add_one ho
      simp only [work, waiting]
      omega
  | release hp hs =>
      simp only [work, waiting, hs, Bool.false_eq_true, ↓reduceIte]
      omega
  | collect hp hs hc =>
      simp only [work, waiting, hc, List.length_cons]
      omega
  | close hp hs hc hn =>
      simp only [work, waiting, hp, phaseWork]
      omega
  | done hp hn =>
      simp only [work, waiting, hp, phaseWork]
      omega

/-- How long the pauses and calls in the hands of a crew still take, taken together. -/
def patience (now : Nat) (k : Crew) : Nat := (k.hands.map fun h => h.due - now).sum

end Crew

namespace Tasks

variable {pool : Pool} {T U V : Tasks} {a : Actor} {r : Option String} {s t : Run}
  {calls calls' : List (Actor × Beginning)} {requests : List String} {time : Nat}

/-! ## What cannot be avoided -/

/-- **It comes to that**, whoever does what when: it is so now, or something can happen and after
everything that can happen it comes to that. -/
inductive Inevitable (pool : Pool) (goal : Tasks → Prop) : Tasks → Prop
  | now {T : Tasks} (h : goal T) : Inevitable pool goal T
  | later {T : Tasks} (hs : ∃ a r U, T.Step pool a r U)
      (hall : ∀ a r U, T.Step pool a r U → Inevitable pool goal U) : Inevitable pool goal T

/-- A bound for the steps that are left before time passes. -/
def work (T : Tasks) : Nat := (T.crews.map Crew.work).sum + if T.cancelled then 0 else 1

def patience (T : Tasks) : Nat := (T.crews.map (Crew.patience T.now)).sum

/-- Somebody has a request in the hands. -/
def Busy (T : Tasks) : Prop := ∃ k ∈ T.crews, k.hands ≠ []

/-- **Every step but waiting lowers the count**, and waiting comes nearer to the end of what
somebody has in the hands. -/
lemma Step.work_lt (hs : T.Step pool a r U) :
    U.work < T.work ∨ U.work = T.work ∧ (∀ k ∈ T.crews, k.Quiet pool T.toShared) ∧
      (T.Busy → U.patience < T.patience) := by
  have hcost : ∀ {b b' : Bool}, (b = true → b' = true) →
      (if b' then 0 else 1) ≤ if b then 0 else 1 := by
    intro b b' h
    cases b <;> cases b' <;> simp_all
  cases hs with
  | cancel hc =>
      left
      simp [work, crews, hc]
  | crew hk =>
      left
      have hlt := hk.work_lt
      have hle := hcost hk.cancelled_mono
      simp only [work, crews, List.map_cons, List.sum_cons]
      omega
  | @left i r c k k' hl hk =>
      left
      obtain ⟨before, after, hx, hset, -, -⟩ := exists_split hl
      have hlt := hk.work_lt
      have hle := hcost hk.cancelled_mono
      simp only [work, crews, hset]
      simp only [hx, List.map_cons, List.map_append, List.sum_cons, List.sum_append]
      omega
  | @wait w ht hq hd =>
      refine .inr ⟨rfl, hq, fun ⟨k, hk, hne⟩ => ?_⟩
      have hanti : ∀ h : Hand, h.due - w ≤ h.due - T.now := fun h => by omega
      refine List.sum_lt_sum _ _ (fun k _ => List.sum_le_sum fun h _ => hanti h) ⟨k, hk, ?_⟩
      obtain ⟨h, rest, hh⟩ := List.exists_cons_of_ne_nil hne
      refine List.sum_lt_sum _ _ (fun h _ => hanti h) ⟨h, by simp [hh], ?_⟩
      have hle := hd k hk h (by simp [hh])
      change h.due - w < h.due - T.now
      omega

/-- A task that can do something is one of the crew under way or of one that was left. -/
lemma exists_step_of_not_quiet (hq : ¬∀ k ∈ T.crews, k.Quiet pool T.toShared) :
    ∃ a r U, T.Step pool a r U := by
  simp only [Crew.Quiet, not_forall, not_not] at hq
  obtain ⟨k, hk, r, c, k', hstep⟩ := hq
  rcases List.mem_cons.mp hk with rfl | hk
  · exact ⟨_, _, _, Step.crew hstep⟩
  · obtain ⟨i, hi⟩ := List.mem_iff_getElem?.mp hk
    exact ⟨_, _, _, Step.left hi hstep⟩

/-- Something can always happen: if all tasks are quiet, time can pass. -/
lemma exists_step (pool : Pool) (T : Tasks) : ∃ a r U, T.Step pool a r U := by
  by_cases hq : ∀ k ∈ T.crews, k.Quiet pool T.toShared
  · exact ⟨_, _, _, Step.wait (Nat.lt_succ_self _) hq fun k hk h hm => (hq k hk).lt_due h hm⟩
  · exact exists_step_of_not_quiet hq

/-- **What is reached when all is quiet and nobody has anything in the hands is inevitable.** -/
lemma Sound.inevitable {goal : Tasks → Prop}
    (hgoal : ∀ U : Tasks, U.Sound pool requests → ¬goal U →
      (∀ k ∈ U.crews, k.Quiet pool U.toShared) → U.Busy) (h : T.Sound pool requests) :
    Inevitable pool goal T := by
  -- the induction is on the steps that are left, and with as many steps on the time
  induction hw : T.work using Nat.strong_induction_on generalizing T with
  | _ w ihw =>
      induction hp : T.patience using Nat.strong_induction_on generalizing T with
      | _ p ihp =>
          by_cases hnow : goal T
          · exact Inevitable.now hnow
          · refine Inevitable.later (exists_step pool T) fun a r U hs => ?_
            rcases hs.work_lt with hlt | ⟨heq, hq, hlt⟩
            · exact ihw _ (hw ▸ hlt) (hs.sound h) rfl
            · exact ihp _ (hp ▸ hlt (hgoal T h hnow hq)) (hs.sound h) (heq.trans hw) rfl

/-- **A dispatch returns**, whatever happens. -/
lemma Sound.returns (h : T.Sound pool requests) :
    Inevitable pool (fun U => ∃ time, U.crew.phase = .returned time) T := by
  refine h.inevitable fun U hU hne hq => ?_
  have hcrew := (List.forall_mem_cons.mp hq).1
  refine ⟨U.crew, List.mem_cons_self, hcrew.hands_ne_nil hU.crew ?_⟩
  by_contra hl
  exact hne (hU.crew.returned (by simpa using hl))

/-- **A dispatch that has not returned is not stuck**: one of its tasks can do something, or a
worker pauses or makes a call. -/
lemma Sound.unstuck (h : T.Sound pool requests) (hl : T.crew.listening = true) :
    (∃ r U, T.Step pool .crew r U) ∨ T.crew.hands ≠ [] := by
  by_cases hq : T.crew.Quiet pool T.toShared
  · exact .inr (hq.hands_ne_nil h.crew hl)
  · simp only [Crew.Quiet, not_forall, not_not] at hq
    obtain ⟨r, c, k, hk⟩ := hq
    exact .inl ⟨_, _, Step.crew hk⟩

end Tasks

/-! ## Crews that were left -/

namespace Crew

variable {pool : Pool} {c : Shared} {k : Crew}

/-- **Nobody of a crew is left**, and its token is cancelled. -/
structure Over (k : Crew) : Prop where
  closed : k.closed = true
  feeder : k.feeder = none
  idle : k.idle = 0
  hands : k.hands = []
  outbox : k.outbox = []

/-- Of a quiet crew that was left only those are there who have a request in their hands. -/
lemma Quiet.over (hq : k.Quiet pool c) (h : k.Forsaken) (hh : k.hands = []) : k.Over := by
  have hfeeder : k.feeder = none := by
    cases hf : k.feeder with
    | none => rfl
    | some held =>
        cases held with
        | nil => exact absurd (Step.depart hf) (hq _ _ _)
        | cons r rest => exact absurd (Step.forsake (h.stopped c) hf (.inl h.listening)) (hq _ _ _)
  refine ⟨h.closed, hfeeder, ?_, hh, ?_⟩
  · by_contra hne
    cases hs : k.slot with
    | none => exact hq _ _ _ (Step.leave hs hfeeder (by omega))
    | some r => exact hq _ _ _ (Step.refuse (h.stopped c) hs (by omega))
  · by_contra hne
    obtain ⟨source, rest, ho⟩ := List.exists_cons_of_ne_nil hne
    have hget : k.outbox[0]? = some source := by simp [ho]
    exact hq _ _ _ (Step.unheard hget h.listening)

end Crew

namespace Tasks

variable {pool : Pool} {T U V : Tasks} {a : Actor} {r : Option String} {s t : Run}
  {calls calls' : List (Actor × Beginning)} {requests : List String} {time : Nat}

/-- **What was left behind comes to its end**, whatever happens. -/
lemma Sound.ebbs (h : T.Sound pool requests) :
    Inevitable pool (fun U => ∀ k ∈ U.left, k.Over) T := by
  refine h.inevitable fun U hU hne hq => ?_
  by_contra hidle
  refine hne fun k hk => ?_
  refine (hq k (List.mem_cons_of_mem _ hk)).over (hU.left k hk) ?_
  by_contra hhands
  exact hidle ⟨k, List.mem_cons_of_mem _ hk, hhands⟩

end Tasks

/-! ## When a dispatch returns -/

namespace Crew

variable {pool : Pool} {c c' : Shared} {k k' : Crew} {requests : List String}
  {called : Option String} {time : Nat}

/-- **When all is collected nobody has a request or a source of it.** -/
lemma Sound.collected_iff (h : k.Sound pool requests) :
    k.collected.length = requests.length ↔
      k.waiting = [] ∧ k.slot = none ∧ k.hands = [] ∧ k.outbox = [] ∧ k.channel = [] := by
  have hlength := h.held.length_eq
  simp only [Crew.held, sources, List.length_append, List.length_map] at hlength
  constructor
  · intro hall
    exact ⟨List.length_eq_zero_iff.mp (by omega),
      Option.toList_eq_nil_iff.mp (List.length_eq_zero_iff.mp (by omega)),
      List.length_eq_zero_iff.mp (by omega), List.length_eq_zero_iff.mp (by omega),
      List.length_eq_zero_iff.mp (by omega)⟩
  · rintro ⟨hw, hs, hh, ho, hc⟩
    rw [hw, hs, hh, ho, hc] at hlength
    simpa using hlength

/-- Who has stopped collecting has collected everything. -/
lemma Sound.collected_of_gone (h : k.Sound pool requests) (hg : k.Gone) :
    k.collected.length = requests.length :=
  h.collected_iff.mpr ⟨hg.waiting, hg.slot, hg.hands, hg.outbox, hg.channel⟩

/-- **What a step does to the dispatch itself.** -/
inductive Advance (c : Shared) (k k' : Crew) : Prop
  | none (hp : k'.phase = k.phase) (hc : k'.collected = k.collected)
  | collect {source : PageSource} (hp : k'.phase = k.phase)
      (hc : k'.collected = k.collected ++ [(c.now, source)])
  | close (hp : k.phase = .collecting) (hp' : k'.phase = .joining)
      (hc : k'.collected = k.collected)
  | done (hp : k.phase = .joining) (hp' : k'.phase = .returned c.now)
      (hc : k'.collected = k.collected)

lemma Step.advance (hs : k.Step pool c called c' k') : Advance c k k' := by
  cases hs with
  | collect => exact Advance.collect rfl rfl
  | close hp => exact Advance.close hp rfl rfl
  | done hp => exact Advance.done hp rfl rfl
  | _ => exact Advance.none rfl rfl

/-- Who returns by a step returns now. -/
lemma Step.returned_eq (hs : k.Step pool c called c' k') (h : k.Sound pool requests)
    (hp : k'.phase = .returned time) : time = c'.now := by
  rw [hs.now_eq]
  cases hs.advance with
  | none hsame | collect hsame => exact absurd (hsame ▸ hp) (hs.not_returned h)
  | close _ hp' =>
      rw [hp'] at hp
      cases hp
  | done _ hp' =>
      rw [hp'] at hp
      cases hp
      rfl

end Crew

namespace Tasks

variable {pool : Pool} {T U V : Tasks} {a : Actor} {r : Option String} {s t : Run}
  {calls calls' : List (Actor × Beginning)} {requests : List String} {time begun : Nat}

/-- When a dispatch that began at this time has collected last. -/
def lastCollected (begun : Nat) (k : Crew) : Nat := (k.collected.map (·.1)).getLast?.getD begun

/-- **A dispatch that has collected everything waits for nothing.** -/
structure Prompt (begun : Nat) (requests : List String) (T : Tasks) : Prop where
  complete : T.crew.listening = true → T.crew.collected.length = requests.length →
    T.now = lastCollected begun T.crew
  returned : ∀ time, T.crew.phase = .returned time →
    time = lastCollected begun T.crew ∧ time ≤ T.now

lemma prompt_begin (pool : Pool) (requests : List String) (T : Tasks) :
    (T.begin pool requests).Prompt T.now requests := by
  cases requests with
  | nil =>
      refine ⟨nofun, fun time hp => ?_⟩
      obtain rfl : T.now = time := Phase.returned.inj hp
      exact ⟨rfl, le_rfl⟩
  | cons r rest => exact ⟨nofun, nofun⟩

lemma Prompt.crew_step {c : Shared} {k : Crew} (hk : T.crew.Step pool T.toShared r c k)
    (hs : T.crew.Sound pool requests) (h : T.Prompt begun requests) :
    Prompt begun requests { T with toShared := c, crew := k } := by
  have hnow : c.now = T.now := hk.now_eq
  refine ⟨fun hl hall => ?_, fun time hp => ?_⟩
  · change c.now = lastCollected begun k
    cases hk.advance with
    | none hp hc =>
        rw [hnow, lastCollected, hc]
        refine h.complete ?_ (hc ▸ hall)
        rwa [Crew.listening, ← hp]
    | collect hp hc => simp [lastCollected, hc, hnow]
    | close hp hp' hc =>
        rw [hnow, lastCollected, hc]
        exact h.complete (Crew.listening_of_collecting hp) (hc ▸ hall)
    | done hp hp' =>
        have hk' : k.listening = true := hl
        simp [Crew.listening, hp'] at hk'
  · obtain rfl : time = c.now := hk.returned_eq hs hp
    refine ⟨?_, le_rfl⟩
    have hgone := (hk.sound hs).gone (by rw [hp]; simp)
    have hall := (hk.sound hs).collected_of_gone hgone
    cases hk.advance with
    | none hsame | collect hsame => exact absurd (hsame ▸ hp) (hk.not_returned hs)
    | close _ hp' =>
        rw [hp'] at hp
        cases hp
    | done hp' _ hc =>
        rw [hnow, lastCollected, hc]
        exact h.complete (Crew.listening_of_joining hp') (hc ▸ hall)

lemma Step.prompt (hs : T.Step pool a r U) (hT : T.Sound pool requests)
    (h : T.Prompt begun requests) : U.Prompt begun requests := by
  cases hs with
  | cancel => exact ⟨h.complete, h.returned⟩
  | crew hk => exact h.crew_step hk hT.crew
  | left hl hk =>
      have hnow := hk.now_eq
      exact ⟨fun hl hall => hnow.trans (h.complete hl hall),
        fun time hp => ⟨(h.returned time hp).1, hnow ▸ (h.returned time hp).2⟩⟩
  | wait ht hq hd =>
      refine ⟨fun hl hall => ?_, fun time hp => ?_⟩
      · -- nobody waits who has collected everything
        have hne := (hq T.crew List.mem_cons_self).hands_ne_nil hT.crew hl
        exact absurd (hT.crew.collected_iff.mp hall).2.2.1 hne
      · obtain ⟨heq, hle⟩ := h.returned time hp
        exact ⟨heq, hle.trans ht.le⟩

lemma Steps.prompt (hs : T.Steps pool calls U) (hT : T.Sound pool requests)
    (h : T.Prompt begun requests) : U.Prompt begun requests := by
  induction hs with
  | refl => exact h
  | step hr hs ih => exact hs.prompt (hr.sound hT) ih

/-! ## Calls -/

/-- The calls of a batch are those that its crew makes. -/
lemma Steps.own_eq (hs : T.Steps pool calls U) : ∀ c ∈ calls, c.2.own = (c.1 == .crew) := by
  induction hs with
  | refl => simp
  | @step calls U V a r hr hs ih =>
      intro c hc
      rcases List.mem_append.mp hc with hc | hc
      · exact ih c hc
      · obtain ⟨r, -, rfl⟩ := List.mem_map.mp hc
        rfl

lemma Follows.ownCalls_eq {trail : List Transition} (h : Follows pool s calls U trail t)
    (hs : T.Steps pool calls U) : ownCalls trail = callsBy .crew calls := by
  rw [ownCalls, h.calls_eq, callsBy, List.filter_map]
  exact congrArg (List.map (·.2)) (List.filter_congr fun c hc => hs.own_eq c hc)

/-- **By the time a dispatch returns its calls are over.** -/
lemma Steps.finishOf_le (hs : (T.begin pool requests).Steps pool calls U)
    (hT : Reached pool requests (T.begin pool requests) (s.begin requests))
    (hp : U.crew.phase = .returned time) : ∀ c ∈ callsBy .crew calls, pool.finishOf c ≤ time := by
  induction hs with
  | refl => simp
  | @step calls U V a r hr hs ih =>
      obtain ⟨trail, t, hfollows, hV⟩ := (hr.step hs).reached hT
      have hU := hr.sound hT.sound
      cases hs with
      | crew hk =>
          obtain rfl := hk.returned_eq hU.crew hp
          intro c hc
          rw [← hfollows.ownCalls_eq (hr.step (Step.crew hk))] at hc
          refine (hfollows.path.finishOf_le hfollows.timely (hV.isDone hp) c hc).trans_eq ?_
          exact hfollows.shows.now_eq
      | cancel | left | wait =>
          intro c hc
          rw [callsBy_append, callsBy_begins_ne (by simp), List.append_nil] at hc
          exact ih hp c hc

/-- **A dispatch that has returned**: what it gave, and when. -/
structure Ended (pool : Pool) (T : Tasks) (requests : List String)
    (calls : List (Actor × Beginning)) (U : Tasks) (time : Nat) : Prop where
  /-- One source for each request. -/
  results_perm : (U.crew.result.results.map (·.request)).Perm requests
  error_eq : U.crew.result.error = lastError U.crew.result.results
  /-- It returned when it collected last, or at once if there was nothing to collect. -/
  time_eq : time = lastCollected T.now U.crew
  /-- Everybody is gone. -/
  gone : U.crew.Gone
  /-- Each call that its crew made is over, as the log says. -/
  calls_over : ∀ c ∈ callsBy .crew calls, T.now ≤ c.start ∧ pool.finishOf c ≤ time ∧
    pool.entry c ∈ U.calls

lemma Steps.ended (hs : (T.begin pool requests).Steps pool calls U)
    (hT : Reached pool requests (T.begin pool requests) (s.begin requests))
    (hp : U.crew.phase = .returned time) : Ended pool T requests calls U time := by
  obtain ⟨trail, t, hfollows, hU⟩ := hs.reached hT
  have hgone := hU.sound.crew.gone (by simp [hp])
  have hheld := hU.sound.crew.held
  rw [hgone.held] at hheld
  refine ⟨?_, hU.sound.crew.error, ?_, hgone, fun c hc => ⟨?_, hs.finishOf_le hT hp c hc, ?_⟩⟩
  · rw [Crew.result, List.map_map]
    exact hheld
  · exact ((hs.prompt hT.sound (prompt_begin pool requests T)).returned time hp).1
  · obtain ⟨c', hc', rfl⟩ := List.mem_map.mp hc
    exact hs.later.le_start c' (List.mem_filter.mp hc').1
  · have hhands : t.hands = [] := hfollows.shows.hands.trans hgone.hands
    rw [← hfollows.ownCalls_eq hs] at hc
    rw [← hfollows.shows.calls_eq]
    exact hfollows.path.entry_mem hfollows.timely hT.accounted hhands hc

end Tasks

end PageCrawl
