import PageCrawl.Proofs.Pool.Ledger
import PageCrawl.Proofs.Tasks.Crew

/-!
# What the tasks of a pool do, the pool does

`Tasks.Steps` strings steps of tasks together, in any order in which they are possible, and collects
the calls that begin, each with the one who makes it.  `Tasks.Later` goes on over the end of a
batch: the next dispatch begins when the one before it returned, and a dispatch may be dropped where
it waits for its workers.  Of whatever the tasks of a pool have done, a dispatch under way has a
sound crew, and a crew that was left behind has a cancelled token and nobody who listens
(`Tasks.Sound`).

**Refinement.**  A state of the pool shows a state of its tasks (`Tasks.Shows`): the feeder, the
queue and the hands are what they are there, strays are in the hands of crews that were left, and
what is reported is what workers are sending, what is in the channel, and what was collected.  Each
step of a task is a transition of the pool or none at all (`Tasks.Step.path`), and when all tasks
are quiet it is patient to wait.  Hence every execution shows a timely path with the same calls
(`Tasks.Steps.path`).
-/

namespace PageCrawl

open Pool

/-- The requests of all calls made so far, latest first. -/
def Shared.called (c : Shared) : List String := c.calls.map (·.request)

namespace Tasks

/-! ## Executions -/

/-- The call that begins with a step, and who makes it. -/
def begins (T : Tasks) (a : Actor) (r : Option String) : List (Actor × Beginning) :=
  r.toList.map fun r => (a, ⟨r, T.now, T.called, a == .crew⟩)

/-- The calls that somebody made. -/
def callsBy (a : Actor) (calls : List (Actor × Beginning)) : List Beginning :=
  (calls.filter (·.1 == a)).map (·.2)

/-- **Any number of steps**, and the calls that begin with them. -/
inductive Steps (pool : Pool) (T : Tasks) : List (Actor × Beginning) → Tasks → Prop
  | refl : Steps pool T [] T
  | step {calls : List (Actor × Beginning)} {U V : Tasks} {a : Actor} {r : Option String}
      (hr : Steps pool T calls U) (hs : U.Step pool a r V) :
      Steps pool T (calls ++ U.begins a r) V

/-- **What can become of the tasks of a pool**, whatever is dispatched through it.  A dispatch
begins when the one before it returned or was dropped.  It can be dropped where it waits, and it
does not wait before it has let go of its sender. -/
inductive Later (pool : Pool) (T : Tasks) : List (Actor × Beginning) → Tasks → Prop
  | refl : Later pool T [] T
  | step {calls : List (Actor × Beginning)} {U V : Tasks} {a : Actor} {r : Option String}
      (hr : Later pool T calls U) (hs : U.Step pool a r V) :
      Later pool T (calls ++ U.begins a r) V
  | begin {calls : List (Actor × Beginning)} {U : Tasks} {time : Nat} (hr : Later pool T calls U)
      (hp : U.crew.phase = .returned time) (requests : List String) :
      Later pool T calls (U.begin pool requests)
  | drop {calls : List (Actor × Beginning)} {U : Tasks} (hr : Later pool T calls U)
      (hl : U.crew.listening = true) (hs : U.crew.starter = false) : Later pool T calls U.drop

variable {pool : Pool} {T U V : Tasks} {a : Actor} {r : Option String} {s t : Run}
  {calls calls' : List (Actor × Beginning)} {requests : List String} {trail : List Transition}

lemma Steps.later (h : T.Steps pool calls U) : T.Later pool calls U := by
  induction h with
  | refl => exact Later.refl
  | step _ hs ih => exact Later.step ih hs

lemma Later.trans (h : T.Later pool calls U) (h' : U.Later pool calls' V) :
    T.Later pool (calls ++ calls') V := by
  induction h' with
  | refl => rwa [List.append_nil]
  | step _ hs ih =>
      rw [← List.append_assoc]
      exact Later.step ih hs
  | begin _ hp requests ih => exact Later.begin ih hp requests
  | drop _ hl hs ih => exact Later.drop ih hl hs

lemma Steps.trans (h : T.Steps pool calls U) (h' : U.Steps pool calls' V) :
    T.Steps pool (calls ++ calls') V := by
  induction h' with
  | refl => rwa [List.append_nil]
  | step _ hs ih =>
      rw [← List.append_assoc]
      exact Steps.step ih hs

lemma Steps.single (hs : T.Step pool a r U) : T.Steps pool (T.begins a r) U :=
  Steps.step Steps.refl hs

@[simp] lemma begins_none (T : Tasks) (a : Actor) : T.begins a none = [] := rfl

@[simp] lemma callsBy_nil (a : Actor) : callsBy a [] = [] := rfl

@[simp] lemma callsBy_append (a : Actor) (calls calls' : List (Actor × Beginning)) :
    callsBy a (calls ++ calls') = callsBy a calls ++ callsBy a calls' := by
  simp [callsBy]

lemma callsBy_begins_ne {b : Actor} (h : a ≠ b) (T : Tasks) (r : Option String) :
    callsBy b (T.begins a r) = [] := by
  cases r with
  | none => rfl
  | some r => simp [callsBy, begins, h]

lemma callsBy_begins (T : Tasks) (a : Actor) (r : Option String) :
    callsBy a (T.begins a r) = r.toList.map fun r => ⟨r, T.now, T.called, a == .crew⟩ := by
  cases r with
  | none => rfl
  | some r => simp [callsBy, begins]

end Tasks

/-! ## Steps and the clock -/

section Goes

variable {pool : Pool} {crawler : Crawler} {c c' : Shared} {k k' : Crew} {h h' : Hand} {s : Run}
  {called : Option String}

/-- A state of the pool with what tasks share taken from elsewhere. -/
def Run.share (s : Run) (c : Shared) : Run :=
  { s with now := c.now, cancelled := c.cancelled, calls := c.calls }

/-- What becomes of a request at the end of its stage depends on what tasks share only. -/
lemma Run.goOn_shared (s : Run) (crawler : Crawler) (h : Hand) :
    s.goOn crawler h = (s.share (s.shared.run.goOn crawler h).1.shared,
      (s.shared.run.goOn crawler h).2) := by
  obtain ⟨r, stage⟩ := h
  cases stage with
  | pausing d =>
      have hcalled : s.shared.run.called = s.called := rfl
      by_cases ha : (crawler s.called r).atCall = true
      · simp only [Run.goOn, hcalled, ha, ↓reduceIte]
        rfl
      · simp only [Run.goOn, hcalled, ha, Bool.false_eq_true, ↓reduceIte]
        rfl
  | calling k reply d => rfl

/-- Going on takes no time. -/
lemma Run.goOn_now (s : Run) (crawler : Crawler) (h : Hand) :
    (s.goOn crawler h).1.now = s.now := by
  obtain ⟨r, stage⟩ := h
  cases stage with
  | pausing d =>
      simp only [Run.goOn, Run.beginCall]
      split <;> rfl
  | calling k reply d => rfl

/-- Nor does it take a cancellation back. -/
lemma Run.goOn_cancelled (s : Run) (crawler : Crawler) (h : Hand) (hc : s.cancelled = true) :
    (s.goOn crawler h).1.cancelled = true := by
  obtain ⟨r, stage⟩ := h
  cases stage with
  | pausing d =>
      simp only [Run.goOn, hc, Bool.true_or]
      split <;> rfl
  | calling k reply d => simp [Run.goOn, hc]

/-- **Tasks take no time.** -/
lemma Crew.Step.now_eq (hs : k.Step pool c called c' k') : c'.now = c.now := by
  cases hs with
  | @goOn _ h _ _ _ _ hg | @finish _ h _ _ _ _ hg =>
      have hnow := Run.goOn_now c.run pool.crawler h
      rw [hg] at hnow
      exact hnow
  | _ => rfl

lemma Crew.Step.cancelled_mono (hs : k.Step pool c called c' k') (hc : c.cancelled = true) :
    c'.cancelled = true := by
  cases hs with
  | @goOn _ h _ _ _ _ hg | @finish _ h _ _ _ _ hg =>
      have hcancelled := Run.goOn_cancelled c.run pool.crawler h hc
      rw [hg] at hcancelled
      exact hcancelled
  | _ => exact hc

end Goes

namespace Tasks

variable {pool : Pool} {T U V : Tasks} {a : Actor} {r : Option String} {s t : Run}
  {calls calls' : List (Actor × Beginning)} {requests : List String} {trail : List Transition}

/-- The clock never goes back. -/
lemma Step.now_le (hs : T.Step pool a r U) : T.now ≤ U.now := by
  cases hs with
  | cancel => exact le_rfl
  | crew hk | left _ hk => exact hk.now_eq.ge
  | wait ht => exact ht.le

lemma Step.cancelled_mono (hs : T.Step pool a r U) (hc : T.cancelled = true) :
    U.cancelled = true := by
  cases hs with
  | cancel => rfl
  | crew hk | left _ hk => exact hk.cancelled_mono hc
  | wait => exact hc

lemma Later.now_le (h : T.Later pool calls U) : T.now ≤ U.now := by
  induction h with
  | refl => exact le_rfl
  | step _ hs ih => exact ih.trans hs.now_le
  | begin _ _ _ ih | drop _ _ _ ih => exact ih

/-- Calls begin later. -/
lemma Later.le_start (h : T.Later pool calls U) : ∀ c ∈ calls, T.now ≤ c.2.start := by
  induction h with
  | refl => simp
  | @step calls U V a r hr hs ih =>
      intro c hc
      rcases List.mem_append.mp hc with hc | hc
      · exact ih c hc
      · obtain ⟨r, -, rfl⟩ := List.mem_map.mp hc
        exact hr.now_le
  | begin _ _ _ ih | drop _ _ _ ih => exact ih

end Tasks

/-! ## Crews that were left behind -/

namespace Crew

variable {pool : Pool} {c c' : Shared} {k k' : Crew} {called : Option String}

/-- **A crew whose dispatch was dropped**: its token is cancelled, and nobody listens. -/
structure Forsaken (k : Crew) : Prop where
  phase : k.phase = .dropped
  closed : k.closed = true

lemma forsaken_abandon (k : Crew) : k.abandon.Forsaken := ⟨rfl, rfl⟩

lemma Forsaken.stopped (h : k.Forsaken) (c : Shared) : k.stopped c = true := by
  simp [Crew.stopped, h.closed]

lemma Forsaken.listening (h : k.Forsaken) : k.listening = false := by
  simp [Crew.listening, h.phase]

/-- **What a crew that was left behind can still do**: those who have requests in their hands go on,
and the others go. -/
inductive Ebbing (pool : Pool) (c : Shared) (k : Crew) : Option String → Shared → Crew → Prop
  | goOn {i : Nat} {h h' : Hand} {s : Run} (hh : k.hands[i]? = some h) (hd : h.due ≤ c.now)
      (hg : c.run.goOn pool.crawler h = (s, .inl h')) :
      Ebbing pool c k h.pausing? s.shared { k with hands := k.hands.set i h' }
  | finish {i : Nat} {h : Hand} {outcome : Outcome} {s : Run} (hh : k.hands[i]? = some h)
      (hd : h.due ≤ c.now) (hg : c.run.goOn pool.crawler h = (s, .inr outcome)) :
      Ebbing pool c k h.pausing? s.shared { k with
        hands := k.hands.eraseIdx i, outbox := k.outbox ++ [⟨h.request, outcome⟩] }
  | other {k' : Crew} (hh : k'.hands = k.hands) (hp : k'.phase = k.phase)
      (hc : k'.closed = k.closed) : Ebbing pool c k none c k'

lemma Step.ebbing (hs : k.Step pool c called c' k') (h : k.Forsaken) :
    k.Ebbing pool c called c' k' := by
  cases hs with
  | goOn hh hd hg => exact Ebbing.goOn hh hd hg
  | finish hh hd hg => exact Ebbing.finish hh hd hg
  | feed hc | take hc =>
      rw [h.stopped] at hc
      cases hc
  | giveUp _ _ hl | send _ hl =>
      rw [h.listening] at hl
      cases hl
  | release hp | collect hp | close hp | done hp =>
      rw [h.phase] at hp
      cases hp
  | forsake | depart | refuse | leave | unheard => exact Ebbing.other rfl rfl rfl

lemma Ebbing.forsaken (he : k.Ebbing pool c called c' k') (h : k.Forsaken) : k'.Forsaken := by
  cases he with
  | goOn | finish => exact ⟨h.phase, h.closed⟩
  | other hh hp hc => exact ⟨hp.trans h.phase, hc.trans h.closed⟩

end Crew

/-! ## Sound states -/

namespace Tasks

variable {pool : Pool} {T U V : Tasks} {a : Actor} {r : Option String} {s t : Run}
  {calls calls' : List (Actor × Beginning)} {requests : List String} {trail : List Transition}

/-- **What holds of the tasks of a pool**, whatever they have done. -/
structure Sound (pool : Pool) (requests : List String) (T : Tasks) : Prop where
  crew : T.crew.Sound pool requests
  left : ∀ k ∈ T.left, k.Forsaken

lemma sound_fresh (pool : Pool) (now : Nat) : (fresh now).Sound pool [] where
  crew := Crew.sound_vacant pool now
  left := by simp [fresh]

lemma Step.sound (hs : T.Step pool a r U) (h : T.Sound pool requests) : U.Sound pool requests := by
  cases hs with
  | cancel | wait => exact ⟨h.crew, h.left⟩
  | crew hk => exact ⟨hk.sound h.crew, h.left⟩
  | @left i r c k k' hl hk =>
      have hforsaken := h.left k (List.mem_of_getElem? hl)
      refine ⟨h.crew, fun other hm => ?_⟩
      rcases List.mem_or_eq_of_mem_set hm with hm | rfl
      · exact h.left other hm
      · exact (hk.ebbing hforsaken).forsaken hforsaken

lemma Steps.sound (hs : T.Steps pool calls U) (h : T.Sound pool requests) :
    U.Sound pool requests := by
  induction hs with
  | refl => exact h
  | step _ hs ih => exact hs.sound ih

lemma Sound.begin (h : T.Sound pool requests) (requests' : List String) :
    (T.begin pool requests').Sound pool requests' := by
  refine ⟨?_, h.left⟩
  cases requests' with
  | nil => exact Crew.sound_vacant pool T.now
  | cons r rest => exact Crew.sound_start pool (r :: rest)

lemma Sound.drop (h : T.Sound pool requests) : T.drop.Sound pool [] := by
  refine ⟨Crew.sound_vacant pool T.now, fun k hm => ?_⟩
  rcases List.mem_append.mp hm with hm | hm
  · exact h.left k hm
  · rw [List.mem_singleton.mp hm]
    exact T.crew.forsaken_abandon

/-! ## What the pool shows of its tasks -/

/-- What is in the hands of crews that were left. -/
def strays (T : Tasks) : List Hand := T.left.flatMap (·.hands)

/-- **The state of the pool that shows a state of its tasks.** -/
structure Shows (T : Tasks) (s : Run) : Prop where
  shared : s.shared = T.toShared
  waiting : s.waiting = T.crew.waiting
  slot : s.slot = T.crew.slot
  hands : s.hands = T.crew.hands
  strays : s.strays = T.strays
  reported : s.reported.Perm T.crew.sources

lemma Shows.now_eq (h : T.Shows s) : s.now = T.now := congrArg Shared.now h.shared

lemma Shows.cancelled_eq (h : T.Shows s) : s.cancelled = T.cancelled :=
  congrArg Shared.cancelled h.shared

lemma Shows.calls_eq (h : T.Shows s) : s.calls = T.calls := congrArg Shared.calls h.shared

lemma Shows.called_eq (h : T.Shows s) : s.called = T.called :=
  congrArg (List.map Call.request) h.calls_eq

/-- What tasks share after a request has gone on. -/
lemma Shows.goOn_eq {crawler : Crawler} {h : Hand} {v : Run} {next : Hand ⊕ Outcome}
    (hT : T.Shows s)
    (hg : T.toShared.run.goOn crawler h = (v, next)) :
    s.goOn crawler h = (s.share v.shared, next) := by
  rw [Run.goOn_shared, hT.shared, hg]

lemma shows_fresh (now : Nat) : (fresh now).Shows { now := now } :=
  ⟨rfl, rfl, rfl, rfl, rfl, List.Perm.refl _⟩

lemma Shows.begin (hT : T.Shows s) (requests : List String) :
    (T.begin pool requests).Shows (s.begin requests) := by
  cases requests with
  | nil => exact ⟨hT.shared, rfl, rfl, rfl, hT.strays, List.Perm.refl _⟩
  | cons r rest => exact ⟨hT.shared, rfl, rfl, rfl, hT.strays, List.Perm.refl _⟩

lemma Shows.drop (hT : T.Shows s) : T.drop.Shows s.drop := by
  refine ⟨hT.shared, rfl, rfl, rfl, ?_, List.Perm.refl _⟩
  change s.strays ++ s.hands = (T.left ++ [T.crew.abandon]).flatMap (·.hands)
  rw [hT.strays, hT.hands, List.flatMap_append, List.flatMap_singleton]
  rfl

/-- **What a pool does while its tasks do something**: it shows what they do, with the same calls.
-/
structure Follows (pool : Pool) (s : Run) (calls : List (Actor × Beginning)) (U : Tasks)
    (trail : List Transition) (t : Run) : Prop where
  path : pool.Path s trail t
  timely : pool.Timely trail
  shows : U.Shows t
  calls_eq : Pool.calls trail = calls.map (·.2)

/-- Nothing of it may be seen. -/
lemma Follows.none (h : U.Shows s) : ∃ trail t, Follows pool s [] U trail t :=
  ⟨[], s, Path.nil s, timely_nil, h, rfl⟩

/-- It may be one transition. -/
lemma Follows.one {m : Move} (hs : pool.Step s m t) (hw : pool.Wakeful s m) (h : U.Shows t)
    (hc : Pool.calls [⟨s, m, t⟩] = calls.map (·.2)) :
    ∃ trail t, Follows pool s calls U trail t :=
  ⟨[⟨s, m, t⟩], t, Path.cons hs (Path.nil t), timely_cons.mpr ⟨hw, timely_nil⟩, h, hc⟩

/-- Nobody sleeps if no time passes. -/
lemma Follows.at_once {m : Move} (hs : pool.Step s m t) (hm : ∀ w, m ≠ .wait w) (h : U.Shows t)
    (hc : Pool.calls [⟨s, m, t⟩] = calls.map (·.2)) :
    ∃ trail t, Follows pool s calls U trail t :=
  Follows.one hs (fun w hw => absurd hw (hm w)) h hc

/-- The call that begins when a hand goes on, of the crew or of one that was left. -/
lemma begins_eq (hT : T.Shows s) (a : Actor) (h : Hand) :
    (beginning? s (a == .crew) (some h)).toList = (T.begins a h.pausing?).map (·.2) := by
  obtain ⟨r, stage⟩ := h
  cases stage with
  | pausing d => simp [beginning?, begins, Hand.pausing?, hT.now_eq, hT.called_eq]
  | calling k reply d => simp [beginning?, begins, Hand.pausing?]

lemma calls_goOn {i : Nat} {h : Hand} (hT : T.Shows s) (hh : s.hands[i]? = some h) :
    Pool.calls [⟨s, .goOn i, t⟩] = (T.begins .crew h.pausing?).map (·.2) := by
  rw [← begins_eq hT, ← hh, calls_cons]
  exact List.append_nil _

lemma calls_strayOn {i j : Nat} {h : Hand} (hT : T.Shows s) (hh : s.strays[i]? = some h) :
    Pool.calls [⟨s, .strayOn i, t⟩] = (T.begins (.left j) h.pausing?).map (·.2) := by
  rw [← begins_eq hT, ← hh, calls_cons]
  exact List.append_nil _

lemma stopped_eq_false {c : Shared} {k : Crew} (h : k.stopped c = false) : c.cancelled = false := by
  rw [Crew.stopped, Bool.or_eq_false_iff] at h
  exact h.1

/-- Who listens has not cancelled its own token. -/
lemma Sound.cancelled {k : Crew} {c : Shared} (h : k.Sound pool requests)
    (hl : k.listening = true) (hs : k.stopped c = true) : c.cancelled = true := by
  rw [Crew.stopped, h.closed hl, Bool.or_false] at hs
  exact hs

/-- A worker that takes a request was free. -/
lemma Sound.hands_lt {k : Crew} (h : k.Sound pool requests) (hi : 0 < k.idle) :
    k.hands.length < pool.config.workers := by
  have hle := h.staff_le
  rw [Crew.staff] at hle
  omega

/-- **A step of the crew of a dispatch, as the pool shows it.** -/
lemma Shows.crew_step {c : Shared} {k : Crew} (hT : T.Shows s) (h : T.Sound pool requests)
    (hk : T.crew.Step pool T.toShared r c k) :
    ∃ trail t, Follows pool s (T.begins .crew r) { T with toShared := c, crew := k } trail t := by
  have hcancelled := hT.cancelled_eq
  have hsources := hT.reported
  rw [List.perm_iff_count] at hsources
  simp only [Crew.sources, List.count_append] at hsources
  have hlistening := hk.listening h.crew
  cases hk with
  | @feed q rest hc hw hs =>
      have hwaiting : s.waiting = q :: rest := by rw [hT.waiting, Crew.waiting, hw]; rfl
      refine Follows.at_once (Step.feed (hcancelled.trans (stopped_eq_false hc)) (hT.slot.trans hs)
        hwaiting) (by simp) ?_ rfl
      exact ⟨hT.shared, rfl, rfl, hT.hands, hT.strays, hT.reported⟩
  | @giveUp q rest hc hw hl hr =>
      have hwaiting : s.waiting = q :: rest := by rw [hT.waiting, Crew.waiting, hw]; rfl
      refine Follows.at_once (Step.giveUp (hcancelled.trans (Sound.cancelled h.crew hl hc))
        hwaiting) (by simp) ?_ rfl
      refine ⟨hT.shared, rfl, hT.slot, hT.hands, hT.strays, List.perm_iff_count.mpr fun x => ?_⟩
      simp only [Run.report, Crew.sources, List.count_append, hsources x]
      omega
  | forsake hc hw hf =>
      rcases hf with hl | hfull
      · simp [hlistening] at hl
      · have hroom := h.crew.channel_lt_room (by simp [Crew.waiting, hw])
        omega
  | depart hw =>
      refine Follows.none ⟨hT.shared, ?_, hT.slot, hT.hands, hT.strays, hT.reported⟩
      rw [hT.waiting, Crew.waiting, hw]
      rfl
  | @take q hc hs hi =>
      have hf : s.hands.length < pool.config.workers := hT.hands ▸ Sound.hands_lt h.crew hi
      refine Follows.at_once (Step.take (hcancelled.trans (stopped_eq_false hc)) (hT.slot.trans hs)
        hf) (by simp) ?_ rfl
      refine ⟨hT.shared, hT.waiting, rfl, ?_, hT.strays, hT.reported⟩
      simp only [hT.hands, hT.now_eq]
  | @refuse q hc hs hi =>
      have hf : s.hands.length < pool.config.workers := hT.hands ▸ Sound.hands_lt h.crew hi
      refine Follows.at_once (Step.refuse (hcancelled.trans (Sound.cancelled h.crew hlistening hc))
        (hT.slot.trans hs) hf) (by simp) ?_ rfl
      refine ⟨hT.shared, hT.waiting, rfl, hT.hands, hT.strays, List.perm_iff_count.mpr fun x => ?_⟩
      simp only [Run.report, Crew.sources, List.count_append, hsources x]
      omega
  | @goOn i hand next v hh hd hg =>
      have hh' : s.hands[i]? = some hand := hT.hands ▸ hh
      have hd' : hand.due ≤ s.now := hT.now_eq ▸ hd
      have hafter : s.after? pool (.goOn i)
          = some { s.share v.shared with hands := s.hands.set i next } := by
        simp only [Run.after?, hh', hd', ↓reduceIte, hT.goOn_eq hg]
        rfl
      refine Follows.at_once (step_of_after? hafter) (by simp) ?_ (calls_goOn hT hh')
      exact ⟨rfl, hT.waiting, hT.slot, congrArg (·.set i next) hT.hands, hT.strays, hT.reported⟩
  | @finish i hand outcome v hh hd hg =>
      have hh' : s.hands[i]? = some hand := hT.hands ▸ hh
      have hd' : hand.due ≤ s.now := hT.now_eq ▸ hd
      have hafter : s.after? pool (.goOn i)
          = some ({ s.share v.shared with hands := s.hands.eraseIdx i }.report
              ⟨hand.request, outcome⟩) := by
        simp only [Run.after?, hh', hd', ↓reduceIte, hT.goOn_eq hg]
        rfl
      refine Follows.at_once (step_of_after? hafter) (by simp) ?_ (calls_goOn hT hh')
      refine ⟨rfl, hT.waiting, hT.slot, congrArg (·.eraseIdx i) hT.hands, hT.strays,
        List.perm_iff_count.mpr fun x => ?_⟩
      simp only [Run.report, Run.share, Crew.sources, List.count_append, hsources x]
      omega
  | @send i source ho hl hr =>
      obtain ⟨l, l', hx, -, he, -⟩ := Pool.exists_split ho
      refine Follows.none ⟨hT.shared, hT.waiting, hT.slot, hT.hands, hT.strays,
        List.perm_iff_count.mpr fun x => ?_⟩
      simp only [Crew.sources, hsources x, he, List.count_append]
      simp only [hx, List.count_append, List.count_cons, List.count_nil]
      omega
  | unheard ho hl => simp [hlistening] at hl
  | collect hp hs hc =>
      refine Follows.none ⟨hT.shared, hT.waiting, hT.slot, hT.hands, hT.strays,
        List.perm_iff_count.mpr fun x => ?_⟩
      simp only [Crew.sources, hsources x, hc, List.map_append, List.map_cons, List.map_nil,
        List.count_append, List.count_cons, List.count_nil]
      omega
  | leave | release | close | done =>
      exact Follows.none ⟨hT.shared, hT.waiting, hT.slot, hT.hands, hT.strays, hT.reported⟩

/-- The place among all strays of what a crew that was left has in its hands. -/
def strayPlace (T : Tasks) (j i : Nat) : Nat := ((T.left.take j).flatMap (·.hands)).length + i

lemma strays_place {i j : Nat} {k : Crew} {h : Hand} (hl : T.left[j]? = some k)
    (hh : k.hands[i]? = some h) : T.strays[T.strayPlace j i]? = some h ∧
      (∀ k' : Crew, ∀ h', k'.hands = k.hands.set i h' →
        (T.left.set j k').flatMap (·.hands) = T.strays.set (T.strayPlace j i) h') ∧
      ∀ k' : Crew, k'.hands = k.hands.eraseIdx i →
        (T.left.set j k').flatMap (·.hands) = T.strays.eraseIdx (T.strayPlace j i) := by
  obtain ⟨before, after, hx, hset, -, hj⟩ := Pool.exists_split hl
  obtain ⟨l, l', hy, hset', herase, hi⟩ := Pool.exists_split hh
  set pre := before.flatMap (·.hands) ++ l with hpre
  set post := l' ++ after.flatMap (·.hands) with hpost
  have hall : T.strays = pre ++ h :: post := by
    simp [strays, hx, hy, hpre, hpost]
  have hplace : T.strayPlace j i = pre.length := by
    rw [strayPlace, hx, ← hj, List.take_left, hpre, List.length_append, hi]
  rw [hplace]
  refine ⟨by simp [hall], fun k' h' hk' => ?_, fun k' hk' => ?_⟩
  · rw [hall, hset, List.set_append_right _ _ le_rfl, Nat.sub_self, List.set_cons_zero]
    simp [hk', hset', hpre, hpost]
  · rw [hall, hset, List.eraseIdx_append_of_length_le le_rfl, Nat.sub_self, List.eraseIdx_zero,
      List.tail_cons]
    simp [hk', herase, hpre, hpost]

/-- **A step of a crew that was left, as the pool shows it.** -/
lemma Shows.left_step {j : Nat} {c : Shared} {k k' : Crew} (hT : T.Shows s)
    (hl : T.left[j]? = some k) (hk : k.Ebbing pool T.toShared r c k') :
    ∃ trail t, Follows pool s (T.begins (.left j) r)
      { T with toShared := c, left := T.left.set j k' } trail t := by
  cases hk with
  | @goOn i hand next v hh hd hg =>
      obtain ⟨hn, hset, -⟩ := strays_place hl hh
      have hh' : s.strays[T.strayPlace j i]? = some hand := hT.strays ▸ hn
      have hd' : hand.due ≤ s.now := hT.now_eq ▸ hd
      have hafter : s.after? pool (.strayOn (T.strayPlace j i))
          = some { s.share v.shared with strays := s.strays.set (T.strayPlace j i) next } := by
        simp only [Run.after?, hh', hd', ↓reduceIte, hT.goOn_eq hg]
        rfl
      refine Follows.at_once (step_of_after? hafter) (by simp) ?_ (calls_strayOn hT hh')
      refine ⟨rfl, hT.waiting, hT.slot, hT.hands, ?_, hT.reported⟩
      refine (congrArg (·.set (T.strayPlace j i) next) hT.strays).trans
        (hset { k with hands := k.hands.set i next } next rfl).symm
  | @finish i hand outcome v hh hd hg =>
      obtain ⟨hn, -, herase⟩ := strays_place hl hh
      have hh' : s.strays[T.strayPlace j i]? = some hand := hT.strays ▸ hn
      have hd' : hand.due ≤ s.now := hT.now_eq ▸ hd
      have hafter : s.after? pool (.strayOn (T.strayPlace j i))
          = some { s.share v.shared with strays := s.strays.eraseIdx (T.strayPlace j i) } := by
        simp only [Run.after?, hh', hd', ↓reduceIte, hT.goOn_eq hg]
        rfl
      refine Follows.at_once (step_of_after? hafter) (by simp) ?_ (calls_strayOn hT hh')
      refine ⟨rfl, hT.waiting, hT.slot, hT.hands, ?_, hT.reported⟩
      refine (congrArg (·.eraseIdx (T.strayPlace j i)) hT.strays).trans (herase { k with
        hands := k.hands.eraseIdx i, outbox := k.outbox ++ [⟨hand.request, outcome⟩] } rfl).symm
  | other hh hp hc =>
      refine Follows.none ⟨hT.shared, hT.waiting, hT.slot, hT.hands, ?_, hT.reported⟩
      obtain ⟨before, after, hx, hset, -, -⟩ := Pool.exists_split hl
      rw [hT.strays]
      simp only [Tasks.strays, hset]
      simp only [hx, List.flatMap_append, List.flatMap_cons, hh]

/-! ## Waiting -/

end Tasks

namespace Crew

variable {pool : Pool} {c : Shared} {k : Crew} {requests : List String}

/-- A hand whose stage is over can go on. -/
lemma not_quiet_of_due {i : Nat} {h : Hand} (hh : k.hands[i]? = some h) (hd : h.due ≤ c.now) :
    ¬k.Quiet pool c := by
  intro hq
  rcases hg : c.run.goOn pool.crawler h with ⟨s, h' | outcome⟩
  · exact hq _ _ _ (Step.goOn hh hd hg)
  · exact hq _ _ _ (Step.finish hh hd hg)

/-- In a quiet crew no stage is over. -/
lemma Quiet.lt_due (hq : k.Quiet pool c) : ∀ h ∈ k.hands, c.now < h.due := by
  intro h hm
  obtain ⟨i, hi⟩ := List.mem_iff_getElem?.mp hm
  by_contra hlt
  exact not_quiet_of_due hi (by omega) hq

/-- Nobody of a quiet crew has a source to send. -/
lemma Quiet.outbox_eq_nil (hq : k.Quiet pool c) (h : k.Sound pool requests) : k.outbox = [] := by
  by_contra hne
  obtain ⟨source, rest, ho⟩ := List.exists_cons_of_ne_nil hne
  have hget : k.outbox[0]? = some source := by simp [ho]
  cases hl : k.listening with
  | true => exact hq _ _ _ (Step.send hget hl (h.channel_lt_room (by simp [ho])))
  | false => exact hq _ _ _ (Step.unheard hget hl)

/-- **A quiet crew whose queue is filled has all workers at work.** -/
lemma Quiet.hands_of_slot (hq : k.Quiet pool c) (h : k.Sound pool requests) (hs : k.slot.isSome) :
    k.hands.length = pool.config.workers := by
  obtain ⟨r, hr⟩ := Option.isSome_iff_exists.mp hs
  have hstaff := h.staff_eq (.inl (by simp [hr]))
  have hidle : k.idle = 0 := by
    by_contra hpos
    cases hc : k.stopped c with
    | true => exact hq _ _ _ (Step.refuse hc hr (by omega))
    | false => exact hq _ _ _ (Step.take hc hr (by omega))
  rw [staff, hidle, hq.outbox_eq_nil h] at hstaff
  simpa using hstaff

/-- **The feeder of a quiet crew has filled the queue**, and is not cancelled. -/
lemma Quiet.fed (hq : k.Quiet pool c) (h : k.Sound pool requests) (hw : k.waiting ≠ []) :
    c.cancelled = false ∧ k.slot.isSome := by
  obtain ⟨r, rest, hfeeder⟩ : ∃ r rest, k.feeder = some (r :: rest) := by
    cases hf : k.feeder with
    | none => simp [waiting, hf] at hw
    | some held =>
        cases held with
        | nil => simp [waiting, hf] at hw
        | cons r rest => exact ⟨r, rest, rfl⟩
  cases hc : k.stopped c with
  | true =>
      cases hl : k.listening with
      | true => exact absurd (Step.giveUp hc hfeeder hl (h.channel_lt_room (by
          simp [waiting, hfeeder]))) (hq _ _ _)
      | false => exact absurd (Step.forsake hc hfeeder (.inl hl)) (hq _ _ _)
  | false =>
      refine ⟨Tasks.stopped_eq_false hc, ?_⟩
      rw [Option.isSome_iff_ne_none]
      exact fun hs => hq _ _ _ (Step.feed hc hfeeder hs)

/-- **A crew that has not come to its end is not quiet, or has a request in its hands.** -/
lemma Quiet.hands_ne_nil (hq : k.Quiet pool c) (h : k.Sound pool requests)
    (hl : k.listening = true) : k.hands ≠ [] := by
  intro hhands
  have hworkers := pool.config.workers_pos
  have houtbox := hq.outbox_eq_nil h
  have hslot : k.slot = none := by
    by_contra hne
    have hall := hq.hands_of_slot h (Option.isSome_iff_ne_none.mpr hne)
    rw [hhands, List.length_nil] at hall
    omega
  have hwaiting : k.waiting = [] := by
    by_contra hne
    have hsome := (hq.fed h hne).2
    rw [hslot] at hsome
    cases hsome
  have hfeeder : k.feeder = none := by
    cases hf : k.feeder with
    | none => rfl
    | some held =>
        obtain rfl : held = [] := by simpa [waiting, hf] using hwaiting
        exact absurd (Step.depart hf) (hq _ _ _)
  have hidle : k.idle = 0 := by
    by_contra hpos
    exact hq _ _ _ (Step.leave hslot hfeeder (by omega))
  have hstaff : k.staff = 0 := by simp [staff, hidle, hhands, houtbox]
  -- all senders but the first one are gone, so the dispatch can do something
  cases hp : k.phase with
  | collecting =>
      cases hs : k.starter with
      | true => exact hq _ _ _ (Step.release hp hs)
      | false =>
          cases hc : k.channel with
          | nil => exact hq _ _ _ (Step.close hp hs hc (by simp [senders, hs, hfeeder, hstaff]))
          | cons source rest => exact hq _ _ _ (Step.collect hp hs hc)
  | joining => exact hq _ _ _ (Step.done hp hstaff)
  | returned t | dropped => simp [listening, hp] at hl

end Crew

namespace Tasks

variable {pool : Pool} {T U V : Tasks} {a : Actor} {r : Option String} {s t : Run}
  {calls calls' : List (Actor × Beginning)} {requests : List String} {trail : List Transition}

/-- **When all tasks are quiet it is patient to wait.** -/
lemma Shows.patient (hT : T.Shows s) (h : T.Sound pool requests)
    (hq : ∀ k ∈ T.crews, k.Quiet pool T.toShared) {w : Nat}
    (hd : ∀ k ∈ T.crews, ∀ h ∈ k.hands, w ≤ h.due) : pool.Patient s w := by
  obtain ⟨hcrew, -⟩ := List.forall_mem_cons.mp hq
  obtain ⟨hown, hleft⟩ := List.forall_mem_cons.mp hd
  refine ⟨fun hs => ?_, fun hw => ?_, fun hand hm => ?_, fun hand hm => ?_⟩
  · rw [hT.slot] at hs
    rw [hT.hands, hcrew.hands_of_slot h.crew hs]
  · rw [hT.waiting] at hw
    rw [hT.cancelled_eq, hT.slot]
    exact hcrew.fed h.crew hw
  · rw [hT.hands] at hm
    exact hown hand hm
  · rw [hT.strays, Tasks.strays, List.mem_flatMap] at hm
    obtain ⟨k, hk, hm⟩ := hm
    exact hleft k hk hand hm

/-- **Each step of the tasks is a transition of the pool, or cannot be seen.** -/
lemma Step.path (hs : T.Step pool a r U) (h : T.Sound pool requests) (hT : T.Shows s) :
    ∃ trail t, Follows pool s (T.begins a r) U trail t := by
  cases hs with
  | cancel hc =>
      refine Follows.at_once (Pool.Step.cancel (hT.cancelled_eq.trans hc)) (by simp) ?_ rfl
      refine ⟨?_, hT.waiting, hT.slot, hT.hands, hT.strays, hT.reported⟩
      exact congrArg (fun c => { c with cancelled := true }) hT.shared
  | crew hk => exact hT.crew_step h hk
  | left hl hk => exact hT.left_step hl (hk.ebbing (h.left _ (List.mem_of_getElem? hl)))
  | @wait w ht hq hd =>
      refine Follows.one (Pool.Step.wait (hT.now_eq.trans_lt ht)) ?_ ?_ rfl
      · rintro _ ⟨⟩
        exact hT.patient h hq hd
      · refine ⟨?_, hT.waiting, hT.slot, hT.hands, hT.strays, hT.reported⟩
        exact congrArg (fun c => { c with now := w }) hT.shared

/-- **Whatever the tasks of a dispatch do, the pool does in time**, with the same calls. -/
lemma Steps.path (hs : T.Steps pool calls U) (h : T.Sound pool requests) (hT : T.Shows s) :
    ∃ trail t, Follows pool s calls U trail t := by
  induction hs with
  | refl => exact Follows.none hT
  | step hr hs ih =>
      obtain ⟨trail, t, hfirst⟩ := ih
      obtain ⟨trail', t', hlast⟩ := hs.path (hr.sound h) hfirst.shows
      refine ⟨trail ++ trail', t', hfirst.path.append hlast.path,
        timely_append.mpr ⟨hfirst.timely, hlast.timely⟩, hlast.shows, ?_⟩
      rw [Pool.calls_append, hfirst.calls_eq, hlast.calls_eq, List.map_append]

/-- **What is known of every state that the tasks of a pool come into.** -/
structure Reached (pool : Pool) (requests : List String) (T : Tasks) (s : Run) : Prop where
  sound : T.Sound pool requests
  shows : T.Shows s
  accounted : pool.Accounted s

lemma reached_fresh (pool : Pool) (now : Nat) : Reached pool [] (fresh now) { now := now } where
  sound := sound_fresh pool now
  shows := shows_fresh now
  accounted := ⟨trivial, List.Perm.refl _, by simp [Early], by simp [Early]⟩

/-- Nobody has a request when a dispatch has returned. -/
lemma Reached.isDone {time : Nat} (h : Reached pool requests T s)
    (hp : T.crew.phase = .returned time) : s.isDone = true := by
  have hgone := h.sound.crew.gone (by simp [hp])
  rw [isDone_iff, h.shows.waiting, h.shows.slot, h.shows.hands]
  exact ⟨hgone.waiting, hgone.slot, hgone.hands⟩

lemma Reached.begin {time : Nat} (h : Reached pool requests T s)
    (hp : T.crew.phase = .returned time) (requests' : List String) :
    Reached pool requests' (T.begin pool requests') (s.begin requests') :=
  ⟨h.sound.begin requests', h.shows.begin requests', h.accounted.begin (h.isDone hp) requests'⟩

lemma Reached.drop (h : Reached pool requests T s) : Reached pool [] T.drop s.drop :=
  ⟨h.sound.drop, h.shows.drop, h.accounted.drop⟩

lemma Steps.reached (hs : T.Steps pool calls U) (h : Reached pool requests T s) :
    ∃ trail t, Follows pool s calls U trail t ∧ Reached pool requests U t := by
  obtain ⟨trail, t, hfollows⟩ := hs.path h.sound h.shows
  exact ⟨trail, t, hfollows, hs.sound h.sound, hfollows.shows,
    hfollows.path.accounted hfollows.timely h.accounted⟩

lemma Later.reached (hs : T.Later pool calls U) (h : Reached pool requests T s) :
    ∃ requests' t, Reached pool requests' U t := by
  induction hs with
  | refl => exact ⟨requests, s, h⟩
  | step hr hs ih =>
      obtain ⟨requests', t, ht⟩ := ih
      obtain ⟨-, t', -, ht'⟩ := (Steps.single hs).reached ht
      exact ⟨requests', t', ht'⟩
  | begin hr hp requests' ih =>
      obtain ⟨_, t, ht⟩ := ih
      exact ⟨requests', _, ht.begin hp requests'⟩
  | drop hr hl hs ih =>
      obtain ⟨_, t, ht⟩ := ih
      exact ⟨[], _, ht.drop⟩

end Tasks

end PageCrawl
