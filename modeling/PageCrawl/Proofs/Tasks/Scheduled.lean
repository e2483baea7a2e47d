import PageCrawl.Proofs.Pool.LastReport
import PageCrawl.Proofs.Tasks.Completion

/-!
# What the pool does, its tasks can do

`Tasks.Steps.path` says that the pool shows whatever its tasks do.  The other way round, every
timely path of the pool is an execution of its tasks (`Tasks.Rests.path`), so what `Pool.dispatch`
computes is what the tasks of a dispatch do when nothing is left lying: whoever has a source sends
it at once, the dispatch collects it, and whoever can go goes.  Between two moves of the pool the
tasks are then at rest (`Tasks.Rests`).  A crew comes to rest by the steps of `Crew.exists_tidy`, a
crew that was left by those of `Crew.exists_resting`, and when all are at rest no task can do
anything unless the pool can (`Tasks.Rests.quiet`).
-/

namespace PageCrawl

open Pool

/-! ## Coming to rest -/

namespace Crew

variable {pool : Pool} {c : Shared} {k k' : Crew} {requests : List String}

/-- Steps of a crew by which no call begins or ends. -/
def Tidies (pool : Pool) (c : Shared) : Crew → Crew → Prop :=
  Relation.ReflTransGen fun k k' => k.Step pool c none c k'

/-- Of a crew that was left only those are there who have requests in their hands. -/
structure Resting (k : Crew) : Prop where
  feeder : k.feeder = none
  idle : k.idle = 0
  outbox : k.outbox = []

/-- **A crew that was left comes to rest.** -/
lemma exists_resting (pool : Pool) (c : Shared) (h : k.Forsaken) :
    ∃ k', Tidies pool c k k' ∧ k'.Resting ∧ k'.hands = k.hands := by
  induction hw : k.work using Nat.strong_induction_on generalizing k with
  | _ w ih =>
      have hgo : ∀ k₁, k.Step pool c none c k₁ → k₁.hands = k.hands →
          ∃ k', Tidies pool c k k' ∧ k'.Resting ∧ k'.hands = k.hands := by
        intro k₁ hs hh
        obtain ⟨k', ht, hrest, hhands⟩ :=
          ih k₁.work (hw ▸ hs.work_lt) ((hs.ebbing h).forsaken h) rfl
        exact ⟨k', Relation.ReflTransGen.head hs ht, hrest, hhands.trans hh⟩
      cases ho : k.outbox with
      | cons source rest =>
          have hget : k.outbox[0]? = some source := by simp [ho]
          exact hgo _ (Step.unheard hget h.listening) rfl
      | nil =>
          cases hf : k.feeder with
          | some held =>
              cases held with
              | nil => exact hgo _ (Step.depart hf) rfl
              | cons r rest => exact hgo _ (Step.forsake (h.stopped c) hf (.inl h.listening)) rfl
          | none =>
              rcases Nat.eq_zero_or_pos k.idle with hi | hi
              · exact ⟨k, Relation.ReflTransGen.refl, ⟨hf, hi, ho⟩, rfl⟩
              · cases hs : k.slot with
                | none => exact hgo _ (Step.leave hs hf hi) rfl
                | some r => exact hgo _ (Step.refuse (h.stopped c) hs hi) rfl

/-- **A crew that keeps no source back**: what was reported is collected. -/
structure Loose (k : Crew) : Prop where
  starter : k.starter = false
  outbox : k.outbox = []
  channel : k.channel = []
  phase : k.phase = .collecting ∨ ∃ time, k.phase = .returned time

/-- **A crew at rest**: whoever could go has gone. -/
structure Tidy (k : Crew) : Prop extends Loose k where
  feeder : k.feeder ≠ some []
  idle : k.slot = none → k.feeder = none → k.idle = 0
  unfinished : k.phase = .collecting → k.waiting ≠ [] ∨ k.slot ≠ none ∨ k.hands ≠ []

/-- The same requests and sources are in the same places. -/
structure Same (k k' : Crew) : Prop where
  waiting : k'.waiting = k.waiting
  slot : k'.slot = k.slot
  hands : k'.hands = k.hands
  collected : k'.collected = k.collected

lemma Same.refl (k : Crew) : Same k k := ⟨rfl, rfl, rfl, rfl⟩

lemma Same.trans {k₁ k₂ k₃ : Crew} (h : Same k₁ k₂) (h' : Same k₂ k₃) : Same k₁ k₃ :=
  ⟨h'.waiting.trans h.waiting, h'.slot.trans h.slot, h'.hands.trans h.hands,
    h'.collected.trans h.collected⟩

lemma Gone.tidy {time : Nat} (h : k.Gone) (hp : k.phase = .returned time) : k.Tidy where
  starter := h.starter
  outbox := h.outbox
  channel := h.channel
  phase := .inr ⟨time, hp⟩
  feeder := by simp [h.feeder]
  idle _ _ := h.idle
  unfinished hc := by
    rw [hp] at hc
    cases hc

/-- Where everybody is gone a dispatch closes its channel and returns. -/
lemma exists_returned (hk : k.Sound pool requests) (hl : k.Loose) (hp : k.phase = .collecting)
    (hfeeder : k.feeder = none) (hidle : k.idle = 0) (hhands : k.hands = []) :
    ∃ k', Tidies pool c k k' ∧ k'.Tidy ∧ Same k k' ∧ k'.phase = .returned c.now := by
  have hstaff : k.staff = 0 := by simp [staff, hidle, hhands, hl.outbox]
  have hclose : k.Step pool c none c { k with phase := .joining } :=
    Step.close hp hl.starter hl.channel (by simp [senders, hl.starter, hfeeder, hstaff])
  have hdone : ({ k with phase := .joining } : Crew).Step pool c none c
      { k with closed := true, phase := .returned c.now } := Step.done rfl hstaff
  have hsound := hdone.sound (hclose.sound hk)
  exact ⟨_, Relation.ReflTransGen.head hclose (Relation.ReflTransGen.single hdone),
    (hsound.gone (by simp)).tidy rfl, ⟨rfl, rfl, rfl, rfl⟩, rfl⟩

/-- **The crew of a dispatch comes to rest**, and returns if nobody has anything any more. -/
lemma exists_tidy (hk : k.Sound pool requests) (hl : k.Loose) :
    ∃ k', Tidies pool c k k' ∧ k'.Tidy ∧ Same k k' ∧
      (k'.phase = k.phase ∨ k'.phase = .returned c.now) := by
  induction hw : k.work using Nat.strong_induction_on generalizing k with
  | _ w ih =>
      rcases hl.phase with hp | ⟨time, hp⟩
      · have hgo : ∀ k₁, k.Step pool c none c k₁ → k₁.Loose → Same k k₁ → k₁.phase = k.phase →
            ∃ k', Tidies pool c k k' ∧ k'.Tidy ∧ Same k k' ∧
              (k'.phase = k.phase ∨ k'.phase = .returned c.now) := by
          intro k₁ hs hl₁ hsame hphase
          obtain ⟨k', ht, htidy, hsame', hp'⟩ :=
            ih k₁.work (hw ▸ hs.work_lt) (hs.sound hk) hl₁ rfl
          exact ⟨k', Relation.ReflTransGen.head hs ht, htidy, hsame.trans hsame', hphase ▸ hp'⟩
        by_cases hf : k.feeder = some []
        · refine hgo _ (Step.depart hf) ⟨hl.starter, hl.outbox, hl.channel, hl.phase⟩ ?_ rfl
          exact ⟨by simp [waiting, hf], rfl, rfl, rfl⟩
        · by_cases hi : k.slot = none ∧ k.feeder = none ∧ 0 < k.idle
          · exact hgo _ (Step.leave hi.1 hi.2.1 hi.2.2)
              ⟨hl.starter, hl.outbox, hl.channel, hl.phase⟩ ⟨rfl, rfl, rfl, rfl⟩ rfl
          · by_cases hopen : k.waiting ≠ [] ∨ k.slot ≠ none ∨ k.hands ≠ []
            · refine ⟨k, Relation.ReflTransGen.refl, ⟨hl, hf, fun hs hw => ?_, fun _ => hopen⟩,
                Same.refl k, .inl rfl⟩
              by_contra hne
              exact hi ⟨hs, hw, by omega⟩
            · push Not at hopen
              obtain ⟨hwaiting, hslot, hhands⟩ := hopen
              have hfeeder : k.feeder = none := by
                cases hheld : k.feeder with
                | none => rfl
                | some held =>
                    obtain rfl : held = [] := by simpa [waiting, hheld] using hwaiting
                    exact absurd hheld hf
              have hidle : k.idle = 0 := by
                by_contra hne
                exact hi ⟨hslot, hfeeder, by omega⟩
              obtain ⟨k', ht, htidy, hsame, hreturned⟩ :=
                exists_returned (c := c) hk hl hp hfeeder hidle hhands
              exact ⟨k', ht, htidy, hsame, .inr hreturned⟩
      · exact ⟨k, Relation.ReflTransGen.refl, (hk.gone (by simp [hp])).tidy hp, Same.refl k,
          .inl rfl⟩

end Crew

namespace Tasks

variable {pool : Pool} {T U V : Tasks} {a : Actor} {r : Option String} {s t : Run} {m : Move}
  {calls calls' : List (Actor × Beginning)} {requests : List String} {trail : List Transition}

lemma Steps.tidy {k : Crew} (h : Crew.Tidies pool T.toShared T.crew k) :
    T.Steps pool [] { T with crew := k } := by
  induction h with
  | refl => exact Steps.refl
  | @tail k k' _ hs ih => exact ih.step (U := { T with crew := k }) (Step.crew hs)

lemma Steps.rest {i : Nat} {k k' : Crew} (hl : T.left[i]? = some k)
    (h : Crew.Tidies pool T.toShared k k') :
    T.Steps pool [] { T with left := T.left.set i k' } := by
  induction h with
  | refl =>
      have hsame : T.left.set i k = T.left := by
        obtain ⟨l, l', hx, hset, -, -⟩ := exists_split hl
        rw [hset, hx]
      rw [hsame]
      exact Steps.refl
  | @tail k₁ k₂ _ hs ih =>
      obtain ⟨hi, -⟩ := List.getElem?_eq_some_iff.mp hl
      have hget : (T.left.set i k₁)[i]? = some k₁ := by simp [hi]
      have hstep := ih.step (Step.left (T := { T with left := T.left.set i k₁ }) hget hs)
      simpa only [List.set_set, begins_none, List.append_nil] using hstep

/-! ## Being at rest -/

/-- **The tasks are at rest, and the pool shows them**: the sources were collected in the order in
which the pool reported them, and whoever could go has gone. -/
structure Rests (pool : Pool) (T : Tasks) (s : Run) : Prop extends Shows T s where
  sound : ∃ requests, T.Sound pool requests
  tidy : T.crew.Tidy
  collected : T.crew.collected.map (·.2) = s.reported
  resting : ∀ k ∈ T.left, k.Resting

lemma rests_fresh (pool : Pool) (now : Nat) : Rests pool (fresh now) { now := now } where
  toShows := shows_fresh now
  sound := ⟨[], sound_fresh pool now⟩
  tidy := Crew.Gone.tidy ⟨rfl, rfl, rfl, rfl, rfl, rfl, rfl⟩ rfl
  collected := rfl
  resting := by simp [fresh]

/-- A crew that keeps nothing back comes to rest without anything that could be seen. -/
lemma Shows.rests (hT : T.Shows s) (hs : T.Sound pool requests) (hl : T.crew.Loose)
    (hc : T.crew.collected.map (·.2) = s.reported) (hr : ∀ k ∈ T.left, k.Resting) :
    ∃ U, T.Steps pool [] U ∧ Rests pool U s ∧
      (U.crew.phase = T.crew.phase ∨ U.crew.phase = .returned s.now) := by
  obtain ⟨k, htidies, htidy, hsame, hphase⟩ := Crew.exists_tidy (c := T.toShared) hs.crew hl
  have hsteps := Steps.tidy htidies
  refine ⟨{ T with crew := k }, hsteps, ⟨⟨hT.shared, ?_, ?_, ?_, hT.strays, ?_⟩,
    ⟨requests, hsteps.sound hs⟩, htidy, ?_, hr⟩, ?_⟩
  · rw [hT.waiting, hsame.waiting]
  · rw [hT.slot, hsame.slot]
  · rw [hT.hands, hsame.hands]
  · rw [Crew.sources, htidy.outbox, htidy.channel, hsame.collected, hc]
    exact List.Perm.refl _
  · rw [hsame.collected, hc]
  · rwa [hT.now_eq]

/-- What is in the channel is collected. -/
lemma Shows.rests_sent {source : PageSource} (hT : T.Shows s) (hs : T.Sound pool requests)
    (hp : T.crew.phase = .collecting) (hr : T.crew.starter = false) (ho : T.crew.outbox = [])
    (hch : T.crew.channel = [source]) (hc : T.crew.collected.map (·.2) ++ [source] = s.reported)
    (hl : ∀ k ∈ T.left, k.Resting) :
    ∃ U, T.Steps pool [] U ∧ Rests pool U s ∧
      (U.crew.phase = .collecting ∨ U.crew.phase = .returned s.now) := by
  have hk : T.crew.Step pool T.toShared none T.toShared _ := Crew.Step.collect hp hr hch
  have hstep := Step.crew hk
  have hshows : Shows { T with crew := { T.crew with
      channel := []
      collected := T.crew.collected ++ [(T.now, source)]
      error := source.error?.or T.crew.error } } s :=
    ⟨hT.shared, hT.waiting, hT.slot, hT.hands, hT.strays, by simp [Crew.sources, ho, ← hc]⟩
  obtain ⟨U, hsteps, hrests, hphase⟩ :=
    hshows.rests (hstep.sound hs) ⟨hr, ho, rfl, .inl hp⟩ (by simp [← hc]) hl
  exact ⟨U, (Steps.single hstep).trans hsteps, hrests, hp ▸ hphase⟩

/-- What a worker has to send is sent and collected. -/
lemma Shows.rests_sending {source : PageSource} (hT : T.Shows s) (hs : T.Sound pool requests)
    (hp : T.crew.phase = .collecting) (hr : T.crew.starter = false)
    (ho : T.crew.outbox = [source]) (hch : T.crew.channel = [])
    (hc : T.crew.collected.map (·.2) ++ [source] = s.reported) (hl : ∀ k ∈ T.left, k.Resting) :
    ∃ U, T.Steps pool [] U ∧ Rests pool U s ∧
      (U.crew.phase = .collecting ∨ U.crew.phase = .returned s.now) := by
  have hget : T.crew.outbox[0]? = some source := by simp [ho]
  have hroom := hs.crew.channel_lt_room (by simp [ho])
  have hk : T.crew.Step pool T.toShared none T.toShared _ :=
    Crew.Step.send hget (Crew.listening_of_collecting hp) hroom
  rw [ho, hch] at hk
  have hstep := Step.crew hk
  have hshows : Shows { T with crew := { T.crew with
      outbox := [], channel := [source], idle := T.crew.idle + 1 } } s :=
    ⟨hT.shared, hT.waiting, hT.slot, hT.hands, hT.strays, by
      simp [Crew.sources, ← hc]⟩
  obtain ⟨U, hsteps, hrests, hphase⟩ :=
    hshows.rests_sent (hstep.sound hs) hp hr rfl rfl hc hl
  exact ⟨U, (Steps.single hstep).trans hsteps, hrests, hphase⟩

/-! ## Moves of the pool -/

/-- **What the tasks do while the pool goes a path**: they come to rest again, with the same calls.
If the batch was not done before, its dispatch still collects or has returned just now. -/
structure Carries (pool : Pool) (T : Tasks) (s : Run) (trail : List Transition) (t : Run)
    (calls : List (Actor × Beginning)) (U : Tasks) : Prop where
  steps : T.Steps pool calls U
  rests : Rests pool U t
  calls_eq : calls.map (·.2) = Pool.calls trail
  phase : s.isDone = false → U.crew.phase = .collecting ∨ U.crew.phase = .returned t.now

/-- The feeder holds what the pool says. -/
lemma Shows.feeder {q : String} {rest : List String} (hT : T.Shows s) (hw : s.waiting = q :: rest) :
    T.crew.feeder = some (q :: rest) := by
  rw [hT.waiting, Crew.waiting] at hw
  cases hf : T.crew.feeder with
  | none => simp [hf] at hw
  | some held => simpa [hf] using hw

/-- A dispatch of which somebody has a request collects. -/
lemma Rests.collecting (h : Rests pool T s) (hd : s.isDone = false) :
    T.crew.phase = .collecting := by
  obtain ⟨requests, hs⟩ := h.sound
  rcases h.tidy.phase with hp | ⟨time, hp⟩
  · exact hp
  · have hgone := hs.crew.gone (by simp [hp])
    have hdone : s.isDone = true := by
      rw [isDone_iff, h.waiting, h.slot, h.hands]
      exact ⟨hgone.waiting, hgone.slot, hgone.hands⟩
    rw [hd] at hdone
    cases hdone

/-- Whether requests are still to be taken. -/
lemma Rests.stopped_eq (h : Rests pool T s) (hd : s.isDone = false) :
    T.crew.stopped T.toShared = s.cancelled := by
  obtain ⟨requests, hs⟩ := h.sound
  rw [Crew.stopped, hs.crew.closed (Crew.listening_of_collecting (h.collecting hd)),
    Bool.or_false, h.cancelled_eq]

/-- A worker is free if the pool says so. -/
lemma Rests.idle_pos (h : Rests pool T s) (hs : s.slot ≠ none)
    (hf : s.hands.length < pool.config.workers) : 0 < T.crew.idle := by
  obtain ⟨requests, hsound⟩ := h.sound
  have hstaff := hsound.crew.staff_eq (.inl (h.slot ▸ hs))
  rw [Crew.staff, h.tidy.outbox, ← h.hands, List.length_nil] at hstaff
  omega

/-- **The feeder fills the queue, a worker takes a request, a request is given up or refused.** -/
lemma Rests.plain_step (h : Rests pool T s) (hs : pool.Step s m t)
    (hm : m = .feed ∨ m = .take ∨ m = .giveUp) :
    ∃ calls U, Carries pool T s [⟨s, m, t⟩] t calls U := by
  obtain ⟨requests, hsound⟩ := h.sound
  have hdone : s.isDone = false := by
    rw [Bool.eq_false_iff, ne_eq, isDone_iff]
    rintro ⟨hw, hslot, -⟩
    cases hs with
    | feed _ _ hw' | giveUp _ hw' => simp [hw] at hw'
    | take _ hs' | refuse _ hs' => simp [hslot] at hs'
    | _ => simp at hm
  have hp := h.collecting hdone
  have hstopped := h.stopped_eq hdone
  have ht := h.tidy
  cases hs with
  | @feed q rest hc hslot hw =>
      have hk : T.crew.Step pool T.toShared none T.toShared _ :=
        Crew.Step.feed (hstopped.trans hc) (h.feeder hw) (h.slot.symm.trans hslot)
      have hstep := Step.crew hk
      have hshows : Shows { T with crew := { T.crew with
          feeder := some rest, slot := some q } } { s with waiting := rest, slot := some q } :=
        ⟨h.shared, rfl, rfl, h.hands, h.strays, h.reported⟩
      obtain ⟨U, hsteps, hrests, hphase⟩ := hshows.rests (hstep.sound hsound)
        ⟨ht.starter, ht.outbox, ht.channel, ht.phase⟩ h.collected h.resting
      exact ⟨_, U, (Steps.single hstep).trans hsteps, hrests, rfl, fun _ => hp ▸ hphase⟩
  | @take q hc hslot hf =>
      have hidle := h.idle_pos (by simp [hslot]) hf
      have hk : T.crew.Step pool T.toShared none T.toShared _ :=
        Crew.Step.take (hstopped.trans hc) (h.slot.symm.trans hslot) hidle
      have hstep := Step.crew hk
      have hshows : Shows { T with crew := { T.crew with
          slot := none
          idle := T.crew.idle - 1
          hands := T.crew.hands ++ [⟨q, .pausing (T.now + pool.config.delay)⟩] } }
          { s with
            slot := none, hands := s.hands ++ [⟨q, .pausing (s.now + pool.config.delay)⟩] } :=
        ⟨h.shared, h.waiting, rfl, by rw [h.hands, h.now_eq], h.strays, h.reported⟩
      obtain ⟨U, hsteps, hrests, hphase⟩ := hshows.rests (hstep.sound hsound)
        ⟨ht.starter, ht.outbox, ht.channel, ht.phase⟩ h.collected h.resting
      exact ⟨_, U, (Steps.single hstep).trans hsteps, hrests, rfl, fun _ => hp ▸ hphase⟩
  | @refuse q hc hslot hf =>
      have hidle := h.idle_pos (by simp [hslot]) hf
      have hk : T.crew.Step pool T.toShared none T.toShared _ :=
        Crew.Step.refuse (hstopped.trans hc) (h.slot.symm.trans hslot) hidle
      rw [ht.outbox] at hk
      have hstep := Step.crew hk
      have hshows : Shows { T with crew := { T.crew with
          slot := none, idle := T.crew.idle - 1, outbox := [⟨q, .cancelled⟩] } }
          ({ s with slot := none }.report ⟨q, .cancelled⟩) := by
        refine ⟨h.shared, h.waiting, rfl, h.hands, h.strays, ?_⟩
        simp [Run.report, Crew.sources, ht.channel, ← h.collected]
      obtain ⟨U, hsteps, hrests, hphase⟩ := hshows.rests_sending (hstep.sound hsound) hp ht.starter
        rfl ht.channel (congrArg (· ++ [⟨q, .cancelled⟩]) h.collected) h.resting
      exact ⟨_, U, (Steps.single hstep).trans hsteps, hrests, rfl, fun _ => hphase⟩
  | @giveUp q rest hc hw =>
      have hfeeder := h.feeder hw
      have hroom := hsound.crew.channel_lt_room (by simp [Crew.waiting, hfeeder])
      have hk : T.crew.Step pool T.toShared none T.toShared _ := Crew.Step.giveUp
        (hstopped.trans hc) hfeeder (Crew.listening_of_collecting hp) hroom
      rw [ht.channel] at hk
      have hstep := Step.crew hk
      have hshows : Shows { T with crew := { T.crew with
          feeder := some rest, channel := [⟨q, .cancelled⟩] } }
          ({ s with waiting := rest }.report ⟨q, .cancelled⟩) := by
        refine ⟨h.shared, rfl, h.slot, h.hands, h.strays, ?_⟩
        simp [Run.report, Crew.sources, ht.outbox, ← h.collected]
      obtain ⟨U, hsteps, hrests, hphase⟩ := hshows.rests_sent (hstep.sound hsound) hp ht.starter
        ht.outbox rfl (congrArg (· ++ [⟨q, .cancelled⟩]) h.collected) h.resting
      exact ⟨_, U, (Steps.single hstep).trans hsteps, hrests, rfl, fun _ => hphase⟩
  | _ => simp at hm

/-- What going on makes of a state of the pool, told by what tasks share. -/
lemma Shows.goOn_cases {i : Nat} (hT : T.Shows s) (hs : pool.Step s (.goOn i) t) :
    ∃ hand, s.hands[i]? = some hand ∧ hand.due ≤ s.now ∧
      ((∃ v h', T.toShared.run.goOn pool.crawler hand = (v, .inl h') ∧
          t = { s.share v.shared with hands := s.hands.set i h' }) ∨
        ∃ v outcome, T.toShared.run.goOn pool.crawler hand = (v, .inr outcome) ∧
          t = { s.share v.shared with hands := s.hands.eraseIdx i }.report
            ⟨hand.request, outcome⟩) := by
  have hafter := after?_of_step hs
  simp only [Run.after?] at hafter
  split at hafter
  · cases hafter
  · next hand hh =>
      split at hafter
      · next hd =>
          refine ⟨hand, hh, hd, ?_⟩
          rcases hg : T.toShared.run.goOn pool.crawler hand with ⟨v, h' | outcome⟩
          · rw [hT.goOn_eq hg] at hafter
            exact .inl ⟨v, h', rfl, (Option.some.inj hafter).symm⟩
          · rw [hT.goOn_eq hg] at hafter
            exact .inr ⟨v, outcome, rfl, (Option.some.inj hafter).symm⟩
      · cases hafter

/-- **A request in the hands of a worker goes on.** -/
lemma Rests.goOn_step {i : Nat} (h : Rests pool T s) (hs : pool.Step s (.goOn i) t) :
    ∃ calls U, Carries pool T s [⟨s, .goOn i, t⟩] t calls U := by
  obtain ⟨requests, hsound⟩ := h.sound
  obtain ⟨hand, hh, hd, hcases⟩ := h.goOn_cases hs
  have hp : T.crew.phase = .collecting := by
    refine h.collecting ?_
    rw [Bool.eq_false_iff, ne_eq, isDone_iff]
    rintro ⟨-, -, hnil⟩
    simp [hnil] at hh
  have ht := h.tidy
  have hcalls := calls_goOn (t := t) h.toShows hh
  have hh' : T.crew.hands[i]? = some hand := h.hands ▸ hh
  have hd' : hand.due ≤ T.now := h.now_eq ▸ hd
  rcases hcases with ⟨v, h', hg, rfl⟩ | ⟨v, outcome, hg, rfl⟩
  · have hk : T.crew.Step pool T.toShared hand.pausing? v.shared _ := Crew.Step.goOn hh' hd' hg
    have hstep := Step.crew hk
    have hshows : Shows { T with
        toShared := v.shared, crew := { T.crew with hands := T.crew.hands.set i h' } }
        { s.share v.shared with hands := s.hands.set i h' } :=
      ⟨rfl, h.waiting, h.slot, congrArg (·.set i h') h.hands, h.strays, h.reported⟩
    obtain ⟨U, hsteps, hrests, hphase⟩ := hshows.rests (hstep.sound hsound)
      ⟨ht.starter, ht.outbox, ht.channel, ht.phase⟩ h.collected h.resting
    refine ⟨_, U, (Steps.single hstep).trans hsteps, hrests, ?_, fun _ => hp ▸ hphase⟩
    rw [List.append_nil, hcalls]
  · have hk : T.crew.Step pool T.toShared hand.pausing? v.shared _ := Crew.Step.finish hh' hd' hg
    rw [ht.outbox] at hk
    have hstep := Step.crew hk
    have hshows : Shows { T with toShared := v.shared, crew := { T.crew with
        hands := T.crew.hands.eraseIdx i, outbox := [⟨hand.request, outcome⟩] } }
        ({ s.share v.shared with hands := s.hands.eraseIdx i }.report ⟨hand.request, outcome⟩) := by
      refine ⟨rfl, h.waiting, h.slot, congrArg (·.eraseIdx i) h.hands, h.strays, ?_⟩
      simp [Run.report, Run.share, Crew.sources, ht.channel, ← h.collected]
    obtain ⟨U, hsteps, hrests, hphase⟩ := hshows.rests_sending (hstep.sound hsound) hp ht.starter
      rfl ht.channel (congrArg (· ++ [⟨hand.request, outcome⟩]) h.collected) h.resting
    refine ⟨_, U, (Steps.single hstep).trans hsteps, hrests, ?_, fun _ => hphase⟩
    rw [List.append_nil, hcalls]

/-- What stands at one place of lists put together stands in one of them. -/
lemma exists_place {α β : Type} (f : α → List β) : ∀ {xs : List α} {n : Nat} {y : β},
    (xs.flatMap f)[n]? = some y → ∃ j x i, xs[j]? = some x ∧ (f x)[i]? = some y ∧
      n = ((xs.take j).flatMap f).length + i
  | [], n, y, h => by simp at h
  | x :: xs, n, y, h => by
      rw [List.flatMap_cons] at h
      rcases Nat.lt_or_ge n (f x).length with hn | hn
      · rw [List.getElem?_append_left hn] at h
        exact ⟨0, x, n, rfl, h, by simp⟩
      · rw [List.getElem?_append_right hn] at h
        obtain ⟨j, x', i, hx, hy, hi⟩ := exists_place f h
        refine ⟨j + 1, x', i, by simpa using hx, hy, ?_⟩
        rw [List.take_succ_cons, List.flatMap_cons, List.length_append]
        omega

/-- What going on makes of a state of the pool, for a stray. -/
lemma Shows.strayOn_cases {n : Nat} (hT : T.Shows s) (hs : pool.Step s (.strayOn n) t) :
    ∃ hand, s.strays[n]? = some hand ∧ hand.due ≤ s.now ∧
      ((∃ v h', T.toShared.run.goOn pool.crawler hand = (v, .inl h') ∧
          t = { s.share v.shared with strays := s.strays.set n h' }) ∨
        ∃ v outcome, T.toShared.run.goOn pool.crawler hand = (v, .inr outcome) ∧
          t = { s.share v.shared with strays := s.strays.eraseIdx n }) := by
  have hafter := after?_of_step hs
  simp only [Run.after?] at hafter
  split at hafter
  · cases hafter
  · next hand hh =>
      split at hafter
      · next hd =>
          refine ⟨hand, hh, hd, ?_⟩
          rcases hg : T.toShared.run.goOn pool.crawler hand with ⟨v, h' | outcome⟩
          · rw [hT.goOn_eq hg] at hafter
            exact .inl ⟨v, h', rfl, (Option.some.inj hafter).symm⟩
          · rw [hT.goOn_eq hg] at hafter
            exact .inr ⟨v, outcome, rfl, (Option.some.inj hafter).symm⟩
      · cases hafter

/-- **A stray goes on**: a worker of a crew that was left, who goes when its call is over. -/
lemma Rests.strayOn_step {n : Nat} (h : Rests pool T s) (hs : pool.Step s (.strayOn n) t) :
    ∃ calls U, Carries pool T s [⟨s, .strayOn n, t⟩] t calls U := by
  obtain ⟨requests, hsound⟩ := h.sound
  obtain ⟨hand, hh, hd, hcases⟩ := h.strayOn_cases hs
  have hplace : T.strays[n]? = some hand := h.strays ▸ hh
  obtain ⟨j, k, i, hl, hhand, hn⟩ := exists_place _ hplace
  obtain rfl : n = T.strayPlace j i := hn
  obtain ⟨-, hset, herase⟩ := strays_place hl hhand
  have hd' : hand.due ≤ T.now := h.now_eq ▸ hd
  have hrest := h.resting k (List.mem_of_getElem? hl)
  have hcalls := calls_strayOn (t := t) (j := j) h.toShows hh
  have hresting : ∀ k' : Crew, k'.Resting → ∀ other ∈ T.left.set j k', other.Resting := by
    intro k' hk' other hm
    rcases List.mem_or_eq_of_mem_set hm with hm | rfl
    · exact h.resting other hm
    · exact hk'
  rcases hcases with ⟨v, h', hg, rfl⟩ | ⟨v, outcome, hg, rfl⟩
  · have hk : k.Step pool T.toShared hand.pausing? v.shared _ := Crew.Step.goOn hhand hd' hg
    have hstep := Step.left hl hk
    refine ⟨_, _, Steps.single hstep, ⟨⟨rfl, h.waiting, h.slot, h.hands, ?_, h.reported⟩,
      ⟨requests, hstep.sound hsound⟩, h.tidy, h.collected, ?_⟩, hcalls.symm,
      fun hdone => .inl (h.collecting hdone)⟩
    · refine Eq.trans ?_ (hset { k with hands := k.hands.set i h' } h' rfl).symm
      change s.strays.set _ h' = _
      rw [h.strays]
    · exact hresting _ ⟨hrest.feeder, hrest.idle, hrest.outbox⟩
  · have hk : k.Step pool T.toShared hand.pausing? v.shared _ := Crew.Step.finish hhand hd' hg
    rw [hrest.outbox, List.nil_append] at hk
    have hstep := Step.left hl hk
    have hlistening := ((hk.ebbing (hsound.left k (List.mem_of_getElem? hl))).forsaken
      (hsound.left k (List.mem_of_getElem? hl))).listening
    -- nobody hears of the outcome
    have hk' : Crew.Step pool v.shared { k with
        hands := k.hands.eraseIdx i, outbox := [⟨hand.request, outcome⟩] } none v.shared
        { k with hands := k.hands.eraseIdx i, outbox := [] } :=
      Crew.Step.unheard (i := 0) rfl hlistening
    obtain ⟨hj, -⟩ := List.getElem?_eq_some_iff.mp hl
    have hsteps := (Steps.single hstep).step (Step.left (i := j) (by simp [hj]) hk')
    simp only [List.set_set, begins_none, List.append_nil] at hsteps
    refine ⟨_, _, hsteps, ⟨⟨rfl, h.waiting, h.slot, h.hands, ?_, h.reported⟩,
      ⟨requests, hsteps.sound hsound⟩, h.tidy, h.collected, ?_⟩, hcalls.symm,
      fun hdone => .inl (h.collecting hdone)⟩
    · refine Eq.trans ?_ (herase { k with hands := k.hands.eraseIdx i, outbox := [] } rfl).symm
      change s.strays.eraseIdx _ = _
      rw [h.strays]
    · exact hresting _ ⟨hrest.feeder, hrest.idle, rfl⟩

/-- The crew of a dispatch at rest can do nothing when the pool waits patiently. -/
lemma Rests.quiet_crew {w : Nat} (h : Rests pool T s) (hp : pool.Patient s w) (hw : s.now < w) :
    T.crew.Quiet pool T.toShared := by
  obtain ⟨requests, hsound⟩ := h.sound
  have ht := h.tidy
  have hnow := h.now_eq
  intro r c k hs
  cases hs with
  | @feed q rest hc hf hslot =>
      have hfed := (hp.fed (by rw [h.waiting, Crew.waiting, hf]; simp)).2
      rw [h.slot, hslot] at hfed
      cases hfed
  | @giveUp q rest hc hf hl | @forsake q rest hc hf hl =>
      have hwaiting : s.waiting ≠ [] := by rw [h.waiting, Crew.waiting, hf]; simp
      have hdone : s.isDone = false := by
        rw [Bool.eq_false_iff, ne_eq, isDone_iff]
        exact fun hnil => hwaiting hnil.1
      rw [h.stopped_eq hdone, (hp.fed hwaiting).1] at hc
      cases hc
  | depart hf => exact ht.feeder hf
  | @take q hc hslot hi | @refuse q hc hslot hi =>
      have hall := hp.settled (by rw [h.slot, hslot]; rfl)
      have hlt := Sound.hands_lt hsound.crew hi
      rw [h.hands] at hall
      omega
  | leave hslot hf hi =>
      have hidle := ht.idle hslot hf
      omega
  | @goOn i hand _ _ hh hd | @finish i hand _ _ hh hd =>
      have hdue := hp.hands hand (h.hands ▸ List.mem_of_getElem? hh)
      omega
  | send ho | unheard ho =>
      rw [ht.outbox] at ho
      cases ho
  | release _ hr =>
      rw [ht.starter] at hr
      cases hr
  | collect _ _ hc =>
      rw [ht.channel] at hc
      cases hc
  | close hc _ hch hn =>
      have hgone := Crew.gone_of_senders hn (hsound.crew.slot_of_staff (by
        rw [Crew.senders] at hn
        omega)) hch
      rcases ht.unfinished hc with hne | hne | hne
      · exact hne hgone.waiting
      · exact hne hgone.slot
      · exact hne hgone.hands
  | done hj =>
      rcases ht.phase with hphase | ⟨time, hphase⟩ <;>
      · rw [hphase] at hj
        cases hj

/-- Neither can crews that were left. -/
lemma Rests.quiet_left {w : Nat} (h : Rests pool T s) (hp : pool.Patient s w) (hw : s.now < w)
    {k : Crew} (hk : k ∈ T.left) : k.Quiet pool T.toShared := by
  obtain ⟨requests, hsound⟩ := h.sound
  have hnow := h.now_eq
  have hrest := h.resting k hk
  have hforsaken := hsound.left k hk
  intro r c k' hs
  cases hs with
  | feed _ hf | giveUp _ hf | forsake _ hf | depart hf =>
      rw [hrest.feeder] at hf
      cases hf
  | take _ _ hi | refuse _ _ hi | leave _ _ hi =>
      rw [hrest.idle] at hi
      omega
  | @goOn i hand _ _ hh hd | @finish i hand _ _ hh hd =>
      have hm : hand ∈ s.strays := by
        rw [h.strays, strays, List.mem_flatMap]
        exact ⟨k, hk, List.mem_of_getElem? hh⟩
      have hdue := hp.strays hand hm
      omega
  | send ho | unheard ho =>
      rw [hrest.outbox] at ho
      cases ho
  | release hc | collect hc | close hc | done hc =>
      rw [hforsaken.phase] at hc
      cases hc

/-- **When all are at rest and the pool waits patiently, no task can do anything.** -/
lemma Rests.quiet {w : Nat} (h : Rests pool T s) (hp : pool.Patient s w) (hw : s.now < w) :
    ∀ k ∈ T.crews, k.Quiet pool T.toShared :=
  List.forall_mem_cons.mpr ⟨h.quiet_crew hp hw, fun _ hk => h.quiet_left hp hw hk⟩

/-- **A move of the pool is made by its tasks**, and they come to rest again. -/
lemma Rests.step (h : Rests pool T s) (hs : pool.Step s m t) (hw : pool.Wakeful s m) :
    ∃ calls U, Carries pool T s [⟨s, m, t⟩] t calls U := by
  cases m with
  | feed => exact h.plain_step hs (.inl rfl)
  | take => exact h.plain_step hs (.inr (.inl rfl))
  | giveUp => exact h.plain_step hs (.inr (.inr rfl))
  | goOn i => exact h.goOn_step hs
  | strayOn n => exact h.strayOn_step hs
  | cancel =>
      obtain ⟨requests, hsound⟩ := h.sound
      cases hs with
      | cancel hc =>
          have hstep : T.Step pool .outside none _ := Step.cancel (h.cancelled_eq.symm.trans hc)
          refine ⟨_, _, Steps.single hstep, ⟨⟨?_, h.waiting, h.slot, h.hands, h.strays,
            h.reported⟩, ⟨requests, hstep.sound hsound⟩, h.tidy, h.collected, h.resting⟩, rfl,
            fun hdone => .inl (h.collecting hdone)⟩
          exact congrArg (fun c => { c with cancelled := true }) h.shared
  | wait w =>
      obtain ⟨requests, hsound⟩ := h.sound
      have hpatient := hw w rfl
      cases hs with
      | wait ht =>
          have hdue : ∀ k ∈ T.crews, ∀ hand ∈ k.hands, w ≤ hand.due := by
            refine List.forall_mem_cons.mpr ⟨fun hand hm => ?_, fun k hk hand hm => ?_⟩
            · exact hpatient.hands hand (h.hands ▸ hm)
            · refine hpatient.strays hand ?_
              rw [h.strays, strays, List.mem_flatMap]
              exact ⟨k, hk, hm⟩
          have hstep : T.Step pool .clock none _ :=
            Step.wait (h.now_eq ▸ ht) (h.quiet hpatient ht) hdue
          refine ⟨_, _, Steps.single hstep, ⟨⟨?_, h.waiting, h.slot, h.hands, h.strays,
            h.reported⟩, ⟨requests, hstep.sound hsound⟩, h.tidy, h.collected, h.resting⟩, rfl,
            fun hdone => .inl (h.collecting hdone)⟩
          exact congrArg (fun c => { c with now := w }) h.shared

/-- A dispatch that does not collect has returned if all is done. -/
lemma Rests.returned {time : Nat} (h : Rests pool T s) (hd : s.isDone = true)
    (hp : T.crew.phase = .collecting ∨ T.crew.phase = .returned time) :
    T.crew.phase = .returned time := by
  obtain ⟨hw, hs, hh⟩ := isDone_iff.mp hd
  refine hp.resolve_left fun hc => ?_
  rcases h.tidy.unfinished hc with hne | hne | hne
  · exact hne (h.waiting.symm.trans hw)
  · exact hne (h.slot.symm.trans hs)
  · exact hne (h.hands.symm.trans hh)

lemma Rests.exists_returned (h : Rests pool T s) (hd : s.isDone = true) :
    ∃ time, T.crew.phase = .returned time := by
  rcases h.tidy.phase with hc | ⟨time, hp⟩
  · exact ⟨0, h.returned hd (.inl hc)⟩
  · exact ⟨time, hp⟩

/-- **Every timely path of the pool is an execution of its tasks**, with the same calls.  If it
brings a batch to its end, the dispatch returns just then. -/
lemma Rests.path (h : Rests pool T s) (hp : pool.Path s trail t) (hw : pool.Timely trail) :
    ∃ calls U, T.Steps pool calls U ∧ Rests pool U t ∧ calls.map (·.2) = Pool.calls trail ∧
      (Unfinished trail → t.isDone = true → (trail = [] → T.crew.phase = .returned s.now) →
        U.crew.phase = .returned t.now) := by
  induction hp generalizing T with
  | nil s => exact ⟨[], T, Steps.refl, h, rfl, fun _ _ hbegin => hbegin rfl⟩
  | @cons s u t m trail hs hpath ih =>
      obtain ⟨hfirst, hrest⟩ := timely_cons.mp hw
      obtain ⟨calls, U, hU⟩ := h.step hs hfirst
      obtain ⟨calls', V, hsteps, hV, hcalls, hreturned⟩ := ih hU.rests hrest
      refine ⟨calls ++ calls', V, hU.steps.trans hsteps, hV, ?_, fun ho hd _ => ?_⟩
      · rw [List.map_append, hU.calls_eq, hcalls, ← calls_split]
      · obtain ⟨hopen, hrestopen⟩ := List.forall_mem_cons.mp ho
        refine hreturned hrestopen hd ?_
        rintro rfl
        cases hpath
        exact hU.rests.returned hd (hU.phase hopen)

/-- A dispatch that begins lets go of its sender and is at rest. -/
lemma Rests.begin (h : Rests pool T s) (requests : List String) :
    ∃ U, (T.begin pool requests).Steps pool [] U ∧ Rests pool U (s.begin requests) ∧
      (requests = [] → U.crew.phase = .returned s.now) := by
  obtain ⟨_, hs⟩ := h.sound
  cases requests with
  | nil =>
      refine ⟨_, Steps.refl, ⟨h.toShows.begin [], ⟨[], hs.begin []⟩, ?_, rfl, h.resting⟩,
        fun _ => congrArg Phase.returned h.now_eq.symm⟩
      exact Crew.Gone.tidy ⟨rfl, rfl, rfl, rfl, rfl, rfl, rfl⟩ rfl
  | cons r rest =>
      have hk : Crew.Step pool T.toShared (.start pool (r :: rest)) none T.toShared _ :=
        Crew.Step.release rfl rfl
      have hstep : (T.begin pool (r :: rest)).Step pool .crew none _ := Step.crew hk
      have hshows : Shows { T with
          crew := { Crew.start pool (r :: rest) with starter := false } } (s.begin (r :: rest)) :=
        ⟨h.shared, rfl, rfl, rfl, h.strays, List.Perm.refl _⟩
      obtain ⟨U, hsteps, hrests, -⟩ := hshows.rests (hstep.sound (hs.begin (r :: rest)))
        ⟨rfl, rfl, rfl, .inl rfl⟩ rfl h.resting
      exact ⟨U, (Steps.single hstep).trans hsteps, hrests, nofun⟩

/-- **A dispatch is dropped**, and what is left of it comes to rest. -/
lemma Rests.drop (h : Rests pool T s) :
    ∃ U, T.drop.Steps pool [] U ∧ Rests pool U s.drop := by
  obtain ⟨_, hs⟩ := h.sound
  obtain ⟨k, htidies, hrest, hhands⟩ :=
    Crew.exists_resting pool T.toShared T.crew.forsaken_abandon
  have hlast : T.drop.left[T.left.length]? = some T.crew.abandon := by simp [Tasks.drop]
  have hsteps := Steps.rest hlast htidies
  have hleft : T.drop.left.set T.left.length k = T.left ++ [k] := by
    rw [Tasks.drop, List.set_append_right _ _ le_rfl, Nat.sub_self, List.set_cons_zero]
  refine ⟨_, hsteps, ⟨⟨h.shared, rfl, rfl, rfl, ?_, List.Perm.refl _⟩, ⟨[], hsteps.sound hs.drop⟩,
    Crew.Gone.tidy ⟨rfl, rfl, rfl, rfl, rfl, rfl, rfl⟩ rfl, rfl, ?_⟩⟩
  · change s.strays ++ s.hands = (T.drop.left.set T.left.length k).flatMap (·.hands)
    rw [hleft, List.flatMap_append, List.flatMap_singleton, hhands, h.strays, h.hands]
    rfl
  · change ∀ other ∈ T.drop.left.set T.left.length k, other.Resting
    rw [hleft]
    refine List.forall_mem_append.mpr ⟨h.resting, fun other hm => ?_⟩
    rwa [List.mem_singleton.mp hm]

/-! ## A dispatch -/

/-- **How the tasks come to what `Pool.dispatch` computed**: they return with it, or they wait for
workers at the time when it is dropped.  Then they are at rest where the pool is. -/
inductive Performs (pool : Pool) (T : Tasks) (requests : List String) : Run × Option Dispatch → Prop
  | returned {calls : List (Actor × Beginning)} {U : Tasks} {t : Run} {d : Dispatch}
      (hs : (T.begin pool requests).Steps pool calls U) (hp : U.crew.phase = .returned t.now)
      (hd : U.crew.result = d) (hr : Rests pool U t) : Performs pool T requests (t, some d)
  | dropped {calls : List (Actor × Beginning)} {U V : Tasks} {t : Run}
      (hs : (T.begin pool requests).Steps pool calls U) (hl : U.crew.listening = true)
      (hr : U.crew.starter = false) (hv : U.drop.Steps pool [] V) (hr' : Rests pool V t) :
      Performs pool T requests (t, none)

/-- **What `Pool.dispatch` computes is an execution of the tasks.** -/
lemma Rests.dispatch (h : Rests pool T s) (limit : Option Nat) (requests : List String) :
    Performs pool T requests (pool.dispatch limit requests s) := by
  obtain ⟨b, hb, -, rfl, rfl, rfl⟩ := exists_batch pool limit requests s
  obtain ⟨U, hbegin, hU, hempty⟩ := h.begin b.requests
  obtain ⟨calls, V, hsteps, hV, -, hreturned⟩ := hU.path hb.path hb.punctual.timely
  have hall := hbegin.trans hsteps
  rw [List.nil_append] at hall
  rw [hb.dispatch_eq]
  cases hr : b.result with
  | none =>
      have hopen := (hb.dropped hr).1
      obtain ⟨W, hdrop, hW⟩ := hV.drop
      rw [Batch.after_dropped hr]
      exact Performs.dropped hall (Crew.listening_of_collecting (hV.collecting hopen))
        hV.tidy.starter hdrop hW
  | some d =>
      obtain ⟨-, hd, rfl⟩ := hb.awaited d hr
      rw [Batch.after_awaited hr]
      obtain ⟨_, hs⟩ := hV.sound
      refine Performs.returned hall (hreturned hb.unfinished hd fun htrail => ?_) ?_ hV
      · have hpath := hb.path
        rw [htrail] at hpath
        rw [hpath.eq_of_nil] at hd
        exact hempty (isDone_iff.mp hd).1
      · have herror := hb.path.error_eq
        rw [Crew.result, hs.crew.error, hV.collected, herror]

end Tasks

end PageCrawl
