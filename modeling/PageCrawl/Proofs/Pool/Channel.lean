import PageCrawl.Proofs.Pool.Conservation
import PageCrawl.Proofs.Pool.Order

/-!
# The channel to the collector

`Run.report` hands a source to the collector at once.  What stands between them is a channel, with
room for as many sources as the batch has requests.  A worker that has a source to report waits
until there is room, and takes no other request before; the feeder does not wait, and if it finds
the channel full it drops all that it still holds.  The collector takes sources out of the channel
when it gets to it.

A `Relay` is a state of the pool with this channel, and `Relay.after?` says what may happen in it:
the moves of the pool by `Run.after?`, the sending of sources, and the collecting.  Requests that
are not reported and sources that were ever sent make up the batch, whatever has happened
(`Sound.sent_add_unreported`), so who still has something to report finds room
(`Sound.queue_lt_room`).  Hence the feeder never drops anything, and every move is one of the pool
without a channel (`Sound.move`).  The other way round, every path of the pool can be gone with the
channel, though nothing is ever collected (`exists_follow`).
-/

namespace PageCrawl

namespace Pool

/-- A state of the pool with the channel to the collector, who listens. -/
structure Relay where
  run : Run
  /-- How many sources the channel holds at most. -/
  room : Nat
  /-- The sources that workers have in their hands and have not sent yet. -/
  outbox : List PageSource := []
  /-- The sources in the channel, oldest first. -/
  queue : List PageSource := []
  /-- The sources that the collector took out of it. -/
  collected : List PageSource := []
deriving Repr, DecidableEq

namespace Relay

/-- One thing that can happen. -/
inductive Action
  | move (m : Move)
  /-- The worker whose source is at this place of the outbox sends it. -/
  | send (i : Nat)
  /-- The collector takes the oldest source out of the channel. -/
  | collect
deriving Repr, DecidableEq

/-- Every source that was sent so far. -/
def sent (r : Relay) : List PageSource := r.collected ++ r.queue

/-- How many requests are not reported yet: they are with the feeder, in the queue, or with a
worker, who may have the source already. -/
def unreported (r : Relay) : Nat :=
  r.run.waiting.length + r.run.slot.toList.length + r.run.hands.length + r.outbox.length

/-- The state in which a batch begins: the channel has room for all of it. -/
def begin (s : Run) (requests : List String) : Relay :=
  { run := s.begin requests, room := requests.length }

/-- What becomes of the sources that a move reports.  Those of a worker are still to be sent.  That
of the feeder is in the channel, or the feeder gives up with all it holds. -/
def pass (r : Relay) (m : Move) (t : Run) : Relay :=
  let sources := t.reported.drop r.run.reported.length
  if m ≠ .giveUp then { r with run := t, outbox := r.outbox ++ sources }
  else if r.queue.length < r.room then { r with run := t, queue := r.queue ++ sources }
  else { r with run := { r.run with waiting := [] } }

/-- What an action makes of a state; `none` if it is not possible there.  A worker with a source
that is not sent yet takes no request. -/
def after? (pool : Pool) (r : Relay) : Action → Option Relay
  | .move m =>
    if m = .take ∧ pool.config.workers ≤ r.run.hands.length + r.outbox.length then none
    else (r.run.after? pool m).map (r.pass m)
  | .send i =>
    match r.outbox[i]? with
    | none => none
    | some source =>
      if r.queue.length < r.room then
        some { r with outbox := r.outbox.eraseIdx i, queue := r.queue ++ [source] }
      else none
  | .collect =>
    match r.queue with
    | [] => none
    | source :: rest => some { r with queue := rest, collected := r.collected ++ [source] }

/-- What actions one after another make of a state. -/
def follow (pool : Pool) : Relay → List Action → Option Relay
  | r, [] => some r
  | r, a :: actions => (r.after? pool a).bind (follow pool · actions)

/-- The state with everything that is reported in the channel: all of it was sent at once, and
nothing is collected. -/
def uncollected (room : Nat) (t : Run) : Relay := { run := t, room, queue := t.reported }

variable {pool : Pool} {r r' : Relay} {s t : Run} {m : Move} {i : Nat} {requests : List String}
  {actions : List Action}

/-! ## What is sent and what is not -/

/-- The requests of the batch are all somewhere, and each source that was reported is with a worker
or was sent. -/
structure Sound (requests : List String) (r : Relay) : Prop where
  room : r.room = requests.length
  held : r.run.held.Perm requests
  reported : (r.sent ++ r.outbox).Perm r.run.reported

lemma sound_begin (s : Run) (requests : List String) : (begin s requests).Sound requests where
  room := rfl
  held := by rw [begin, held_begin]
  reported := List.Perm.refl _

/-- **What was ever sent and what is not reported yet make up the batch.** -/
lemma Sound.sent_add_unreported (h : r.Sound requests) :
    r.sent.length + r.unreported = requests.length := by
  have hheld := h.held.length_eq
  have hreported := h.reported.length_eq
  simp only [Run.held, List.length_append, List.length_map] at hheld hreported
  rw [unreported]
  omega

/-- **As long as something is to be reported, there is room.** -/
lemma Sound.queue_lt_room (h : r.Sound requests) (hr : 0 < r.unreported) :
    r.queue.length < r.room := by
  have hall := h.sent_add_unreported
  rw [sent, List.length_append] at hall
  rw [h.room]
  omega

/-- There is room for all that the workers have. -/
lemma Sound.queue_add_outbox_le (h : r.Sound requests) :
    r.queue.length + r.outbox.length ≤ r.room := by
  have hall := h.sent_add_unreported
  rw [sent, List.length_append, unreported] at hall
  rw [h.room]
  omega

/-- When nothing is left to report, each request was sent once. -/
lemma Sound.sent_perm (h : r.Sound requests) (hr : r.unreported = 0) :
    (r.sent.map (·.request)).Perm requests := by
  simp only [unreported, Nat.add_eq_zero_iff, List.length_eq_zero_iff] at hr
  obtain ⟨⟨⟨hwaiting, hslot⟩, hhands⟩, houtbox⟩ := hr
  have hheld := h.held
  have hsent := h.reported
  rw [Run.held, hwaiting, hslot, hhands] at hheld
  rw [houtbox, List.append_nil] at hsent
  exact (hsent.map _).trans hheld

/-! ## One action -/

/-- What a move reports, behind what was reported before. -/
lemma reported_drop (h : pool.Step s m t) :
    t.reported = s.reported ++ t.reported.drop s.reported.length := by
  conv_lhs => rw [h.reported_eq]
  rw [h.reported_eq, List.drop_left]

/-- The feeder reports only what it holds. -/
lemma waiting_of_giveUp (h : pool.Step s .giveUp t) : 0 < s.waiting.length := by
  cases h with
  | giveUp _ hw => simp [hw]

/-- A request is taken by a worker that has none. -/
lemma hands_lt_of_take (h : pool.Step s .take t) : s.hands.length < pool.config.workers := by
  cases h with
  | refuse _ _ hf | take _ _ hf => exact hf

/-- What the feeder reports is in the channel. -/
lemma Sound.pass_giveUp (h : r.Sound requests) (hs : pool.Step r.run .giveUp t) :
    r.pass .giveUp t =
      { r with run := t, queue := r.queue ++ t.reported.drop r.run.reported.length } := by
  have hwaiting := waiting_of_giveUp hs
  have hroom : r.queue.length < r.room := h.queue_lt_room (by rw [unreported]; omega)
  rw [pass, if_neg (by simp), if_pos hroom]

/-- What another move reports is with the workers. -/
lemma pass_of_ne (hm : m ≠ .giveUp) (r : Relay) (t : Run) :
    r.pass m t =
      { r with run := t, outbox := r.outbox ++ t.reported.drop r.run.reported.length } := by
  rw [pass, if_pos hm]

/-- **With the channel the pool moves as it does without**, and what is sent stays sound. -/
lemma Sound.move (h : r.Sound requests) (hs : pool.Step r.run m t) :
    (r.pass m t).run = t ∧ (r.pass m t).Sound requests := by
  have hheld : t.held.Perm requests := hs.held_perm.trans h.held
  have hreported := h.reported.append_right (t.reported.drop r.run.reported.length)
  rw [← reported_drop hs] at hreported
  by_cases hm : m = .giveUp
  · subst hm
    rw [h.pass_giveUp hs]
    refine ⟨rfl, h.room, hheld, List.Perm.trans ?_ hreported⟩
    simp only [sent, List.append_assoc]
    exact (List.perm_append_comm.append_left _).append_left _
  · rw [pass_of_ne hm]
    refine ⟨rfl, h.room, hheld, ?_⟩
    rwa [List.append_assoc] at hreported

/-- A worker that sends its source has sent it. -/
lemma Sound.send (h : r.Sound requests) (ha : r.after? pool (.send i) = some r') :
    r'.Sound requests := by
  simp only [after?] at ha
  split at ha
  · cases ha
  · next source hsource =>
      split at ha
      · cases ha
        refine ⟨h.room, h.held, List.Perm.trans ?_ h.reported⟩
        obtain ⟨front, back, houtbox, -, herase, -⟩ := exists_split hsource
        simp only [sent, herase, List.append_assoc, List.singleton_append]
        rw [houtbox]
        exact (List.perm_middle.symm.append_left _).append_left _
      · cases ha

/-- What is collected was sent. -/
lemma Sound.collect (h : r.Sound requests) (ha : r.after? pool .collect = some r') :
    r'.Sound requests := by
  simp only [after?] at ha
  split at ha
  · cases ha
  · next source rest hqueue =>
      cases ha
      refine ⟨h.room, h.held, ?_⟩
      have hsent := h.reported
      rw [sent, hqueue] at hsent
      simpa [sent] using hsent

/-- A move with the channel is one of the pool. -/
lemma exists_step_of_move (ha : r.after? pool (.move m) = some r') :
    ∃ t, pool.Step r.run m t ∧ r' = r.pass m t := by
  simp only [after?] at ha
  split at ha
  · cases ha
  · obtain ⟨t, ht, rfl⟩ := Option.map_eq_some_iff.mp ha
    exact ⟨t, step_of_after? ht, rfl⟩

lemma Sound.after? {a : Action} (h : r.Sound requests) (ha : r.after? pool a = some r') :
    r'.Sound requests := by
  cases a with
  | move m =>
      obtain ⟨t, hs, rfl⟩ := exists_step_of_move ha
      exact (h.move hs).2
  | send i => exact h.send ha
  | collect => exact h.collect ha

lemma Sound.follow (h : r.Sound requests) (ha : r.follow pool actions = some r') :
    r'.Sound requests := by
  induction actions generalizing r with
  | nil =>
      cases ha
      exact h
  | cons a actions ih =>
      obtain ⟨r₁, hfirst, hrest⟩ := Option.bind_eq_some_iff.mp ha
      exact ih (h.after? hfirst) hrest

/-! ## Nobody waits -/

lemma after?_send {source : PageSource} (hi : r.outbox[i]? = some source)
    (hroom : r.queue.length < r.room) :
    r.after? pool (.send i) =
      some { r with outbox := r.outbox.eraseIdx i, queue := r.queue ++ [source] } := by
  rw [Relay.after?, hi]
  exact if_pos hroom

/-- A worker that has a source can send it. -/
lemma Sound.exists_send (h : r.Sound requests) (hi : i < r.outbox.length) :
    ∃ r', r.after? pool (.send i) = some r' := by
  have hroom : r.queue.length < r.room := h.queue_lt_room (by rw [unreported]; omega)
  exact ⟨_, after?_send (List.getElem?_eq_getElem hi) hroom⟩

/-- A move of the pool can be made with the channel too, if it is not the taking of a request by a
worker that has a source to send. -/
lemma after?_move (hs : pool.Step r.run m t)
    (hm : m = .take → r.run.hands.length + r.outbox.length < pool.config.workers) :
    r.after? pool (.move m) = some (r.pass m t) := by
  rw [Relay.after?, if_neg fun hfull => (hm hfull.1).not_ge hfull.2, after?_of_step hs]
  rfl

/-- **The feeder that gives up gives up everything**: it finds room for each request it holds. -/
lemma Sound.follow_giveUp (h : r.Sound requests) (hc : r.run.cancelled = true) :
    ∃ r', r.follow pool (List.replicate r.run.waiting.length (.move .giveUp)) = some r' ∧
      r'.run.waiting = [] ∧ r'.queue = r.queue ++ r.run.waiting.map (⟨·, .cancelled⟩) := by
  induction hw : r.run.waiting generalizing r with
  | nil => exact ⟨r, rfl, hw, by simp⟩
  | cons q rest ih =>
      have hstep : pool.Step r.run .giveUp _ := .giveUp hc hw
      have hfirst := after?_move hstep nofun
      have hrun := (h.move hstep).1
      obtain ⟨r', hr', hnone, hqueue⟩ := ih (h.after? hfirst) (by rw [hrun]; exact hc)
        (by rw [hrun]; rfl)
      refine ⟨r', ?_, hnone, ?_⟩
      · rw [List.length_cons, List.replicate_succ, Relay.follow, hfirst]
        exact hr'
      · rw [hqueue, h.pass_giveUp hstep]
        simp [Run.report]

/-! ## Every path of the pool -/

lemma follow_append {actions' : List Action} (h : r.follow pool actions = some r') :
    r.follow pool (actions ++ actions') = r'.follow pool actions' := by
  induction actions generalizing r with
  | nil =>
      cases h
      rfl
  | cons a actions ih =>
      obtain ⟨r₁, hfirst, hrest⟩ := Option.bind_eq_some_iff.mp h
      rw [List.cons_append, follow, hfirst, Option.bind_some, ih hrest]

/-- The workers send what they have, one after the other, if there is room for all of it. -/
lemma follow_send (h : r.queue.length + r.outbox.length ≤ r.room) :
    r.follow pool (List.replicate r.outbox.length (.send 0)) =
      some { r with outbox := [], queue := r.queue ++ r.outbox } := by
  obtain ⟨run, room, outbox, queue, collected⟩ := r
  induction outbox generalizing queue with
  | nil => simp [follow]
  | cons source outbox ih =>
      simp only [List.length_cons] at h ih ⊢
      rw [List.replicate_succ, follow, after?_send rfl (by simp only; omega)]
      simp only [List.eraseIdx_zero, List.tail_cons, Option.bind_some]
      rw [ih _ (by simp only [List.length_append, List.length_singleton]; omega)]
      simp

/-- A transition of the pool with the channel: what a worker reports is sent at once. -/
lemma exists_follow_step (h : (uncollected requests.length s).Sound requests)
    (hs : pool.Step s m t) : ∃ actions, .collect ∉ actions ∧
      (uncollected requests.length s).follow pool actions =
        some (uncollected requests.length t) := by
  have hmove : (uncollected requests.length s).after? pool (.move m) = some _ :=
    after?_move hs fun hm => hands_lt_of_take (hm ▸ hs)
  have hroom := (h.move hs).2.queue_add_outbox_le
  refine ⟨.move m :: List.replicate ((uncollected requests.length s).pass m t).outbox.length
    (.send 0), by simp, ?_⟩
  rw [follow, hmove, Option.bind_some, follow_send hroom]
  by_cases hm : m = .giveUp
  · subst hm
    rw [h.pass_giveUp hs]
    simp [uncollected, ← reported_drop hs]
  · rw [pass_of_ne hm]
    simp [uncollected, ← reported_drop hs]

/-- A path of the pool with the channel. -/
lemma exists_follow {trail : List Transition} (hp : pool.Path s trail t)
    (h : (uncollected requests.length s).Sound requests) : ∃ actions, .collect ∉ actions ∧
      (uncollected requests.length s).follow pool actions =
        some (uncollected requests.length t) := by
  induction hp with
  | nil s => exact ⟨[], by simp, rfl⟩
  | cons hs _ ih =>
      obtain ⟨actions, hnever, hactions⟩ := exists_follow_step h hs
      obtain ⟨actions', hnever', hactions'⟩ := ih (h.follow hactions)
      exact ⟨actions ++ actions', by simp [hnever, hnever'],
        by rw [follow_append hactions, hactions']⟩

end Relay

/-- **The channel to the collector is never full for one who has something to send.**  Let things
happen in a batch in any order, the collector taking sources out whenever it does.  What was ever
sent and what is not reported yet make up the batch, and in the end each request was sent once.
While something is not reported there is room: a worker with a source sends it, and the feeder, when
the pool is cancelled, reports every request that it holds.  So the pool moves as it does without a
channel; and all it can do without one it can do when nothing is ever collected. -/
theorem channel_never_full (pool : Pool) (requests : List String) (s : Run) :
    (∀ actions r, (Relay.begin s requests).follow pool actions = some r →
      r.room = requests.length ∧ r.sent.length + r.unreported = requests.length ∧
      (0 < r.unreported → r.queue.length < r.room) ∧
      (r.unreported = 0 → (r.sent.map (·.request)).Perm requests) ∧
      (∀ i < r.outbox.length, ∃ r', r.after? pool (.send i) = some r') ∧
      (r.run.cancelled = true → ∃ r',
        r.follow pool (List.replicate r.run.waiting.length (.move .giveUp)) = some r' ∧
          r'.run.waiting = [] ∧ r'.queue = r.queue ++ r.run.waiting.map (⟨·, .cancelled⟩)) ∧
      ∀ m r', r.after? pool (.move m) = some r' → r.run.after? pool m = some r'.run) ∧
    ∀ trail t, pool.Path (s.begin requests) trail t → ∃ actions r, .collect ∉ actions ∧
      (Relay.begin s requests).follow pool actions = some r ∧
      r.run = t ∧ r.queue = t.reported ∧ r.outbox = [] := by
  have hbegin := Relay.sound_begin s requests
  refine ⟨fun actions r hr => ?_, fun trail t hp => ?_⟩
  · have h := hbegin.follow hr
    refine ⟨h.room, h.sent_add_unreported, h.queue_lt_room, h.sent_perm,
      fun i hi => h.exists_send hi, h.follow_giveUp, fun m r' hm => ?_⟩
    obtain ⟨t, hs, rfl⟩ := Relay.exists_step_of_move hm
    rw [(h.move hs).1]
    exact after?_of_step hs
  · obtain ⟨actions, hnever, hactions⟩ := Relay.exists_follow hp hbegin
    exact ⟨actions, _, hnever, hactions, rfl, rfl, rfl⟩

/-- A collector that never runs.  The pool of one worker is cancelled when the worker has crawled
the first request and has not sent its source; another request lies in the queue and one is with the
feeder.  Both find room for what they send.  In the end the channel is full, and nobody is left who
would have to wait. -/
theorem channel_never_full_uncollected :
    let pool : Pool := ⟨.new 1 5, fun _ r => { ending := .page r }, none⟩
    let requests := ["a", "a", "b"]
    let start : Relay := .begin {} requests
    let early : List Relay.Action := [.move .feed, .move .take, .move .feed, .move (.wait 5),
      .move (.goOn 0), .move (.goOn 0), .move .cancel]
    let late : List Relay.Action := early ++ [.move .giveUp, .send 0, .move .take, .send 0]
    let page : PageSource := ⟨"a", .page "a"⟩
    let r : Relay :=
      { run :=
          { now := 5, cancelled := true, waiting := ["b"], slot := some "a", reported := [page],
            calls := [⟨"a", 1, 5, some 5⟩] }
        room := 3, outbox := [page] }
    (start.follow pool early = some r ∧ r.queue.length < r.room ∧
      (∃ r₁, r.after? pool (.send 0) = some r₁) ∧
      ∃ r₁, r.follow pool [.move .giveUp] = some r₁ ∧ r₁.run.waiting = [] ∧
        r₁.queue = [⟨"b", .cancelled⟩] ∧ r.run.after? pool .giveUp = some r₁.run) ∧
    (∃ r', start.follow pool late = some r' ∧ r'.unreported = 0 ∧ r'.queue.length = r'.room ∧
      (r'.sent.map (·.request)).Perm requests) ∧
    ∃ trail t actions r', pool.Path (Run.begin {} requests) trail t ∧ .collect ∉ actions ∧
      start.follow pool actions = some r' ∧ r'.run = t ∧ t.slot = some "a" := by
  intro pool requests start early late page r
  obtain ⟨hall, hpath⟩ := channel_never_full pool requests {}
  have hr : start.follow pool early = some r := by decide +kernel
  obtain ⟨-, -, hroom, -, hsend, hgiveUp, hmove⟩ := hall early r hr
  obtain ⟨r₁, hr₁, hnone, hqueue⟩ := hgiveUp rfl
  have hfirst : r.after? pool (.move .giveUp) = some r₁ := by
    obtain ⟨r₂, hr₂, hr₂₁⟩ := Option.bind_eq_some_iff.mp hr₁
    cases hr₂₁
    exact hr₂
  have hlate : (start.follow pool late).map (fun r => (r.unreported, r.queue.length, r.room)) =
      some (0, 3, 3) := by decide +kernel
  obtain ⟨r', hr', hfull⟩ := Option.map_eq_some_iff.mp hlate
  simp only [Prod.mk.injEq] at hfull
  have hfed : pool.Path (Run.begin {} requests) _ _ := .cons (.feed rfl rfl rfl) (.nil _)
  obtain ⟨actions, r'', hnever, hactions, hrun, -⟩ := hpath _ _ hfed
  exact ⟨⟨hr, hroom (by decide), hsend 0 (by decide), r₁, hr₁, hnone, hqueue, hmove _ _ hfirst⟩,
    ⟨r', hr', hfull.1, hfull.2.1.trans hfull.2.2.symm, (hall late r' hr').2.2.2.1 hfull.1⟩,
    _, _, actions, r'', hfed, hnever, hactions, hrun, rfl⟩

end Pool

end PageCrawl
