import PageCrawl.Pool

/-!
# The tasks of a dispatch

`Pool` says who has which request and when. Here is how a dispatch gets along: a *crew* of tasks
that share a queue of one place and a channel. The feeder fills the queue. Workers take requests out
of it, pause, make the calls and send the sources. The dispatch itself starts them all and collects.
Nobody counts the sources. The channel is closed when its last sender is gone, and each task holds
one: the feeder goes when it has nothing left, a worker goes when the queue is empty and the feeder
is gone, and the dispatch lets go of the sender it started with. When the channel is closed and
empty the dispatch waits for the workers and returns.

**Tokens.** The token of the pool is shared. Each crew has a token of its own below it, which is
cancelled when its dispatch returns and when it is dropped, and a crew looks at both. Of a crew that
was dropped the tasks go on: the feeder and a worker with a source find nobody who listens, and go.

**Order.** `Crew.Step` is one step of one task and `Tasks.Step` one of the whole. Any step that is
possible may come next. Time passes when no task can do anything, and no further than the end of the
first pause or call.
-/

namespace PageCrawl

/-- What all tasks of a pool share. -/
structure Shared where
  /-- The time in milliseconds. -/
  now : Nat := 0
  /-- Whether the token of the pool is cancelled. -/
  cancelled : Bool := false
  /-- The calls made so far, latest first. -/
  calls : List Call := []
deriving Repr, DecidableEq, Inhabited

/-- A state of the pool in which no batch is under way. -/
def Shared.run (c : Shared) : Run := { now := c.now, cancelled := c.cancelled, calls := c.calls }

/-- What the tasks of a pool share of its state. -/
def Run.shared (s : Run) : Shared := ⟨s.now, s.cancelled, s.calls⟩

/-- How far a dispatch is. -/
inductive Phase
  /-- It collects sources until the channel is closed. -/
  | collecting
  /-- The channel is closed, and it waits for the workers. -/
  | joining
  /-- It returned at this time. -/
  | returned (time : Nat)
  | dropped
deriving Repr, DecidableEq, Inhabited

/-- The tasks of one dispatch and what lies between them. -/
structure Crew where
  /-- How many sources the channel has room for. -/
  room : Nat := 0
  /-- Whether its own token is cancelled. -/
  closed : Bool := false
  /-- Whether the dispatch still holds the sender it started with. -/
  starter : Bool := false
  /-- What the feeder holds, as long as it is there. -/
  feeder : Option (List String) := none
  /-- The request in the queue. -/
  slot : Option String := none
  /-- How many workers wait for a request. -/
  idle : Nat := 0
  /-- The requests in the hands of workers, in the order in which they were taken. -/
  hands : List Hand := []
  /-- The sources that workers are sending. -/
  outbox : List PageSource := []
  /-- The sources in the channel. -/
  channel : List PageSource := []
  /-- The sources collected so far, with the time. -/
  collected : List (Nat × PageSource) := []
  /-- The error collected last. -/
  error : Option CrawlError := none
  phase : Phase
deriving Repr, DecidableEq, Inhabited

namespace Crew

/-- No dispatch is under way; the last one returned at this time. -/
def vacant (now : Nat) : Crew := { closed := true, phase := .returned now }

/-- The crew of a dispatch that begins. -/
def start (pool : Pool) (requests : List String) : Crew :=
  { room := requests.length, starter := true, feeder := some requests, idle := pool.config.workers,
    phase := .collecting }

/-- What becomes of a crew when its dispatch is dropped. -/
def abandon (k : Crew) : Crew := { k with closed := true, channel := [], phase := .dropped }

/-- Whether the dispatch would still collect. -/
def listening (k : Crew) : Bool :=
  match k.phase with
  | .collecting | .joining => true
  | .returned _ | .dropped => false

/-- Whether no more requests are to be taken. -/
def stopped (c : Shared) (k : Crew) : Bool := c.cancelled || k.closed

/-- What the feeder holds. -/
def waiting (k : Crew) : List String := k.feeder.getD []

/-- How many workers there still are. -/
def staff (k : Crew) : Nat := k.idle + k.hands.length + k.outbox.length

/-- How many senders of the channel there still are. -/
def senders (k : Crew) : Nat :=
  (if k.starter then 1 else 0) + (if k.feeder.isSome then 1 else 0) + k.staff

/-- What a dispatch returned. -/
def result (k : Crew) : Dispatch := ⟨k.collected.map (·.2), k.error⟩

/-- **One step of one task**, with the request for which a call begins by it. -/
inductive Step (pool : Pool) (c : Shared) (k : Crew) : Option String → Shared → Crew → Prop
  /-- The feeder fills the queue. -/
  | feed {r : String} {rest : List String} (hc : k.stopped c = false)
      (hw : k.feeder = some (r :: rest)) (hs : k.slot = none) :
      Step pool c k none c { k with feeder := some rest, slot := some r }
  /-- The feeder sends the request it holds first as cancelled. -/
  | giveUp {r : String} {rest : List String} (hc : k.stopped c = true)
      (hw : k.feeder = some (r :: rest)) (hl : k.listening = true)
      (hr : k.channel.length < k.room) :
      Step pool c k none c
        { k with feeder := some rest, channel := k.channel ++ [⟨r, .cancelled⟩] }
  /-- The feeder finds no room or nobody who listens, and goes. -/
  | forsake {r : String} {rest : List String} (hc : k.stopped c = true)
      (hw : k.feeder = some (r :: rest)) (hf : k.listening = false ∨ k.room ≤ k.channel.length) :
      Step pool c k none c { k with feeder := none }
  /-- The feeder has nothing left and goes. -/
  | depart (hw : k.feeder = some []) : Step pool c k none c { k with feeder := none }
  /-- A worker takes the request in the queue into its hands. -/
  | take {r : String} (hc : k.stopped c = false) (hs : k.slot = some r) (hi : 0 < k.idle) :
      Step pool c k none c { k with
        slot := none
        idle := k.idle - 1
        hands := k.hands ++ [⟨r, .pausing (c.now + pool.config.delay)⟩] }
  /-- A worker finds a request in the queue after the cancellation. -/
  | refuse {r : String} (hc : k.stopped c = true) (hs : k.slot = some r) (hi : 0 < k.idle) :
      Step pool c k none c { k with
        slot := none, idle := k.idle - 1, outbox := k.outbox ++ [⟨r, .cancelled⟩] }
  /-- A worker finds the queue empty and the feeder gone, and goes. -/
  | leave (hs : k.slot = none) (hw : k.feeder = none) (hi : 0 < k.idle) :
      Step pool c k none c { k with idle := k.idle - 1 }
  /-- A pause ends and a call begins. -/
  | goOn {i : Nat} {h h' : Hand} {s : Run} (hh : k.hands[i]? = some h) (hd : h.due ≤ c.now)
      (hg : c.run.goOn pool.crawler h = (s, .inl h')) :
      Step pool c k h.pausing? s.shared { k with hands := k.hands.set i h' }
  /-- A call ends, or breaks down at once. -/
  | finish {i : Nat} {h : Hand} {outcome : Outcome} {s : Run} (hh : k.hands[i]? = some h)
      (hd : h.due ≤ c.now) (hg : c.run.goOn pool.crawler h = (s, .inr outcome)) :
      Step pool c k h.pausing? s.shared { k with
        hands := k.hands.eraseIdx i, outbox := k.outbox ++ [⟨h.request, outcome⟩] }
  /-- A worker sends its source. -/
  | send {i : Nat} {source : PageSource} (ho : k.outbox[i]? = some source)
      (hl : k.listening = true) (hr : k.channel.length < k.room) :
      Step pool c k none c { k with
        outbox := k.outbox.eraseIdx i, channel := k.channel ++ [source], idle := k.idle + 1 }
  /-- A worker finds nobody who listens to its source, and goes. -/
  | unheard {i : Nat} {source : PageSource} (ho : k.outbox[i]? = some source)
      (hl : k.listening = false) : Step pool c k none c { k with outbox := k.outbox.eraseIdx i }
  /-- The dispatch lets go of the sender it started with. -/
  | release (hp : k.phase = .collecting) (hs : k.starter = true) :
      Step pool c k none c { k with starter := false }
  | collect {source : PageSource} {rest : List PageSource} (hp : k.phase = .collecting)
      (hs : k.starter = false) (hc : k.channel = source :: rest) :
      Step pool c k none c { k with
        channel := rest
        collected := k.collected ++ [(c.now, source)]
        error := source.error?.or k.error }
  /-- The channel is empty and its last sender is gone. -/
  | close (hp : k.phase = .collecting) (hs : k.starter = false) (hc : k.channel = [])
      (hn : k.senders = 0) : Step pool c k none c { k with phase := .joining }
  /-- The last worker is gone. -/
  | done (hp : k.phase = .joining) (hn : k.staff = 0) :
      Step pool c k none c { k with closed := true, phase := .returned c.now }

/-- No task of the crew can do anything. -/
def Quiet (pool : Pool) (c : Shared) (k : Crew) : Prop := ∀ r c' k', ¬k.Step pool c r c' k'

end Crew

/-- Who does something. -/
inductive Actor
  | outside
  | clock
  /-- The crew of the dispatch under way. -/
  | crew
  /-- The crew of the dispatch that was dropped after this many others. -/
  | left (i : Nat)
deriving Repr, DecidableEq, Inhabited

/-- All that is at work for a pool: the crew of the dispatch under way, and what is left of those
that were dropped. -/
structure Tasks extends Shared where
  crew : Crew
  left : List Crew := []
deriving Repr, DecidableEq, Inhabited

namespace Tasks

/-- A pool through which nothing was dispatched yet. -/
def fresh (now : Nat) : Tasks := { now, crew := .vacant now }

/-- A dispatch begins. One without requests returns at once. -/
def begin (pool : Pool) (requests : List String) (T : Tasks) : Tasks :=
  { T with crew := if requests.isEmpty then .vacant T.now else .start pool requests }

/-- The dispatch is dropped. -/
def drop (T : Tasks) : Tasks :=
  { T with crew := .vacant T.now, left := T.left ++ [T.crew.abandon] }

/-- All crews. -/
def crews (T : Tasks) : List Crew := T.crew :: T.left

/-- **One step of the tasks of a pool**, with who does it and the request for which a call begins.
-/
inductive Step (pool : Pool) (T : Tasks) : Actor → Option String → Tasks → Prop
  /-- The pool is cancelled from outside. -/
  | cancel (hc : T.cancelled = false) : Step pool T .outside none { T with cancelled := true }
  /-- A task of the dispatch does something. -/
  | crew {r : Option String} {c : Shared} {k : Crew} (hk : T.crew.Step pool T.toShared r c k) :
      Step pool T .crew r { T with toShared := c, crew := k }
  /-- A task that was left behind does something. -/
  | left {i : Nat} {r : Option String} {c : Shared} {k k' : Crew} (hl : T.left[i]? = some k)
      (hk : k.Step pool T.toShared r c k') :
      Step pool T (.left i) r { T with toShared := c, left := T.left.set i k' }
  /-- No task can do anything, and time passes. -/
  | wait {t : Nat} (ht : T.now < t) (hq : ∀ k ∈ T.crews, k.Quiet pool T.toShared)
      (hd : ∀ k ∈ T.crews, ∀ h ∈ k.hands, t ≤ h.due) : Step pool T .clock none { T with now := t }

end Tasks

end PageCrawl
