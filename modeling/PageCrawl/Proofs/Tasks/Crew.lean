import PageCrawl.Pool.Tasks
import PageCrawl.Proofs.Pool.Timely

/-!
# What a crew holds together

What holds of the crew of a dispatch, whatever its tasks have done so far (`Crew.Sound`): the
requests of its batch are with the feeder, in the queue, with workers, in the channel or collected;
and nobody has gone who is still needed.  A worker goes only when the queue is empty and will not be
filled any more, and the dispatch stops collecting only when every sender is gone, which leaves
nothing to collect.  Each step of a task keeps this (`Crew.Step.sound`).

There is room in the channel for whoever has something to send (`Crew.Sound.channel_lt_room`), so
the feeder gives up all it holds, and no worker waits.
-/

namespace PageCrawl

namespace Crew

variable {pool : Pool} {c c' : Shared} {k k' : Crew} {requests : List String}
  {called : Option String}

/-- The sources that workers have and that were sent. -/
def sources (k : Crew) : List PageSource := k.outbox ++ k.channel ++ k.collected.map (·.2)

/-- Every request of the batch, whoever has it now. -/
def held (k : Crew) : List String :=
  k.waiting ++ k.slot.toList ++ k.hands.map (·.request) ++ k.sources.map (·.request)

/-- **What holds of the crew of a dispatch that is not dropped.** -/
structure Sound (pool : Pool) (requests : List String) (k : Crew) : Prop where
  room : k.room = requests.length
  held : k.held.Perm requests
  /-- All workers are there, or the queue is empty and stays so. -/
  staffed : k.staff = pool.config.workers ∨
    k.slot = none ∧ k.feeder = none ∧ k.staff ≤ pool.config.workers
  undropped : k.phase ≠ .dropped
  /-- Its token is not cancelled before it returns. -/
  closed : k.listening = true → k.closed = false
  /-- When it has stopped collecting nobody is left who could send a source. -/
  silent : k.phase ≠ .collecting → k.channel = [] ∧ k.senders = 0
  error : k.error = Pool.lastError (k.collected.map (·.2))

lemma sound_start (pool : Pool) (requests : List String) :
    (start pool requests).Sound pool requests where
  room := rfl
  held := by simp [start, Crew.held, waiting, sources]
  staffed := .inl rfl
  undropped := nofun
  closed _ := rfl
  silent h := absurd rfl h
  error := rfl

lemma sound_vacant (pool : Pool) (now : Nat) : (vacant now).Sound pool [] where
  room := rfl
  held := List.Perm.refl _
  staffed := .inr ⟨rfl, rfl, Nat.zero_le _⟩
  undropped := nofun
  closed := nofun
  silent _ := ⟨rfl, rfl⟩
  error := rfl

lemma listening_of_collecting (hp : k.phase = .collecting) : k.listening = true := by
  simp [listening, hp]

lemma listening_of_joining (hp : k.phase = .joining) : k.listening = true := by
  simp [listening, hp]

/-- Who does not listen has returned or was dropped. -/
lemma Sound.returned (h : k.Sound pool requests) (hl : k.listening = false) :
    ∃ t, k.phase = .returned t := by
  cases hp : k.phase with
  | returned t => exact ⟨t, rfl⟩
  | collecting | joining => simp [listening, hp] at hl
  | dropped => exact absurd hp h.undropped

/-- **When the dispatch has stopped collecting, everybody is gone.** -/
structure Gone (k : Crew) : Prop where
  starter : k.starter = false
  feeder : k.feeder = none
  slot : k.slot = none
  idle : k.idle = 0
  hands : k.hands = []
  outbox : k.outbox = []
  channel : k.channel = []

lemma gone_of_senders (hn : k.senders = 0) (hs : k.slot = none) (hc : k.channel = []) : k.Gone := by
  rw [senders] at hn
  have hstaff : k.staff = 0 := by omega
  rw [staff] at hstaff
  refine ⟨?_, ?_, hs, by omega, List.length_eq_zero_iff.mp (by omega),
    List.length_eq_zero_iff.mp (by omega), hc⟩
  · by_contra hne
    rw [if_pos (by simpa using hne)] at hn
    omega
  · by_contra hne
    rw [if_pos (Option.isSome_iff_ne_none.mpr hne)] at hn
    omega

/-- A queue that nobody serves is empty. -/
lemma Sound.slot_of_staff (h : k.Sound pool requests) (hn : k.staff = 0) : k.slot = none := by
  rcases h.staffed with hall | ⟨hs, -, -⟩
  · have hpos := pool.config.workers_pos
    omega
  · exact hs

lemma Sound.gone (h : k.Sound pool requests) (hp : k.phase ≠ .collecting) : k.Gone := by
  obtain ⟨hc, hn⟩ := h.silent hp
  refine gone_of_senders hn (h.slot_of_staff ?_) hc
  rw [senders] at hn
  omega

lemma Gone.waiting (h : k.Gone) : k.waiting = [] := by
  rw [Crew.waiting, h.feeder]
  rfl

/-- **There is room for whoever has something to send.** -/
lemma Sound.channel_lt_room (h : k.Sound pool requests)
    (hm : 0 < k.waiting.length + k.outbox.length) : k.channel.length < k.room := by
  have hlength := h.held.length_eq
  simp only [Crew.held, sources, List.length_append, List.length_map] at hlength
  rw [h.room]
  omega

/-- Nobody collects more than there is. -/
lemma Sound.collected_le (h : k.Sound pool requests) : k.collected.length ≤ requests.length := by
  have hlength := h.held.length_eq
  simp only [Crew.held, sources, List.length_append, List.length_map] at hlength
  omega

/-- When nobody has anything any more, every request was collected once. -/
lemma Gone.held (h : k.Gone) : k.held = k.collected.map (·.2.request) := by
  simp [Crew.held, sources, h.waiting, h.slot, h.hands, h.outbox, h.channel]

lemma Sound.staff_le (h : k.Sound pool requests) : k.staff ≤ pool.config.workers := by
  rcases h.staffed with hall | ⟨-, -, hle⟩
  · exact hall.le
  · exact hle

/-- The feeder has not gone as long as a request is in the queue and nobody has given up. -/
lemma Sound.staff_eq (h : k.Sound pool requests) (hs : k.slot ≠ none ∨ k.feeder ≠ none) :
    k.staff = pool.config.workers := by
  rcases h.staffed with hall | ⟨hslot, hfeeder, -⟩
  · exact hall
  · rcases hs with hs | hs
    · exact absurd hslot hs
    · exact absurd hfeeder hs

/-- **When everybody is gone, a dispatch can only return.** -/
lemma Step.collecting_or_done (hs : k.Step pool c called c' k') (h : k.Sound pool requests) :
    k.phase = .collecting ∨
      k.phase = .joining ∧ k' = { k with closed := true, phase := .returned c.now } := by
  by_cases hp : k.phase = .collecting
  · exact .inl hp
  · have hgone := h.gone hp
    right
    cases hs with
    | feed _ hw | giveUp _ hw | forsake _ hw | depart hw => simp [hgone.feeder] at hw
    | take _ hslot | refuse _ hslot => simp [hgone.slot] at hslot
    | leave _ _ hi => simp [hgone.idle] at hi
    | goOn hh | finish hh => simp [hgone.hands] at hh
    | send ho | unheard ho => simp [hgone.outbox] at ho
    | release hcollecting | collect hcollecting | close hcollecting => exact absurd hcollecting hp
    | done hp => exact ⟨hp, rfl⟩

/-- Tasks do something only as long as their dispatch listens. -/
lemma Step.listening (hs : k.Step pool c called c' k') (h : k.Sound pool requests) :
    k.listening = true := by
  rcases hs.collecting_or_done h with hp | ⟨hp, -⟩
  · exact listening_of_collecting hp
  · exact listening_of_joining hp

lemma Step.not_returned {time : Nat} (hs : k.Step pool c called c' k')
    (h : k.Sound pool requests) : k.phase ≠ .returned time := by
  intro hp
  have hlistening := hs.listening h
  simp [Crew.listening, hp] at hlistening

lemma count_held (k : Crew) (a : String) :
    k.held.count a = k.waiting.count a + k.slot.toList.count a
      + (k.hands.map (·.request)).count a + (k.outbox.map (·.request)).count a
      + (k.channel.map (·.request)).count a + (k.collected.map (·.2.request)).count a := by
  simp only [Crew.held, sources, List.count_append, List.map_append, List.map_map]
  simp only [Function.comp_def]
  omega

/-- A call that begins is for the request of its hand. -/
lemma request_of_goOn {crawler : Crawler} {h h' : Hand} {s : Run}
    (hg : c.run.goOn crawler h = (s, .inl h')) : h'.request = h.request := by
  obtain ⟨r, stage⟩ := h
  cases stage with
  | pausing d =>
      simp only [Run.goOn] at hg
      split at hg
      · cases hg
      · cases hg
        rfl
  | calling n reply d => cases hg

/-- A hand that stands at one place, and what becomes of the requests there. -/
lemma count_hands {i : Nat} {h : Hand} (hh : k.hands[i]? = some h) (a : String) :
    (k.hands.map (·.request)).count a
      = ((k.hands.eraseIdx i).map (·.request)).count a + [h.request].count a := by
  obtain ⟨l, r, hx, -, he, -⟩ := Pool.exists_split hh
  rw [he, hx]
  simp only [List.map_append, List.map_cons, List.count_append, List.count_cons, List.count_nil]
  omega

lemma map_set_request {i : Nat} {h h' : Hand} (hh : k.hands[i]? = some h)
    (hr : h'.request = h.request) :
    (k.hands.set i h').map (·.request) = k.hands.map (·.request) := by
  obtain ⟨l, r, hx, hset, -, -⟩ := Pool.exists_split hh
  rw [hset, hx, List.map_append, List.map_append, List.map_cons, List.map_cons, hr]

lemma count_outbox {i : Nat} {source : PageSource} (ho : k.outbox[i]? = some source) (a : String) :
    (k.outbox.map (·.request)).count a
      = ((k.outbox.eraseIdx i).map (·.request)).count a + [source.request].count a := by
  obtain ⟨l, r, hx, -, he, -⟩ := Pool.exists_split ho
  rw [he, hx]
  simp only [List.map_append, List.map_cons, List.count_append, List.count_cons, List.count_nil]
  omega

/-- **A step hands requests over, but loses none and doubles none**, if the dispatch listens. -/
lemma Step.held_perm (hs : k.Step pool c called c' k') (h : k.Sound pool requests) :
    k'.held.Perm k.held := by
  have hlistening := hs.listening h
  rw [List.perm_iff_count]
  intro a
  rw [count_held, count_held]
  cases hs with
  | feed hc hw hslot =>
      simp only [waiting, hw, hslot, Option.getD_some, Option.toList_some, Option.toList_none,
        List.count_cons, List.count_nil]
      omega
  | giveUp hc hw hl hr =>
      simp only [waiting, hw, Option.getD_some, List.map_append, List.map_cons, List.map_nil,
        List.count_append, List.count_cons, List.count_nil]
      omega
  | forsake hc hw hf =>
      -- nobody who listens is found wanting by a feeder that holds something
      rcases hf with hl | hfull
      · simp [hlistening] at hl
      · have hroom := h.channel_lt_room (by simp [waiting, hw])
        omega
  | depart hw => simp [waiting, hw]
  | take hc hslot hi =>
      simp only [waiting, hslot, Option.toList_some, Option.toList_none, List.map_append,
        List.map_cons, List.map_nil, List.count_append, List.count_cons, List.count_nil]
      omega
  | refuse hc hslot hi =>
      simp only [waiting, hslot, Option.toList_some, Option.toList_none, List.map_append,
        List.map_cons, List.map_nil, List.count_append, List.count_cons, List.count_nil]
      omega
  | goOn hh hd hg =>
      simp only [waiting, map_set_request hh (request_of_goOn hg)]
  | finish hh hd hg =>
      have hcount := count_hands hh a
      simp only [waiting, List.map_append, List.map_cons, List.map_nil, List.count_append]
      omega
  | send ho hl hr =>
      have hcount := count_outbox ho a
      simp only [waiting, List.map_append, List.map_cons, List.map_nil, List.count_append]
      omega
  | unheard ho hl => simp [hlistening] at hl
  | collect hp hs hc =>
      simp only [waiting, hc, List.map_append, List.map_cons, List.map_nil, List.count_append,
        List.count_cons, List.count_nil]
      omega
  | leave | release | close | done => rfl

lemma Sound.staffed_of_eq (h : k.Sound pool requests) (hslot : k'.slot = k.slot)
    (hfeeder : k'.feeder = k.feeder) (hstaff : k'.staff = k.staff) :
    k'.staff = pool.config.workers ∨
      k'.slot = none ∧ k'.feeder = none ∧ k'.staff ≤ pool.config.workers := by
  rw [hslot, hfeeder, hstaff]
  exact h.staffed

/-- Workers go only when the queue is empty and the feeder is gone. -/
lemma Step.staffed (hs : k.Step pool c called c' k') (h : k.Sound pool requests) :
    k'.staff = pool.config.workers ∨
      k'.slot = none ∧ k'.feeder = none ∧ k'.staff ≤ pool.config.workers := by
  have hlistening := hs.listening h
  cases hs with
  | feed _ hw | giveUp _ hw | forsake _ hw | depart hw =>
      exact .inl (h.staff_eq (.inr (by simp [hw])))
  | take _ hslot hi | refuse _ hslot hi =>
      left
      rw [← h.staff_eq (.inl (by simp [hslot]))]
      simp only [staff, List.length_append, List.length_cons, List.length_nil]
      omega
  | leave hslot hw hi =>
      have hle := h.staff_le
      refine .inr ⟨hslot, hw, ?_⟩
      simp only [staff] at hle ⊢
      omega
  | goOn => exact h.staffed_of_eq rfl rfl (by simp only [staff, List.length_set])
  | finish hh =>
      have hlength := Pool.length_eraseIdx_add_one hh
      refine h.staffed_of_eq rfl rfl ?_
      simp only [staff, List.length_append, List.length_cons, List.length_nil]
      omega
  | send ho =>
      have hlength := Pool.length_eraseIdx_add_one ho
      refine h.staffed_of_eq rfl rfl ?_
      simp only [staff]
      omega
  | unheard _ hl => simp [hlistening] at hl
  | release | collect | close | done => exact h.staffed

/-- **What holds of a crew, a step of its tasks keeps.** -/
lemma Step.sound (hs : k.Step pool c called c' k') (h : k.Sound pool requests) :
    k'.Sound pool requests := by
  have hheld := (hs.held_perm h).trans h.held
  have hstaffed := hs.staffed h
  rcases hs.collecting_or_done h with hp | ⟨hp, rfl⟩
  · cases hs with
    | collect _ hstart hc =>
        refine ⟨h.room, hheld, hstaffed, h.undropped, h.closed, fun hne => absurd hp hne, ?_⟩
        rw [List.map_append, List.map_cons, List.map_nil, Pool.lastError_concat, ← h.error]
    | close _ hstart hc hn =>
        exact ⟨h.room, hheld, hstaffed, nofun, fun _ => h.closed (listening_of_collecting hp),
          fun _ => ⟨hc, hn⟩, h.error⟩
    | done hjoining => simp [hp] at hjoining
    | _ =>
        exact ⟨h.room, hheld, hstaffed, h.undropped, h.closed, fun hne => absurd hp hne, h.error⟩
  · exact ⟨h.room, hheld, hstaffed, nofun, nofun, fun _ => h.silent (by simp [hp]), h.error⟩

end Crew

end PageCrawl
