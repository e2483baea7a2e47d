import PageCrawl.Proofs.Pool.Cancellation
import PageCrawl.Proofs.Tasks.Barrier

/-!
# What a dropped dispatch leaves behind

When a dispatch is dropped its guard cancels the token of its crew, and the tasks of the crew go on
without it.  The feeder goes, and so does every worker that has nothing in its hands; a worker that
pauses goes on to its call and one that makes a call goes on to its end, since neither looks at the
token (`Crew.Ebbing`).  So a crew that was left takes nothing more, its calls are those for which it
had a pause, and each of them comes to its end in time (`Tasks.Abandoned`).

The token of the pool is another one.  It is cancelled by the outside or by a call that asks for it
(`Tasks.Later.exists_cancelling`); what a dispatch does to the token of its own crew, when it
returns or when it is dropped, is not among that.
-/

namespace PageCrawl

open Pool

/-! ## Crews that were left -/

namespace Crew

variable {pool : Pool} {c c' : Shared} {k k' : Crew} {called : Option String}

/-- The pauses of its workers. -/
def pauses (k : Crew) : List (Nat × String) := k.hands.filterMap Hand.pausingUntil?

/-- The requests in the hands of its workers. -/
def taken (k : Crew) : List String := k.hands.map (·.request)

/-- **A crew that was left takes nothing more.** -/
lemma Ebbing.taken_sublist (he : k.Ebbing pool c called c' k') : k'.taken.Sublist k.taken := by
  cases he with
  | goOn hh hd hg =>
      rw [taken, map_set_request hh (request_of_goOn hg)]
      exact List.Sublist.refl _
  | finish hh hd hg => exact (List.eraseIdx_sublist _ _).map _
  | other hh => rw [taken, taken, hh]

/-- **Its calls begin when pauses end**, and no pause begins. -/
lemma Ebbing.pauses_perm (he : k.Ebbing pool c called c' k') (hearly : Early c.now k.hands) :
    ((called.toList.map fun r => (c.now, r)) ++ k'.pauses).Perm k.pauses := by
  cases he with
  | @goOn i h h' s hh hd hg =>
      obtain ⟨l, r, hx, hset, -, -⟩ := exists_split hh
      have hdue := hearly.due_eq hh hd
      obtain ⟨q, stage⟩ := h
      cases stage with
      | calling n reply d => cases hg
      | pausing d =>
          obtain rfl : d = c.now := hdue
          have hcalling : h'.pausingUntil? = none := by
            simp only [Run.goOn] at hg
            split at hg
            · cases hg
            · cases hg
              rfl
          have hpausing : Hand.pausingUntil? ⟨q, .pausing c.now⟩ = some (c.now, q) := rfl
          simp only [pauses, hset]
          simp only [hx, List.filterMap_append, List.filterMap_cons, hcalling, hpausing]
          change ((c.now, q) :: (l.filterMap Hand.pausingUntil? ++ r.filterMap _)).Perm _
          exact List.perm_middle.symm
  | @finish i h outcome s hh hd hg =>
      obtain ⟨l, r, hx, -, herase, -⟩ := exists_split hh
      have hdue := hearly.due_eq hh hd
      obtain ⟨q, stage⟩ := h
      cases stage with
      | pausing d =>
          obtain rfl : d = c.now := hdue
          simp only [pauses, herase]
          simpa [hx, List.filterMap_cons, Hand.pausingUntil?, Hand.pausing?]
            using List.perm_middle.symm
      | calling n reply d =>
          simp only [pauses, herase]
          simp [hx, List.filterMap_cons, Hand.pausingUntil?, Hand.pausing?]
  | other hh =>
      rw [pauses, pauses, hh]
      exact List.Perm.refl _

end Crew

namespace Tasks

variable {pool pool' : Pool} {T U V : Tasks} {a : Actor} {r : Option String} {s t : Run}
  {calls calls' past : List (Actor × Beginning)} {requests : List String} {time : Nat}

/-- No stage of a crew is overdue. -/
lemma Reached.early (h : Reached pool requests T s) : ∀ k ∈ T.crews, Early T.now k.hands := by
  have hnow := h.shows.now_eq
  refine List.forall_mem_cons.mpr ⟨?_, fun k hk hand hm => ?_⟩
  · rw [← hnow, ← h.shows.hands]
    exact h.accounted.early_hands
  · rw [← hnow]
    refine h.accounted.early_strays hand ?_
    rw [h.shows.strays, strays, List.mem_flatMap]
    exact ⟨k, hk, hm⟩

/-- **What has become of a crew that was left**, with the calls that it made since. -/
structure Ebbed (k₀ : Crew) (i : Nat) (calls : List (Actor × Beginning)) (U : Tasks) (k : Crew) :
    Prop where
  get : U.left[i]? = some k
  /-- It has taken nothing more. -/
  taken : k.taken.Sublist k₀.taken
  /-- It makes the calls for which it had a pause, when the pause ends, and no other. -/
  pauses : ((callsBy (.left i) calls).map Beginning.at ++ k.pauses).Perm k₀.pauses

lemma Ebbed.step {i : Nat} {k₀ k : Crew} (h : Ebbed k₀ i calls U k) (hU : Reached pool requests U s)
    (hs : U.Step pool a r V) : ∃ k', Ebbed k₀ i (calls ++ U.begins a r) V k' := by
  have hsame : a ≠ .left i → V.left[i]? = some k →
      ∃ k', Ebbed k₀ i (calls ++ U.begins a r) V k' := by
    intro hne hget
    refine ⟨k, hget, h.taken, ?_⟩
    rw [callsBy_append, callsBy_begins_ne hne, List.append_nil]
    exact h.pauses
  cases hs with
  | cancel | crew | wait => exact hsame (by simp) h.get
  | @left j r c k₁ k₂ hl hk =>
      by_cases hij : j = i
      · subst hij
        obtain rfl := Option.some.inj (hl.symm.trans h.get)
        have hmem := List.mem_of_getElem? hl
        have hebbing := hk.ebbing (hU.sound.left k₁ hmem)
        have hearly := hU.early k₁ (List.mem_cons_of_mem _ hmem)
        obtain ⟨hj, -⟩ := List.getElem?_eq_some_iff.mp hl
        refine ⟨k₂, by simp [hj], hebbing.taken_sublist.trans h.taken, ?_⟩
        rw [callsBy_append, callsBy_begins, List.map_append, List.map_map, List.append_assoc]
        exact ((hebbing.pauses_perm hearly).append_left _).trans h.pauses
      · refine hsame (by simpa using hij) ?_
        rw [List.getElem?_set_ne hij]
        exact h.get

/-- **What is left of a dispatch that was dropped.** -/
lemma Later.ebbed (h : T.drop.Later pool calls U) (hT : Reached pool requests T s) :
    ∃ k, Ebbed T.crew T.left.length calls U k := by
  induction h with
  | refl =>
      refine ⟨T.crew.abandon, by simp [Tasks.drop], List.Sublist.refl _, ?_⟩
      exact List.Perm.refl _
  | step hr hs ih =>
      obtain ⟨k, hk⟩ := ih
      obtain ⟨_, _, hU⟩ := hr.reached hT.drop
      exact hk.step hU hs
  | begin hr hp requests ih =>
      obtain ⟨k, hk⟩ := ih
      exact ⟨k, hk.get, hk.taken, hk.pauses⟩
  | @drop calls U hr hl hs ih =>
      obtain ⟨k, hk⟩ := ih
      refine ⟨k, ?_, hk.taken, hk.pauses⟩
      obtain ⟨hi, -⟩ := List.getElem?_eq_some_iff.mp hk.get
      rw [Tasks.drop, List.getElem?_append_left hi]
      exact hk.get

/-! ## The log -/

/-- What happens later only adds to the log. -/
lemma Later.logged_mono (h : T.Later pool calls U) (hT : Reached pool requests T s) {b : Beginning}
    (hb : Logged b T.calls) : Logged b U.calls := by
  induction h with
  | refl => exact hb
  | step hr hs ih =>
      obtain ⟨_, _, hU⟩ := hr.reached hT
      obtain ⟨trail, t, hfollows, -⟩ := (Steps.single hs).reached hU
      have hlogged := hfollows.path.logged_mono (hU.shows.calls_eq ▸ ih)
      rwa [hfollows.shows.calls_eq] at hlogged
  | begin _ _ _ ih | drop _ _ _ ih => exact ih

/-- Each call is in the log. -/
lemma Later.logged (h : T.Later pool calls U) (hT : Reached pool requests T s) :
    ∀ c ∈ calls, Logged c.2 U.calls := by
  induction h with
  | refl => simp
  | step hr hs ih =>
      intro c hc
      obtain ⟨_, _, hU⟩ := hr.reached hT
      obtain ⟨trail, t, hfollows, -⟩ := (Steps.single hs).reached hU
      rw [← hfollows.shows.calls_eq]
      rcases List.mem_append.mp hc with hc | hc
      · exact hfollows.path.logged_mono (hU.shows.calls_eq ▸ ih c hc)
      · refine hfollows.path.logged ?_
        rw [hfollows.calls_eq]
        exact List.mem_map_of_mem hc
  | begin _ _ _ ih | drop _ _ _ ih => exact ih

/-- **Every call comes to its end in time**: when its time is up the log says so. -/
lemma Reached.over {b : Beginning} (h : Reached pool requests T s) (hb : Logged b T.calls)
    (ht : pool.finishOf b < T.now) : pool.entry b ∈ T.calls := by
  have hnow := h.shows.now_eq
  rw [← h.shows.calls_eq] at hb ⊢
  rcases h.accounted.entry_or_underWay hb with hm | hm
  · exact hm
  · have hdue : (pool.handOf b).due = pool.finishOf b := rfl
    rcases List.mem_append.mp hm with hm | hm
    · have hle := h.accounted.early_hands _ hm
      omega
    · have hle := h.accounted.early_strays _ hm
      omega

/-- **A dispatch that was dropped**: it had made these calls and come to `U`.  Since then everything
has come to `V`, whatever was dispatched meanwhile. -/
structure Abandoned (pool : Pool) (calls : List (Actor × Beginning)) (U : Tasks)
    (calls' : List (Actor × Beginning)) (V : Tasks) : Prop where
  /-- Its crew has taken nothing more, and makes no calls but those for which it had a pause. -/
  ebbed : ∃ k, Ebbed U.crew U.left.length calls' V k ∧ k.closed = true
  /-- Each of its calls, those of before the drop among them, comes to its end in time. -/
  ends : ∀ c ∈ callsBy .crew calls ++ callsBy (.left U.left.length) calls',
    pool.finishOf c < V.now → pool.entry c ∈ V.calls
  /-- Nobody of it, nor of any other that was dropped, stays for ever. -/
  ebbs : Inevitable pool (fun W => ∀ k ∈ W.left, k.Over) V

lemma Later.abandoned (h : U.drop.Later pool calls' V) (hs : T.Steps pool calls U)
    (hT : Reached pool requests T s) : Abandoned pool calls U calls' V := by
  obtain ⟨-, t, -, hU⟩ := hs.reached hT
  obtain ⟨_, _, hV⟩ := h.reached hU.drop
  obtain ⟨k, hk⟩ := h.ebbed hU
  refine ⟨⟨k, hk, (hV.sound.left k (List.mem_of_getElem? hk.get)).closed⟩,
    fun c hc hlt => hV.over ?_ hlt, hV.sound.ebbs⟩
  rcases List.mem_append.mp hc with hc | hc
  · obtain ⟨c, hm, rfl⟩ := List.mem_map.mp hc
    exact h.logged_mono hU.drop (hs.later.logged hT c (List.mem_filter.mp hm).1)
  · obtain ⟨c, hm, rfl⟩ := List.mem_map.mp hc
    exact h.logged hU.drop c (List.mem_filter.mp hm).1

/-! ## The token of the pool -/

/-- **Who cancels the token of the pool**: the outside, or a call that asks for it when it begins or
when it ends. -/
def Cancelling (pool : Pool) (T : Tasks) (a : Actor) : Prop :=
  a = .outside ∨ ∃ k ∈ T.crews, ∃ h ∈ k.hands, h.due ≤ T.now ∧
    pool.asksToCancel T.toShared.run h = true

/-- A call cancels only if it asks for it. -/
lemma asksToCancel_of_goOn {c : Shared} {h : Hand} {v : Run} {next : Hand ⊕ Outcome}
    (hg : c.run.goOn pool.crawler h = (v, next)) (hc : c.cancelled = false)
    (hv : v.cancelled = true) : pool.asksToCancel c.run h = true := by
  obtain ⟨q, stage⟩ := h
  have hstart : c.run.cancelled = false := hc
  cases stage with
  | pausing d =>
      simp only [Run.goOn] at hg
      split at hg <;>
      · cases hg
        simpa [hstart, asksToCancel] using hv
  | calling n reply d =>
      simp only [Run.goOn] at hg
      cases hg
      simpa [hstart, asksToCancel] using hv

lemma Crew.Step.asks {c c' : Shared} {k k' : Crew} (hs : k.Step pool c r c' k')
    (hc : c.cancelled = false) (hc' : c'.cancelled = true) :
    ∃ h ∈ k.hands, h.due ≤ c.now ∧ pool.asksToCancel c.run h = true := by
  cases hs with
  | goOn hh hd hg | finish hh hd hg =>
      exact ⟨_, List.mem_of_getElem? hh, hd, asksToCancel_of_goOn hg hc hc'⟩
  | _ =>
      rw [hc] at hc'
      cases hc'

lemma Step.cancelling (hs : T.Step pool a r U) (hT : T.cancelled = false)
    (hU : U.cancelled = true) : T.Cancelling pool a := by
  cases hs with
  | cancel => exact .inl rfl
  | crew hk => exact .inr ⟨T.crew, List.mem_cons_self, Crew.Step.asks hk hT hU⟩
  | left hl hk =>
      exact .inr ⟨_, List.mem_cons_of_mem _ (List.mem_of_getElem? hl), Crew.Step.asks hk hT hU⟩
  | wait =>
      rw [show T.cancelled = true from hU] at hT
      cases hT

/-- **If the token of the pool was cancelled, somebody did it.** -/
lemma Later.exists_cancelling (h : T.Later pool calls U) (hT : T.cancelled = false)
    (hU : U.cancelled = true) : ∃ before a r, ∃ V W : Tasks, T.Later pool before V ∧
      V.Step pool a r W ∧ V.cancelled = false ∧ W.cancelled = true ∧ V.Cancelling pool a := by
  induction h with
  | refl =>
      rw [hT] at hU
      cases hU
  | @step calls V W a r hr hs ih =>
      cases hV : V.cancelled with
      | true => exact ih hV
      | false => exact ⟨calls, a, r, V, W, hr, hs, hV, hU, hs.cancelling hV hU⟩
  | begin _ _ _ ih | drop _ _ _ ih => exact ih hU

end Tasks

end PageCrawl
