import PageCrawl.Proofs.Pool.Spread
import PageCrawl.Proofs.Pool.Punctual

/-!
# A batch does not notice strays

A batch that begins while strays of another one are still on their way shares with them the clock,
the log and the crawl function, but neither workers nor requests.  So it goes as it would in a
pool without strays, if only the crawl function answers its calls in the same way.

`Mirrors` relates the two pools from move to move.  What the batch does the pool without strays
does as well; when a stray goes on it does nothing; and it waits as long, though the other one may
have waited for a stray (`Step.mirror`).  Such a waiting is cut short, which is prompt but not
scheduled; that the dispatch comes to the same end nevertheless is what `dispatch_of_punctual`
says.  The clocks of the two pools may differ: `a` and `b` are the times in which the batch began.
-/

namespace PageCrawl

namespace Pool

variable {pool pool' : Pool} {s t u u' : Run} {m : Move} {trail trail' : List Transition}
  {requests : List String} {a b : Nat}

/-- **The same stage in two pools.**  Numbers of calls may differ, since strays may have made calls
for the same request. -/
inductive HandAlike (a b : Nat) : Hand → Hand → Prop
  | pausing {r : String} {d d' : Nat} (hd : d + b = d' + a) :
      HandAlike a b ⟨r, .pausing d⟩ ⟨r, .pausing d'⟩
  | calling {r : String} {reply : Reply} {k k' d d' : Nat} (hd : d + b = d' + a) :
      HandAlike a b ⟨r, .calling k reply d⟩ ⟨r, .calling k' reply d'⟩

lemma HandAlike.due_eq {h h' : Hand} (hh : HandAlike a b h h') : h.due + b = h'.due + a := by
  cases hh with
  | pausing hd => exact hd
  | calling hd => exact hd

/-- What stands at one place of two related lists, and what becomes of the lists there. -/
lemma forall₂_place {α β : Type} {R : α → β → Prop} {xs : List α} {ys : List β}
    (h : List.Forall₂ R xs ys) : ∀ {i : Nat} {x : α}, xs[i]? = some x →
      ∃ y, ys[i]? = some y ∧ R x y ∧ List.Forall₂ R (xs.eraseIdx i) (ys.eraseIdx i) ∧
        ∀ x' y', R x' y' → List.Forall₂ R (xs.set i x') (ys.set i y') := by
  induction h with
  | nil =>
      intro i x hx
      simp at hx
  | @cons x y xs ys hxy hrest ih =>
      intro i x' hx
      cases i with
      | zero =>
          obtain rfl : x = x' := by simpa using hx
          exact ⟨y, rfl, hxy, hrest, fun _ _ hnew => List.Forall₂.cons hnew hrest⟩
      | succ i =>
          obtain ⟨y', hy, hxy', herase, hset⟩ := ih hx
          exact ⟨y', hy, hxy', List.Forall₂.cons hxy herase,
            fun _ _ hnew => List.Forall₂.cons hxy (hset _ _ hnew)⟩

/-- **A batch with strays beside it and the same batch alone.** -/
structure Mirrors (a b : Nat) (u u' : Run) : Prop extends Clear u' where
  now_eq : u.now + b = u'.now + a
  waiting_eq : u'.waiting = u.waiting
  slot_eq : u'.slot = u.slot
  hands_alike : List.Forall₂ (HandAlike a b) u.hands u'.hands
  reported_eq : u'.reported = u.reported
  error_eq : u'.error = u.error

/-- The pool in which the batch is alone: it has the same settings, and nobody cancels it. -/
structure Alone (pool pool' : Pool) : Prop where
  config_eq : pool'.config = pool.config
  cancelAt_eq : pool'.cancelAt = none

namespace Mirrors

lemma isDone_eq (h : Mirrors a b u u') : u'.isDone = u.isDone := by
  have hlength := h.hands_alike.length_eq
  have hempty : u'.hands.isEmpty = u.hands.isEmpty := by
    rw [Bool.eq_iff_iff, List.isEmpty_iff_length_eq_zero, List.isEmpty_iff_length_eq_zero, hlength]
  rw [Run.isDone, Run.isDone, h.waiting_eq, h.slot_eq, hempty]

lemma exists_hand (h : Mirrors a b u u') {i : Nat} {h' : Hand} (hh : u'.hands[i]? = some h') :
    ∃ h, u.hands[i]? = some h ∧ HandAlike a b h h' := by
  obtain ⟨hand, hhand, halike, -⟩ := forall₂_place h.hands_alike.flip hh
  exact ⟨hand, hhand, halike⟩

lemma undisturbed (h : Alone pool pool') (u' : Run) : pool'.Undisturbed u' := by
  intro c hc
  rw [cancelPending, h.cancelAt_eq, ite_self] at hc
  cases hc

lemma settled (h : Mirrors a b u u') (ha : Alone pool pool') (hs : pool.Settled u) :
    pool'.Settled u' := by
  intro hslot
  rw [h.slot_eq] at hslot
  rw [ha.config_eq, ← h.hands_alike.length_eq]
  exact hs hslot

lemma quiet (h : Mirrors a b u u') (ha : Alone pool pool') (hq : pool.Quiet u) :
    pool'.Quiet u' := by
  refine ⟨undisturbed ha u', h.settled ha hq.settled, fun hw => ⟨h.uncancelled, ?_⟩⟩
  rw [h.slot_eq]
  exact (hq.fed (h.waiting_eq ▸ hw)).2

/-- In the pool where the batch is alone only its hands are waited for. -/
lemma exists_due (h : Mirrors a b u u') (ha : Alone pool pool') {due : Nat}
    (hd : due ∈ pool'.dueTimes u') : ∃ due' ∈ pool.dueTimes u, due' + b = due + a := by
  rw [dueTimes, h.strays_nil, cancelPending, ha.cancelAt_eq, ite_self] at hd
  simp only [List.append_nil, Option.toList_none, List.mem_map] at hd
  obtain ⟨h', hm, rfl⟩ := hd
  obtain ⟨i, hi⟩ := List.mem_iff_getElem?.mp hm
  obtain ⟨hand, hhand, halike⟩ := h.exists_hand hi
  exact ⟨hand.due, mem_dueTimes_hands (List.mem_of_getElem? hhand), halike.due_eq⟩

/-- The first hand whose stage is over is at the same place. -/
lemma goOn (h : Mirrors a b u u') (ha : Alone pool pool') {i : Nat} {hand hand' : Hand}
    (hh : u.hands[i]? = some hand) (hh' : u'.hands[i]? = some hand')
    (halike : HandAlike a b hand hand') (hn : pool.Next u (.goOn i)) :
    pool'.Next u' (.goOn i) ∧ hand'.due ≤ u'.now := by
  have hnow := h.now_eq
  have hdue := halike.due_eq
  cases hn with
  | goOn hq hh₀ hd hi =>
      obtain rfl := Option.some.inj (hh.symm.trans hh₀)
      have hd' : hand'.due ≤ u'.now := by omega
      refine ⟨Next.goOn (h.quiet ha hq) hh' hd' fun j hj other hother => ?_, hd'⟩
      obtain ⟨hand₂, hhand₂, halike₂⟩ := h.exists_hand hother
      have hlate := hi j hj hand₂ hhand₂
      have hdue₂ := halike₂.due_eq
      omega

end Mirrors

/-- What two calls have in common that are made at the same time of a batch: when they begin and
how they are answered. -/
def callAt (pool : Pool) (b : Nat) (c : Beginning) : Nat × String × Reply :=
  (c.start + b, c.request, pool.replyTo c)

/-- **What the pool in which the batch is alone does** while the other one makes a transition. -/
structure Follows (pool pool' : Pool) (a b : Nat) (st : Transition) (u' : Run)
    (trail' : List Transition) (t' : Run) : Prop where
  path : pool'.Path u' trail' t'
  punctual : pool'.Punctual trail'
  before_eq : ∀ st' ∈ trail', st'.before = u'
  mirrors : Mirrors a b st.after t'
  calls_eq : (ownCalls trail').map (pool'.callAt a) = (ownCalls [st]).map (pool.callAt b)

lemma Follows.one {st : Transition} {m' : Move} {t' : Run} (h : pool'.Step u' m' t')
    (hp : pool'.Prompt u' m') (hm : Mirrors a b st.after t')
    (hc : (ownCalls [⟨u', m', t'⟩]).map (pool'.callAt a) = (ownCalls [st]).map (pool.callAt b)) :
    ∃ trail' t', Follows pool pool' a b st u' trail' t' :=
  ⟨[⟨u', m', t'⟩], t', Path.cons h (Path.nil t'), punctual_cons.mpr ⟨hp, punctual_nil⟩, by simp,
    hm, hc⟩

/-- Both pools wait as long, though they need not wait for the same thing. -/
lemma Mirrors.wait {w : Nat} (hm : Mirrors a b u u') (ha : Alone pool pool')
    (hp : pool.Prompt u (.wait w)) (hw : u.now < w) :
    ∃ trail' t', Follows pool pool' a b ⟨u, .wait w, { u with now := w }⟩ u' trail' t' := by
  have hnow := hm.now_eq
  obtain ⟨hq, hlt, hle⟩ := hp.wait
  obtain ⟨w', hw'⟩ : ∃ w', w + b = w' + a := ⟨w + b - a, by omega⟩
  have hstep : pool'.Step u' (.wait w') { u' with now := w' } := Step.wait (by omega)
  refine Follows.one hstep (Prompt.passing (hm.quiet ha hq) ?_ ?_) ?_ rfl
  · intro due hdue
    obtain ⟨due', hdue', heq⟩ := hm.exists_due ha hdue
    have hlate := hlt due' hdue'
    omega
  · intro due hdue
    obtain ⟨due', hdue', heq⟩ := hm.exists_due ha hdue
    have hlate := hle due' hdue'
    omega
  · exact ⟨⟨hm.uncancelled, hm.strays_nil⟩, hw', hm.waiting_eq, hm.slot_eq, hm.hands_alike,
      hm.reported_eq, hm.error_eq⟩

/-- **What a batch does with strays beside it, it does alone.** -/
lemma Step.mirror (h : pool.Step u m t) (hp : pool.Prompt u m) (ht : t.cancelled = false)
    (ha : Alone pool pool') (hm : Mirrors a b u u')
    (hagree : ∀ c ∈ ownCalls [⟨u, m, t⟩],
      pool'.crawler u'.called c.request = pool.replyTo c) :
    ∃ trail' t', Follows pool pool' a b ⟨u, m, t⟩ u' trail' t' := by
  have hu : u.cancelled = false := ((Path.cons h (Path.nil t)).uncancelled ht).1
  have hnow := hm.now_eq
  cases h with
  | cancel => cases ht
  | giveUp hc | refuse hc =>
      rw [hu] at hc
      cases hc
  | @feed r rest hc hs hw =>
      have hnext := hp.next_of_ne (by simp)
      have hs' := hm.slot_eq.trans hs
      have hw' := hm.waiting_eq.trans hw
      refine Follows.one (Step.feed hm.uncancelled hs' hw')
        (Prompt.next (Next.feed (Mirrors.undisturbed ha u') hm.uncancelled hs' hw')) ?_ rfl
      exact ⟨⟨hm.uncancelled, hm.strays_nil⟩, hnow, rfl, rfl, hm.hands_alike, hm.reported_eq,
        hm.error_eq⟩
  | @take r hc hs hf =>
      have hs' := hm.slot_eq.trans hs
      have hf' : u'.hands.length < pool'.config.workers := by
        rw [ha.config_eq, ← hm.hands_alike.length_eq]
        exact hf
      refine Follows.one (Step.take hm.uncancelled hs' hf')
        (Prompt.next (Next.take (Mirrors.undisturbed ha u') hs' hf')) ?_ rfl
      refine ⟨⟨hm.uncancelled, hm.strays_nil⟩, hnow, hm.waiting_eq, rfl, ?_, hm.reported_eq,
        hm.error_eq⟩
      refine List.rel_append hm.hands_alike (List.Forall₂.cons ?_ List.Forall₂.nil)
      refine HandAlike.pausing ?_
      rw [ha.config_eq]
      omega
  | @call i d r hh hd hr =>
      obtain ⟨hand', hh', halike, -, hset⟩ := forall₂_place hm.hands_alike hh
      have hsame : pool'.crawler u'.called r = pool.crawler u.called r :=
        hagree ⟨r, u.now, u.called, true⟩ (by rw [ownCalls_pausing hh]; simp)
      obtain ⟨hnext, hd'⟩ := hm.goOn ha hh hh' halike (hp.next_of_ne (by simp))
      have hcancels : (pool.crawler u.called r).cancelsAtOnce = false := by simpa [hu] using ht
      cases halike with
      | @pausing _ _ d' hdd =>
          refine Follows.one (Step.call hh' hd' (hsame ▸ hr)) (Prompt.next hnext) ?_ ?_
          · refine ⟨⟨?_, hm.strays_nil⟩, hnow, hm.waiting_eq, hm.slot_eq, hset _ _ ?_,
              hm.reported_eq, hm.error_eq⟩
            · simp [hm.uncancelled, hsame, hcancels]
            · rw [hsame]
              exact HandAlike.calling (by omega)
          · rw [ownCalls_pausing hh, ownCalls_pausing hh']
            simp [callAt, replyTo, hsame, hnow]
  | @breakDown i d r hh hd hr =>
      obtain ⟨hand', hh', halike, herase, -⟩ := forall₂_place hm.hands_alike hh
      have hsame : pool'.crawler u'.called r = pool.crawler u.called r :=
        hagree ⟨r, u.now, u.called, true⟩ (by rw [ownCalls_pausing hh]; simp)
      obtain ⟨hnext, hd'⟩ := hm.goOn ha hh hh' halike (hp.next_of_ne (by simp))
      have hcancels : (pool.crawler u.called r).cancelsAtOnce = false := by
        simpa [Run.report, hu] using ht
      cases halike with
      | @pausing _ _ d' hdd =>
          refine Follows.one (Step.breakDown hh' hd' (hsame ▸ hr)) (Prompt.next hnext) ?_ ?_
          · refine ⟨⟨?_, hm.strays_nil⟩, hnow, hm.waiting_eq, hm.slot_eq, herase, ?_, ?_⟩
            · simp [Run.report, hm.uncancelled, hsame, hcancels]
            · simp only [Run.report, Run.beginCall, hm.reported_eq, hsame]
            · simp only [Run.report, Run.beginCall, hm.error_eq, hsame]
          · rw [ownCalls_pausing hh, ownCalls_pausing hh']
            simp [callAt, replyTo, hsame, hnow]
  | @finish i k d r reply hh hd =>
      obtain ⟨hand', hh', halike, herase, -⟩ := forall₂_place hm.hands_alike hh
      obtain ⟨hnext, hd'⟩ := hm.goOn ha hh hh' halike (hp.next_of_ne (by simp))
      have hcancels : reply.cancels = false := by simpa [Run.report, hu] using ht
      cases halike with
      | @calling _ _ _ k' _ d' hdd =>
          refine Follows.one (Step.finish hh' hd') (Prompt.next hnext) ?_ ?_
          · refine ⟨⟨?_, hm.strays_nil⟩, hnow, hm.waiting_eq, hm.slot_eq, herase, ?_, ?_⟩
            · simp [Run.report, hm.uncancelled, hcancels]
            · simp only [Run.report, Run.endCall, hm.reported_eq]
            · simp only [Run.report, Run.endCall, hm.error_eq]
          · rw [ownCalls_calling hh, ownCalls_calling hh']
            rfl
  | strayCall | strayBreakDown | strayFinish =>
      -- the batch does nothing
      refine ⟨[], u', Path.nil u', punctual_nil, by simp, ?_, by rw [ownCalls_strayOn]; rfl⟩
      exact ⟨hm.toClear, hnow, hm.waiting_eq, hm.slot_eq, hm.hands_alike, hm.reported_eq,
        hm.error_eq⟩
  | wait hw => exact hm.wait ha hp hw

/-- One move begins one call at most. -/
lemma ownCalls_eq_of_mem {st : Transition} {c : Beginning} (hc : c ∈ ownCalls [st]) :
    ownCalls [st] = [c] := by
  rw [ownCalls_cons, ownCalls_nil, List.append_nil] at hc ⊢
  generalize st.call? = first at hc ⊢
  cases first with
  | none => simp at hc
  | some first =>
      obtain ⟨hmem, hown⟩ := List.mem_filter.mp hc
      obtain rfl : c = first := by simpa using hmem
      simp [hown]

/-- **A crawl function that answers the calls of a batch as another one did**, when it is asked for
them alone. -/
def Agrees (pool pool' : Pool) (called : List String) (calls : List Beginning) : Prop :=
  ∀ past c rest, calls = past ++ c :: rest →
    pool'.crawler ((past.map (·.request)).reverse ++ called) c.request = pool.replyTo c

/-- There is such a crawl function for any calls: it counts how often it was asked. -/
lemma exists_agrees (pool : Pool) (calls : List Beginning) :
    ∃ pool', Alone pool pool' ∧ pool.Agrees pool' [] calls := by
  refine ⟨⟨pool.config, fun earlier _ => ((calls[earlier.length]?).map pool.replyTo).getD default,
    none⟩, ⟨rfl, rfl⟩, ?_⟩
  rintro past c rest rfl
  simp

lemma Agrees.rest {called : List String} {calls calls' : List Beginning}
    (h : pool.Agrees pool' called (calls ++ calls')) :
    pool.Agrees pool' ((calls.map (·.request)).reverse ++ called) calls' := by
  intro past c rest hsplit
  have hall := h (calls ++ past) c rest (by rw [hsplit, List.append_assoc])
  rwa [List.map_append, List.reverse_append, List.append_assoc] at hall

lemma Follows.called_eq {st : Transition} {t' : Run}
    (h : Follows pool pool' a b st u' trail' t') (hn : u'.strays = []) :
    t'.called = ((ownCalls [st]).map (·.request)).reverse ++ u'.called := by
  have hrequests := congrArg (List.map fun c => c.2.1) h.calls_eq
  rw [List.map_map, List.map_map] at hrequests
  rw [h.path.called_log, ← h.path.calls_own hn]
  exact congrArg (fun requests => requests.reverse ++ u'.called) hrequests

lemma Path.mirror (h : pool.Path u trail t) (hp : pool.Punctual trail) (ho : Unfinished trail)
    (ht : t.cancelled = false) (ha : Alone pool pool') (hm : Mirrors a b u u')
    (hagree : pool.Agrees pool' u'.called (ownCalls trail)) :
    ∃ trail' t', pool'.Path u' trail' t' ∧ pool'.Punctual trail' ∧ Unfinished trail' ∧
      Mirrors a b t t' ∧
      (ownCalls trail').map (pool'.callAt a) = (ownCalls trail).map (pool.callAt b) := by
  induction h generalizing u' with
  | nil => exact ⟨[], u', Path.nil u', punctual_nil, by simp [Unfinished], hm, rfl⟩
  | @cons s u t m trail hs hpath ih =>
      obtain ⟨hprompt, hpunctual⟩ := punctual_cons.mp hp
      obtain ⟨hopen, hrest⟩ := List.forall_mem_cons.mp ho
      have hu := (hpath.uncancelled ht).1
      rw [ownCalls_split] at hagree ⊢
      have hfirst : ∀ c ∈ ownCalls [⟨s, m, u⟩],
          pool'.crawler u'.called c.request = pool.replyTo c := by
        intro c hc
        rw [ownCalls_eq_of_mem hc] at hagree
        exact hagree [] c (ownCalls trail) rfl
      obtain ⟨first, v', hfollows⟩ := hs.mirror hprompt hu ha hm hfirst
      have hlater := hagree.rest
      rw [← hfollows.called_eq hm.strays_nil] at hlater
      obtain ⟨later, t', hpt, hpunctual', hunfinished, hmt, hcalls'⟩ :=
        ih hpunctual hrest ht hfollows.mirrors hlater
      refine ⟨first ++ later, t', hfollows.path.append hpt,
        punctual_append.mpr ⟨hfollows.punctual, hpunctual'⟩,
        List.forall_mem_append.mpr ⟨fun st hst => ?_, hunfinished⟩, hmt, ?_⟩
      · rw [hfollows.before_eq st hst, hm.isDone_eq]
        exact hopen
      · rw [ownCalls_append, List.map_append, List.map_append, hfollows.calls_eq, hcalls']

/-- **A batch goes as it would go alone**, from a state without strays and with a crawl function
that answers its calls in the same way: it gives the same sources in the same order, takes as long,
and makes the same calls after the same time. -/
lemma Path.dispatch_alone (h : pool.Path (s.begin requests) trail t) (hp : pool.Punctual trail)
    (ho : Unfinished trail) (hd : t.isDone = true) (ht : t.cancelled = false)
    (ha : Alone pool pool') {s' : Run} (hs' : Clear s')
    (hagree : pool.Agrees pool' s'.called (ownCalls trail)) :
    ∃ trail' t', pool'.dispatch none requests s' = (t', some ⟨t.reported, t.error⟩) ∧
      pool'.Path (s'.begin requests) trail' t' ∧ t.now + s'.now = t'.now + s.now ∧
      (ownCalls trail').map (pool'.callAt s.now) = (ownCalls trail).map (pool.callAt s'.now) := by
  have hm : Mirrors s.now s'.now (s.begin requests) (s'.begin requests) :=
    ⟨⟨hs'.uncancelled, hs'.strays_nil⟩, Nat.add_comm _ _, rfl, rfl, List.Forall₂.nil, rfl, rfl⟩
  obtain ⟨trail', t', hpath, hpunctual, hopen, hmirror, hcalls⟩ :=
    h.mirror hp ho ht ha hm hagree
  have hdispatch := dispatch_of_punctual hpath hpunctual hopen hs'.strays_nil
    (hmirror.isDone_eq.trans hd)
  rw [hmirror.reported_eq, hmirror.error_eq] at hdispatch
  exact ⟨trail', t', hdispatch, hpath, hmirror.now_eq, hcalls⟩

end Pool

end PageCrawl
