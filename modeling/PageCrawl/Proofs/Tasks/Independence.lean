import PageCrawl.Proofs.Pool.Alone
import PageCrawl.Proofs.Tasks.Leftovers

/-!
# Batches of one pool do not get in each other's way

What the crew of a batch does is an execution of its own, in a pool through which nothing was
dispatched before: leave out what other crews do.  `Tasks.Beside` relates the two pools from step to
step.  They make the calls of the batch in the same order at the same times; only the numbers of the
calls may differ, since other crews may have made calls for the same request.  So the crawl function
has to answer them in the same way, and `Pool.Agrees` says that it does.

A step of a crew is either no business of what its workers have in their hands (`Crew.Plain`), or a
request goes on; the numbers of calls are all that the hands of the two crews differ in.
-/

namespace PageCrawl

open Pool

namespace Crew

variable {pool pool' : Pool} {c c' c₀ : Shared} {k k' : Crew} {called : Option String}

/-- **A step that is no business of what workers have in their hands**: the same is possible
whatever that is, as long as it is as much. -/
structure Plain (pool pool' : Pool) (c : Shared) (k k' : Crew) (more : List Hand) : Prop where
  /-- Only taking a request adds to the hands. -/
  hands_eq : k'.hands = k.hands ++ more
  step : ∀ H c₀, H.length = k.hands.length → c₀.now = c.now → c₀.cancelled = c.cancelled →
    Crew.Step pool' c₀ { k with hands := H } none c₀ { k' with hands := H ++ more }
  pausing : ∀ h ∈ more, ∃ q d, h = ⟨q, .pausing d⟩

/-- **What a step can be**: a plain one, or a request in somebody's hands goes on. -/
inductive Kind (pool pool' : Pool) (c : Shared) (k : Crew) : Option String → Shared → Crew → Prop
  | plain {k' : Crew} {more : List Hand} (h : Plain pool pool' c k k' more) :
      Kind pool pool' c k none c k'
  | goOn {i : Nat} {h h' : Hand} {s : Run} (hh : k.hands[i]? = some h) (hd : h.due ≤ c.now)
      (hg : c.run.goOn pool.crawler h = (s, .inl h')) :
      Kind pool pool' c k h.pausing? s.shared { k with hands := k.hands.set i h' }
  | finish {i : Nat} {h : Hand} {outcome : Outcome} {s : Run} (hh : k.hands[i]? = some h)
      (hd : h.due ≤ c.now) (hg : c.run.goOn pool.crawler h = (s, .inr outcome)) :
      Kind pool pool' c k h.pausing? s.shared { k with
        hands := k.hands.eraseIdx i, outbox := k.outbox ++ [⟨h.request, outcome⟩] }

/-- A step that adds nothing to the hands. -/
lemma Kind.same (hh : k'.hands = k.hands) (hs : ∀ H c₀, H.length = k.hands.length →
    c₀.now = c.now → c₀.cancelled = c.cancelled →
      Crew.Step pool' c₀ { k with hands := H } none c₀ { k' with hands := H }) :
    Kind pool pool' c k none c k' := by
  have hplain : Plain pool pool' c k k' [] := by
    refine ⟨by rw [hh, List.append_nil], fun H c₀ hl hn hc => ?_, by simp⟩
    rw [List.append_nil]
    exact hs H c₀ hl hn hc
  exact Kind.plain hplain

lemma stopped_congr {b : Bool} (hs : k.stopped c = b) (hc : c₀.cancelled = c.cancelled)
    (H : List Hand) : Crew.stopped c₀ { k with hands := H } = b := by
  rw [stopped, hc]
  exact hs

lemma staff_congr {H : List Hand} (hl : H.length = k.hands.length) :
    ({ k with hands := H } : Crew).staff = k.staff := by
  rw [staff, staff, hl]

lemma Step.kind (hs : k.Step pool c called c' k') (hconfig : pool'.config = pool.config) :
    Kind pool pool' c k called c' k' := by
  cases hs with
  | goOn hh hd hg => exact Kind.goOn hh hd hg
  | finish hh hd hg => exact Kind.finish hh hd hg
  | @take q hc hs hi =>
      refine Kind.plain ⟨rfl, fun H c₀ hl hn hcc => ?_, by simp⟩
      rw [← hn, ← hconfig]
      exact Step.take (stopped_congr hc hcc H) hs hi
  | feed hc hw hs => exact Kind.same rfl fun H _ _ _ hcc => Step.feed (stopped_congr hc hcc H) hw hs
  | giveUp hc hw hl hr =>
      exact Kind.same rfl fun H _ _ _ hcc => Step.giveUp (stopped_congr hc hcc H) hw hl hr
  | forsake hc hw hf =>
      exact Kind.same rfl fun H _ _ _ hcc => Step.forsake (stopped_congr hc hcc H) hw hf
  | depart hw => exact Kind.same rfl fun _ _ _ _ _ => Step.depart hw
  | refuse hc hs hi =>
      exact Kind.same rfl fun H _ _ _ hcc => Step.refuse (stopped_congr hc hcc H) hs hi
  | leave hs hw hi => exact Kind.same rfl fun _ _ _ _ _ => Step.leave hs hw hi
  | send ho hl hr => exact Kind.same rfl fun _ _ _ _ _ => Step.send ho hl hr
  | unheard ho hl => exact Kind.same rfl fun _ _ _ _ _ => Step.unheard ho hl
  | release hp hs => exact Kind.same rfl fun _ _ _ _ _ => Step.release hp hs
  | collect hp hs hc =>
      refine Kind.same rfl fun H c₀ _ hn _ => ?_
      rw [← hn]
      exact Step.collect hp hs hc
  | close hp hs hc hn =>
      refine Kind.same rfl fun H c₀ hl _ _ => Step.close hp hs hc ?_
      rw [senders, staff_congr hl]
      exact hn
  | done hp hn =>
      refine Kind.same rfl fun H c₀ hl hnow _ => ?_
      rw [← hnow]
      exact Step.done hp ((staff_congr hl).trans hn)

/-- **A crew is quiet if one is whose workers have the same in their hands.** -/
lemma Quiet.congr {H : List Hand} (hq : k.Quiet pool c) (hconfig : pool'.config = pool.config)
    (hn : c₀.now = c.now) (hc : c₀.cancelled = c.cancelled)
    (hh : List.Forall₂ (HandAlike 0 0) k.hands H) :
    Crew.Quiet pool' c₀ { k with hands := H } := by
  intro r c₁ k₁ hs
  have hkind : Kind pool' pool c₀ { k with hands := H } r c₁ k₁ := hs.kind hconfig.symm
  cases hkind with
  | plain h => exact hq _ _ _ (h.step k.hands c hh.length_eq hn.symm hc.symm)
  | goOn hget hd | finish hget hd =>
      obtain ⟨h, hh', halike, -⟩ := forall₂_place hh.flip hget
      have hdue : h.due + 0 = _ + 0 := halike.due_eq
      exact not_quiet_of_due hh' (by omega) hq

end Crew

namespace Tasks

variable {pool pool' : Pool} {T U V : Tasks} {a : Actor} {r : Option String} {s t : Run}
  {calls calls' past : List (Actor × Beginning)} {requests : List String} {time : Nat}

/-- **A batch with others beside it and the same batch alone.**  `own` are the calls of its crew. -/
structure Beside (own : List Beginning) (U U' : Tasks) : Prop where
  now_eq : U'.now = U.now
  uncancelled : U'.cancelled = false
  left_nil : U'.left = []
  called_eq : U'.called = (own.map (·.request)).reverse
  crew_eq : U'.crew = { U.crew with hands := U'.crew.hands }
  hands_alike : List.Forall₂ (HandAlike 0 0) U.crew.hands U'.crew.hands

/-- **What two pools do when a request goes on in both**, if they answer the call in the same way.
-/
structure GoAlike (pool' : Pool) (c₀ : Shared) (h h₀ : Hand) (v : Run) (next : Hand ⊕ Outcome)
    (v' : Run) (next' : Hand ⊕ Outcome) : Prop where
  goOn_eq : c₀.run.goOn pool'.crawler h₀ = (v', next')
  alike : Sum.LiftRel (HandAlike 0 0) (· = ·) next next'
  cancelled : v.cancelled = false → v'.cancelled = false
  called_eq : v'.called = h.pausing?.toList ++ c₀.called

lemma goOn_alike {c c₀ : Shared} {h h₀ : Hand} {v : Run} {next : Hand ⊕ Outcome}
    (hg : c.run.goOn pool.crawler h = (v, next)) (halike : HandAlike 0 0 h h₀)
    (hreply : ∀ q, h.pausing? = some q → pool'.crawler c₀.called q = pool.crawler c.called q)
    (hnow : c₀.now = c.now) (hc : c₀.cancelled = false) :
    ∃ v' next', GoAlike pool' c₀ h h₀ v next v' next' := by
  have hrun : c₀.run.cancelled = false := hc
  rcases hg' : c₀.run.goOn pool'.crawler h₀ with ⟨v', next'⟩
  suffices hall : Sum.LiftRel (HandAlike 0 0) (· = ·) next next' ∧
      (v.cancelled = false → v'.cancelled = false) ∧
      v'.called = h.pausing?.toList ++ c₀.called from
    ⟨v', next', hg', hall.1, hall.2.1, hall.2.2⟩
  cases halike with
  | @pausing q d d' hd =>
      have hsame : pool'.crawler c₀.run.called q = pool.crawler c.run.called q := hreply q rfl
      have hrunnow : c₀.run.now = c.run.now := hnow
      cases ha : (pool.crawler c.run.called q).atCall with
      | true =>
          simp only [Run.goOn, ha, ↓reduceIte, Prod.mk.injEq] at hg
          obtain ⟨rfl, rfl⟩ := hg
          simp only [Run.goOn, hsame, ha, ↓reduceIte, Prod.mk.injEq] at hg'
          obtain ⟨rfl, rfl⟩ := hg'
          refine ⟨Sum.LiftRel.inr rfl, fun hv => ?_, rfl⟩
          rw [Bool.or_eq_false_iff] at hv ⊢
          exact ⟨hrun, hv.2⟩
      | false =>
          simp only [Run.goOn, ha, Bool.false_eq_true, ↓reduceIte, Prod.mk.injEq] at hg
          obtain ⟨rfl, rfl⟩ := hg
          simp only [Run.goOn, hsame, ha, Bool.false_eq_true, ↓reduceIte, Prod.mk.injEq] at hg'
          obtain ⟨rfl, rfl⟩ := hg'
          refine ⟨Sum.LiftRel.inl (HandAlike.calling ?_), fun hv => ?_, rfl⟩
          · simp [Run.beginCall, hrunnow]
          · rw [Bool.or_eq_false_iff] at hv ⊢
            exact ⟨hrun, hv.2⟩
  | @calling q reply k k' d d' hd =>
      simp only [Run.goOn, Prod.mk.injEq] at hg hg'
      obtain ⟨rfl, rfl⟩ := hg
      obtain ⟨rfl, rfl⟩ := hg'
      refine ⟨Sum.LiftRel.inr rfl, fun hv => ?_, endCall_called c₀.run q k'⟩
      rw [Bool.or_eq_false_iff] at hv ⊢
      exact ⟨hrun, hv.2⟩

/-- The calls that the crew begins with a step. -/
lemma callsBy_crew_begins (T : Tasks) (r : Option String) :
    callsBy .crew (T.begins .crew r) = r.toList.map fun r => ⟨r, T.now, T.called, true⟩ :=
  callsBy_begins T .crew r

lemma HandAlike.pausing?_eq {h h₀ : Hand} (halike : HandAlike 0 0 h h₀) :
    h₀.pausing? = h.pausing? := by
  cases halike <;> rfl

lemma HandAlike.request_eq {h h₀ : Hand} (halike : HandAlike 0 0 h h₀) :
    h₀.request = h.request := by
  cases halike <;> rfl

/-- **What the pool in which the batch is alone does** during a step of the other one, with the
calls `new` of the crew. -/
structure Keeps (pool pool' : Pool) (own new : List Beginning) (U' V : Tasks)
    (calls' : List (Actor × Beginning)) (V' : Tasks) : Prop where
  steps : U'.Steps pool' calls' V'
  beside : Beside (own ++ new) V V'
  calls_eq : (callsBy .crew calls').map (pool'.callAt 0) = new.map (pool.callAt 0)

variable {own : List Beginning} {U' : Tasks}

/-- The crew of the batch alone differs from the other one by what is in the hands. -/
lemma Beside.crew_with (hb : Beside own U U') (H : List Hand) :
    { U'.crew with hands := H } = { U.crew with hands := H } :=
  congrArg (fun k : Crew => { k with hands := H }) hb.crew_eq

lemma Beside.plain_step {k : Crew} {more : List Hand} (hb : Beside own U U')
    (hc : U.cancelled = false) (h : Crew.Plain pool pool' U.toShared U.crew k more) :
    ∃ calls' V', Keeps pool pool' own [] U' { U with crew := k } calls' V' := by
  have hlength := hb.hands_alike.length_eq
  have hstep := h.step U'.crew.hands U'.toShared hlength.symm hb.now_eq
    (hb.uncancelled.trans hc.symm)
  rw [← hb.crew_eq] at hstep
  refine ⟨_, _, Steps.single (Step.crew hstep), ?_, rfl⟩
  rw [List.append_nil]
  refine ⟨hb.now_eq, hb.uncancelled, hb.left_nil, hb.called_eq, rfl, ?_⟩
  change List.Forall₂ _ k.hands (U'.crew.hands ++ more)
  rw [h.hands_eq]
  refine List.rel_append hb.hands_alike (List.forall₂_same.mpr fun hand hm => ?_)
  obtain ⟨q, d, rfl⟩ := h.pausing hand hm
  exact HandAlike.pausing rfl

/-- The log of the batch alone after a request has gone on. -/
lemma Beside.called_goOn (hb : Beside own U U') {h : Hand} :
    h.pausing?.toList ++ U'.called
      = ((own ++ callsBy .crew (U.begins .crew h.pausing?)).map (·.request)).reverse := by
  rw [hb.called_eq, callsBy_crew_begins, List.map_append, List.reverse_append]
  cases h.pausing? <;> simp

lemma Beside.calls_goOn (hb : Beside own U U') {h h₀ : Hand} (halike : HandAlike 0 0 h h₀)
    (hreply : ∀ q, h.pausing? = some q → pool'.crawler U'.called q = pool.crawler U.called q) :
    (callsBy .crew (U'.begins .crew h₀.pausing?)).map (pool'.callAt 0)
      = (callsBy .crew (U.begins .crew h.pausing?)).map (pool.callAt 0) := by
  rw [HandAlike.pausing?_eq halike, callsBy_crew_begins, callsBy_crew_begins]
  cases hp : h.pausing? with
  | none => rfl
  | some q => simp [callAt, replyTo, hreply q hp, hb.now_eq]

lemma Beside.crew_step {c : Shared} {k : Crew} (hb : Beside own U U')
    (hk : U.crew.Step pool U.toShared r c k) (hconfig : pool'.config = pool.config)
    (hU : U.cancelled = false) (hc : c.cancelled = false)
    (hagree : ∀ b ∈ callsBy .crew (U.begins .crew r),
      pool'.crawler U'.called b.request = pool.replyTo b) :
    ∃ calls' V', Keeps pool pool' own (callsBy .crew (U.begins .crew r)) U'
      { U with toShared := c, crew := k } calls' V' := by
  have hnow : c.now = U.now := hk.now_eq
  have hkind : Crew.Kind pool pool' U.toShared U.crew r c k := hk.kind hconfig
  have hreply : ∀ q, r = some q → pool'.crawler U'.called q = pool.crawler U.called q := by
    rintro q rfl
    exact hagree ⟨q, U.now, U.called, true⟩ (by simp [callsBy_crew_begins])
  cases hkind with
  | plain h => exact hb.plain_step hU h
  | @goOn i h h' v hh hd hg =>
      obtain ⟨h₀, hh₀, halike, -, hset⟩ := forall₂_place hb.hands_alike hh
      have hdue : h.due + 0 = h₀.due + 0 := halike.due_eq
      have hd' : h₀.due ≤ U'.now := by rw [hb.now_eq]; omega
      obtain ⟨v', next', hgo⟩ := goOn_alike hg halike hreply hb.now_eq hb.uncancelled
      have hnow' := Run.goOn_now U'.toShared.run pool'.crawler h₀
      have hgoOn := hgo.goOn_eq
      cases hgo.alike with
      | @inl _ h₀' halike' =>
          have hstep : U'.crew.Step pool' U'.toShared h₀.pausing? v'.shared _ :=
            Crew.Step.goOn hh₀ hd' hgoOn
          rw [hgoOn] at hnow'
          refine ⟨_, _, Steps.single (Step.crew hstep), ⟨?_, hgo.cancelled hc, hb.left_nil,
            hgo.called_eq.trans hb.called_goOn, hb.crew_with _, hset _ _ halike'⟩,
            hb.calls_goOn halike hreply⟩
          exact hnow'.trans (hb.now_eq.trans hnow.symm)
  | @finish i h outcome v hh hd hg =>
      obtain ⟨h₀, hh₀, halike, herase, -⟩ := forall₂_place hb.hands_alike hh
      have hdue : h.due + 0 = h₀.due + 0 := halike.due_eq
      have hd' : h₀.due ≤ U'.now := by rw [hb.now_eq]; omega
      obtain ⟨v', next', hgo⟩ := goOn_alike hg halike hreply hb.now_eq hb.uncancelled
      have hnow' := Run.goOn_now U'.toShared.run pool'.crawler h₀
      have hgoOn := hgo.goOn_eq
      cases hgo.alike with
      | @inr _ outcome' hsame =>
          subst hsame
          have hstep : U'.crew.Step pool' U'.toShared h₀.pausing? v'.shared _ :=
            Crew.Step.finish hh₀ hd' hgoOn
          rw [hgoOn] at hnow'
          refine ⟨_, _, Steps.single (Step.crew hstep), ⟨?_, hgo.cancelled hc, hb.left_nil,
            hgo.called_eq.trans hb.called_goOn, ?_, herase⟩, hb.calls_goOn halike hreply⟩
          · exact hnow'.trans (hb.now_eq.trans hnow.symm)
          · rw [HandAlike.request_eq halike]
            exact congrArg (fun k : Crew => ({ k with
              hands := U'.crew.hands.eraseIdx i
              outbox := k.outbox ++ [(⟨h.request, outcome⟩ : PageSource)] } : Crew)) hb.crew_eq

lemma Beside.step (hb : Beside own U U') (hs : U.Step pool a r V)
    (hconfig : pool'.config = pool.config) (hV : V.cancelled = false)
    (hagree : ∀ b ∈ callsBy .crew (U.begins a r),
      pool'.crawler U'.called b.request = pool.replyTo b) :
    ∃ calls' V', Keeps pool pool' own (callsBy .crew (U.begins a r)) U' V calls' V' := by
  have hU : U.cancelled = false := by
    by_contra hne
    have hcancelled := hs.cancelled_mono (by simpa using hne)
    rw [hV] at hcancelled
    cases hcancelled
  cases hs with
  | cancel => cases hV
  | crew hk => exact hb.crew_step hk hconfig hU hV hagree
  | left hl hk =>
      -- the batch does nothing
      refine ⟨[], U', Steps.refl, ?_, by rw [callsBy_begins_ne (by simp)]; rfl⟩
      rw [callsBy_begins_ne (by simp), List.append_nil]
      exact ⟨hb.now_eq.trans hk.now_eq.symm, hb.uncancelled, hb.left_nil, hb.called_eq, hb.crew_eq,
        hb.hands_alike⟩
  | @wait w ht hq hd =>
      have hcrews : U'.crews = [U'.crew] := by rw [crews, hb.left_nil]
      have hquiet : Crew.Quiet pool' U'.toShared U'.crew := by
        rw [hb.crew_eq]
        exact (hq U.crew List.mem_cons_self).congr hconfig hb.now_eq
          (hb.uncancelled.trans hU.symm) hb.hands_alike
      have hstep : U'.Step pool' .clock none { U' with now := w } := by
        refine Step.wait (hb.now_eq ▸ ht) ?_ ?_
        · rw [hcrews]
          simpa using hquiet
        · rw [hcrews]
          refine fun k hk hand hm => ?_
          obtain rfl := List.mem_singleton.mp hk
          obtain ⟨i, hi⟩ := List.mem_iff_getElem?.mp hm
          obtain ⟨h, hh, halike, -⟩ := forall₂_place hb.hands_alike.flip hi
          have hdue : h.due + 0 = hand.due + 0 := halike.due_eq
          have hle := hd U.crew List.mem_cons_self h (List.mem_of_getElem? hh)
          omega
      refine ⟨_, _, Steps.single hstep, ?_, rfl⟩
      have hnil : own ++ callsBy .crew (U.begins .clock none) = own := List.append_nil own
      rw [hnil]
      exact ⟨rfl, hb.uncancelled, hb.left_nil, hb.called_eq, hb.crew_eq, hb.hands_alike⟩

lemma Agrees.of_append {called : List String} {l l' : List Beginning}
    (h : pool.Agrees pool' called (l ++ l')) : pool.Agrees pool' called l := by
  intro past c rest hsplit
  exact h past c (rest ++ l') (by rw [hsplit, List.append_assoc, List.cons_append])

/-- **What a batch does with others beside it, it does alone.** -/
lemma Steps.beside (hs : T.Steps pool calls U) {T' : Tasks} (hb : Beside [] T T')
    (hconfig : pool'.config = pool.config) (hU : U.cancelled = false)
    (hagree : pool.Agrees pool' [] (callsBy .crew calls)) :
    ∃ calls' U', Keeps pool pool' [] (callsBy .crew calls) T' U calls' U' := by
  induction hs with
  | refl => exact ⟨[], T', Steps.refl, hb, rfl⟩
  | @step calls U V a r hr hs ih =>
      have hbefore : U.cancelled = false := by
        by_contra hne
        have hcancelled := hs.cancelled_mono (by simpa using hne)
        rw [hU] at hcancelled
        cases hcancelled
      rw [callsBy_append] at hagree ⊢
      obtain ⟨calls', U', hkeeps⟩ := ih hbefore (Agrees.of_append hagree)
      have hfirst : ∀ b ∈ callsBy .crew (U.begins a r),
          pool'.crawler U'.called b.request = pool.replyTo b := by
        intro b hm
        obtain ⟨l, l', hsplit⟩ := List.append_of_mem hm
        have hone : (callsBy .crew (U.begins a r)).length ≤ 1 := by
          rw [callsBy, List.length_map]
          refine (List.length_filter_le _ _).trans ?_
          rw [begins, List.length_map]
          cases r <;> simp
        obtain rfl : l = [] := by
          rw [hsplit] at hone
          simp only [List.length_append, List.length_cons] at hone
          exact List.length_eq_zero_iff.mp (by omega)
        have hreply := hagree (callsBy .crew calls) b l' (by rw [hsplit, List.nil_append])
        rw [hkeeps.beside.called_eq, List.nil_append]
        rwa [List.append_nil] at hreply
      obtain ⟨new, V', hlast⟩ := hkeeps.beside.step hs hconfig hU hfirst
      refine ⟨calls' ++ new, V', hkeeps.steps.trans hlast.steps, ?_, ?_⟩
      · have hbeside := hlast.beside
        rwa [List.nil_append] at hbeside ⊢
      · rw [callsBy_append, List.map_append, List.map_append, hkeeps.calls_eq, hlast.calls_eq]

lemma beside_begin (pool pool' : Pool) (requests : List String) (T : Tasks)
    (hconfig : pool'.config = pool.config) :
    Beside [] (T.begin pool requests) ((fresh T.now).begin pool' requests) := by
  cases requests with
  | nil => exact ⟨rfl, rfl, rfl, rfl, rfl, List.Forall₂.nil⟩
  | cons r rest =>
      refine ⟨rfl, rfl, rfl, rfl, ?_, List.Forall₂.nil⟩
      simp only [Tasks.begin, List.isEmpty_cons, Bool.false_eq_true, ↓reduceIte, Crew.start,
        hconfig]

/-- **A batch that goes as it would alone.** -/
structure Independent (pool : Pool) (T : Tasks) (requests : List String)
    (calls : List (Actor × Beginning)) (U : Tasks) : Prop where
  uncancelled : ∀ source ∈ U.crew.result.results, source.isCancelled = false
  results_perm : (U.crew.result.results.map (·.request)).Perm requests
  /-- In every fresh pool with the same settings and a crawl function that answers the calls of the
  batch as they were answered here, the tasks can do the same at the same times: they collect the
  same sources at the same times, return at the same time, and make the same calls. -/
  alone : ∀ pool', pool'.config = pool.config → pool.Agrees pool' [] (callsBy .crew calls) →
    ∃ calls' U', ((fresh T.now).begin pool' requests).Steps pool' calls' U' ∧ U'.crew = U.crew ∧
      (callsBy .crew calls').map (pool'.callAt 0) = (callsBy .crew calls).map (pool.callAt 0)
  /-- There is such a crawl function. -/
  fresh : ∃ pool' : Pool, pool'.config = pool.config ∧
    pool.Agrees pool' [] (callsBy .crew calls)

lemma Steps.independent (hs : (T.begin pool requests).Steps pool calls U)
    (hT : Reached pool requests (T.begin pool requests) (s.begin requests))
    (hp : U.crew.phase = .returned time) (hc : U.cancelled = false) :
    Independent pool T requests calls U := by
  obtain ⟨trail, t, hfollows, hU⟩ := hs.reached hT
  have hgone := hU.sound.crew.gone (by simp [hp])
  refine ⟨fun source hm => ?_, (hs.ended hT hp).results_perm, fun pool' hconfig hagree => ?_, ?_⟩
  · have hnone : t.reported.filter (·.isCancelled) = [] :=
      hfollows.path.refused_eq (hfollows.shows.cancelled_eq.trans hc)
    have hreported : source ∈ t.reported := by
      refine hfollows.shows.reported.symm.subset ?_
      rw [Crew.sources, hgone.outbox, hgone.channel]
      exact hm
    simpa using List.filter_eq_nil_iff.mp hnone source hreported
  · obtain ⟨calls', U', hkeeps⟩ :=
      hs.beside (beside_begin pool pool' requests T hconfig) hconfig hc hagree
    refine ⟨calls', U', hkeeps.steps, ?_, hkeeps.calls_eq⟩
    have halike := hkeeps.beside.hands_alike
    rw [hgone.hands] at halike
    rw [hkeeps.beside.crew_eq, List.forall₂_nil_left_iff.mp halike, ← hgone.hands]
  · obtain ⟨pool', ha, hagree⟩ := exists_agrees pool (callsBy .crew calls)
    exact ⟨pool', ha.config_eq, hagree⟩

end Tasks

namespace Pool

open Tasks

/-- **Batches of one pool do not get in each other's way.**

Whatever was dispatched through a pool before, awaited or dropped: when a dispatch is dropped its
crew takes nothing more, what it has taken is called for, nothing else is, and all calls run to
their end.  When a dispatch returns and the token of the pool is not cancelled, no source of it is
cancelled, each request has one, and the batch went as it would have gone alone.  And nobody cancels
the token of the pool but the outside and calls that ask for it. -/
theorem batches_are_independent (pool : Pool) :
    (∀ past T time, (fresh 0).Later pool past T → T.crew.phase = .returned time →
      ∀ requests calls U, (T.begin pool requests).Steps pool calls U →
        (U.crew.listening = true → U.crew.starter = false →
          ∀ calls' V, U.drop.Later pool calls' V → Abandoned pool calls U calls' V) ∧
        ∀ time', U.crew.phase = .returned time' → U.cancelled = false →
          Independent pool T requests calls U) ∧
    (∀ (T U : Tasks) calls, T.Later pool calls U → T.cancelled = false → U.cancelled = true →
      ∃ before a r, ∃ V W : Tasks, T.Later pool before V ∧ V.Step pool a r W ∧
        V.cancelled = false ∧ W.cancelled = true ∧ V.Cancelling pool a) := by
  refine ⟨fun past T time h hp requests calls U hs => ?_,
    fun T U calls h hT hU => h.exists_cancelling hT hU⟩
  obtain ⟨_, s, hT⟩ := h.reached (reached_fresh pool 0)
  have hbegin := hT.begin hp requests
  exact ⟨fun _ _ calls' V hV => hV.abandoned hs hbegin,
    fun time' hp' hc => hs.independent hbegin hp' hc⟩

/-- The first batch is dropped after three milliseconds, while a call for "a" is under way, a worker
pauses before its call for "c", and "d" is in the queue.  The second one does not notice, though the
call for "a" outlasts it. -/
theorem batches_are_independent_dropped :
    let pool : Pool :=
      ⟨.new 2 2, fun _ r => { duration := if r = "a" then 9 else 0, ending := .page r }, none⟩
    ∃ calls U V calls' W,
      ((fresh 0).begin pool ["a", "b", "c", "d"]).Steps pool calls U ∧
      U.drop.Steps pool [] V ∧ V.now = 3 ∧ V.strays.map (·.request) = ["a", "c"] ∧
      (V.begin pool ["c", "b"]).Steps pool calls' W ∧ W.crew.phase = .returned 5 ∧
      W.crew.result = ⟨[⟨"c", .page "c"⟩, ⟨"b", .page "b"⟩], none⟩ ∧
      W.strays.map (·.request) = ["a"] ∧
      Abandoned pool calls U calls' W ∧ Independent pool V ["c", "b"] calls' W := by
  intro pool
  obtain ⟨s, s', hrun, hnow, hstrays, hdone, hrun', hnow', hstrays', hc⟩ : ∃ s s',
      pool.dispatch (some 3) ["a", "b", "c", "d"] {} = (s, none) ∧ s.now = 3 ∧
      s.strays.map (·.request) = ["a", "c"] ∧ s.isDone = true ∧
      pool.dispatch none ["c", "b"] s = (s', some ⟨[⟨"c", .page "c"⟩, ⟨"b", .page "b"⟩], none⟩) ∧
      s'.now = 5 ∧ s'.strays.map (·.request) = ["a"] ∧ s'.cancelled = false := by
    refine ⟨(pool.dispatch (some 3) ["a", "b", "c", "d"] {}).1,
      (pool.dispatch none ["c", "b"] (pool.dispatch (some 3) ["a", "b", "c", "d"] {}).1).1, ?_⟩
    decide +kernel
  have hperforms := (rests_fresh pool 0).dispatch (some 3) ["a", "b", "c", "d"]
  rw [hrun] at hperforms
  obtain ⟨calls, U, V, hs, hl, hr, hv, hV⟩ := hperforms.exists_dropped
  have hperforms' := hV.dispatch none ["c", "b"]
  rw [hrun'] at hperforms'
  obtain ⟨calls', W, hs', hp', hd, hW⟩ := hperforms'.exists_returned
  rw [hnow'] at hp'
  obtain ⟨time, hp⟩ := hV.exists_returned hdone
  have hall := (batches_are_independent pool).1
  have hfirst : (fresh 0).Later pool calls U :=
    (Later.begin Later.refl rfl ["a", "b", "c", "d"]).trans hs.later
  have hsecond : (fresh 0).Later pool (calls ++ []) V := (Later.drop hfirst hl hr).trans hv.later
  have hafter : U.drop.Later pool calls' W :=
    (Later.begin hv.later hp ["c", "b"]).trans hs'.later
  have habandoned := (hall [] _ 0 Later.refl rfl _ calls U hs).1 hl hr calls' W hafter
  have hindependent :=
    (hall _ V time hsecond hp _ calls' W hs').2 5 hp' (hW.cancelled_eq.symm.trans hc)
  exact ⟨calls, U, V, calls', W, hs, hv, hV.now_eq.symm.trans hnow, hV.strays ▸ hstrays, hs', hp',
    hd, hW.strays ▸ hstrays', habandoned, hindependent⟩

end Pool

end PageCrawl
