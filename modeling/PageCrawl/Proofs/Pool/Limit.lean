import PageCrawl.Proofs.Pool.Punctual

/-!
# What a limit does to a dispatch

A limit only cuts: what happens before it happens as without it.

A dispatch that ends before its limit does not notice it (`dispatch_of_lt`).  One that would not is
dropped there, on the path that it would have followed (`dispatch_cut`): its moves are those of the
other one, until a waiting reaches beyond the limit and is cut in two (`Prompt.split`).  In any
case a dispatch that is dropped stands exactly at its limit (`dispatch_dropped`), since a run with
enough moves stops nowhere else (`run_stops`).
-/

namespace PageCrawl

namespace Pool

variable {pool : Pool} {s t u : Run} {m : Move} {limit : Option Nat} {l : Nat}
  {requests : List String} {d : Dispatch}

/-- A limit lets the next move happen as it is, unless it is a waiting beyond the limit. -/
lemma limitedMove?_of_next (h : pool.nextMove? s = some m) (l : Nat) :
    (pool.limitedMove? (some l) s = some m ∧ ∀ w, m = .wait w → w ≤ l) ∨
      ∃ w, m = .wait w ∧ l < w ∧ pool.limitedMove? (some l) s = some (.wait l) := by
  cases m with
  | wait w =>
      rcases Nat.lt_or_ge l w with hlt | hle
      · exact .inr ⟨w, rfl, hlt, by simp [limitedMove?, h, min_eq_right hlt.le]⟩
      · refine .inl ⟨by simp [limitedMove?, h, min_eq_left hle], ?_⟩
        rintro _ ⟨⟩
        exact hle
  | _ => exact .inl ⟨by simp [limitedMove?, h], by simp⟩

/-- A run that stands at its limit stays there. -/
lemma run_stays (hl : l ≤ s.now) (hd : s.isDone = false) :
    ∀ n, pool.run (some l) n s = (s, false)
  | 0 => by rw [run, hd]
  | n + 1 => by
      rw [run]
      simp [hd, hl]

/-- **A run with enough moves ends with its batch or at its limit.** -/
lemma run_stops (pool : Pool) : ∀ (n : Nat) (s : Run), pool.cost s ≤ n →
    (pool.run (some l) n s).2 = true ∨ l ≤ (pool.run (some l) n s).1.now
  | 0, s, h => .inl (isDone_of_cost pool (Nat.le_zero.mp h))
  | n + 1, s, h => by
      cases hd : s.isDone with
      | true =>
          rw [run]
          simp [hd]
      | false =>
          rcases Nat.lt_or_ge s.now l with hl | hl
          · cases hm : pool.nextMove? s with
            | none =>
                rw [isDone_of_nextMove? hm] at hd
                cases hd
            | some m =>
                have hlimit : ∀ l', some l = some l' → s.now < l' := by
                  rintro _ ⟨⟩
                  exact hl
                rcases limitedMove?_of_next hm l with ⟨hmove, -⟩ | ⟨w, -, -, hmove⟩
                · have hn := next_of_nextMove? hm
                  obtain ⟨u, hu⟩ := hn.possible
                  have hlt := hn.cost_lt hu
                  rw [run_succ hd hlimit hmove hu]
                  exact run_stops pool n u (by omega)
                · rw [run_succ hd hlimit hmove (Step.wait hl),
                    run_stays (s := { s with now := l }) le_rfl hd]
                  exact .inr le_rfl
          · rw [run_stays hl hd]
            exact .inr hl

/-- **A dispatch that is dropped stands at its limit**, in the middle of a punctual path. -/
lemma dispatch_dropped (h : pool.dispatch limit requests s = (t, none)) :
    ∃ l trail v, limit = some l ∧ pool.Path (s.begin requests) trail v ∧ pool.Punctual trail ∧
      Unfinished trail ∧ v.isDone = false ∧ (∀ st ∈ trail, st.before.now < l) ∧
      v.now = max l s.now ∧ t = v.drop := by
  obtain ⟨trail, hp, hpunctual, hopen, hlimit⟩ :=
    run_punctual pool limit ((s.begin requests).budget + 2) (s.begin requests)
  have hanswer := run_snd pool limit ((s.begin requests).budget + 2) (s.begin requests)
  cases limit with
  | none =>
      obtain ⟨u, -, hu⟩ := dispatch_none pool s requests
      rw [h] at hu
      cases hu
  | some l =>
      have hstop := run_stops pool (l := l) _ _ (cost_le_budget pool s requests)
      rw [dispatch] at h
      split at h
      · cases h
      · next v hv =>
          rw [hv] at hp hanswer hlimit hstop
          cases h
          obtain ⟨hall, hle⟩ := hlimit l rfl
          have hge : l ≤ v.now := hstop.resolve_left (by simp)
          have hmono : s.now ≤ v.now := hp.now_mono
          have hle' : v.now ≤ max l s.now := hle
          exact ⟨l, trail, v, rfl, hp, hpunctual, hopen, hanswer.symm, hall, by omega, rfl⟩

/-! ## Limits -/

/-- A run without a limit makes the next move, or is at its end. -/
lemma run_none_cases (pool : Pool) (n : Nat) (s : Run) :
    (s.isDone = true ∧ ∀ limit, pool.run limit (n + 1) s = (s, true)) ∨
      s.isDone = false ∧ ∃ m u, pool.nextMove? s = some m ∧ pool.Step s m u ∧
        pool.run none (n + 1) s = pool.run none n u := by
  cases hd : s.isDone with
  | true =>
      refine .inl ⟨rfl, fun limit => ?_⟩
      rw [run]
      simp [hd]
  | false =>
      cases hm : pool.nextMove? s with
      | none =>
          rw [isDone_of_nextMove? hm] at hd
          cases hd
      | some m =>
          obtain ⟨u, hu⟩ := (next_of_nextMove? hm).possible
          exact .inr ⟨rfl, m, u, rfl, hu, run_none_succ hd hm hu n⟩

lemma now_le_run (pool : Pool) (limit : Option Nat) (n : Nat) (s : Run) :
    s.now ≤ (pool.run limit n s).1.now := by
  obtain ⟨trail, hp⟩ := run_path pool limit n s
  exact hp.now_mono

/-- **A limit that is not reached changes nothing.** -/
lemma run_of_lt : ∀ (n : Nat) (s : Run), (pool.run none n s).1.now < l →
    pool.run (some l) n s = pool.run none n s
  | 0, s, _ => rfl
  | n + 1, s, h => by
      rcases run_none_cases pool n s with ⟨-, hrun⟩ | ⟨hd, m, u, hm, hu, hrun⟩
      · rw [hrun, hrun]
      · have hlimit : ∀ l', some l = some l' → s.now < l' := by
          rintro _ ⟨⟩
          exact (now_le_run pool none (n + 1) s).trans_lt h
        rw [hrun] at h ⊢
        rcases limitedMove?_of_next hm l with ⟨hmove, -⟩ | ⟨w, rfl, hw, -⟩
        · rw [run_succ hd hlimit hmove hu]
          exact run_of_lt n u h
        · -- the whole waiting is part of the run, which ends before its end
          cases hu
          have hle := now_le_run pool none n { s with now := w }
          simp only at hle
          omega

lemma run_of_isDone (limit : Option Nat) (hd : s.isDone = true) :
    ∀ n, pool.run limit n s = (s, true)
  | 0 => by rw [run, hd]
  | n + 1 => by
      rw [run]
      simp [hd]

/-- A batch is not brought to its end by waiting. -/
lemma Step.ne_wait (h : pool.Step s m t) (hs : s.isDone = false) (ht : t.isDone = true) (w : Nat) :
    m ≠ .wait w := by
  rintro rfl
  cases h
  have hd : s.isDone = true := ht
  rw [hs] at hd
  cases hd

/-- A waiting taken apart at some time in the middle of it. -/
lemma Prompt.split {l w : Nat} (h : pool.Prompt s (.wait w)) (hl : l < w) :
    pool.Prompt s (.wait l) ∧ pool.Prompt { s with now := l } (.wait w) := by
  obtain ⟨hq, hlt, hle⟩ := h.wait
  have hlt' : ∀ due ∈ pool.dueTimes s, l < due := fun due hdue => hl.trans_le (hle due hdue)
  exact ⟨Prompt.passing hq hlt fun due hdue => (hlt' due hdue).le,
    Prompt.passing (hq.passing hlt') hlt' hle⟩

/-- **A limit that is reached cuts a run off on its own path.** -/
lemma run_cut : ∀ (n : Nat) (s : Run), pool.cost s ≤ n → s.isDone = false →
    s.now ≤ l → l ≤ (pool.run none n s).1.now →
      ∃ v trail rest, pool.run (some l) n s = (v, false) ∧ pool.Path s trail v ∧
        pool.Path v rest (pool.run none n s).1 ∧ pool.Punctual (trail ++ rest) ∧
        (∀ st ∈ trail, st.before.now < l) ∧ v.now = l
  | 0, s, hcost, hd, _, _ => by
      rw [isDone_of_cost pool (Nat.le_zero.mp hcost)] at hd
      cases hd
  | n + 1, s, hcost, hd, hs, h => by
      rcases hs.eq_or_lt with rfl | hlt
      · obtain ⟨rest, hp, hpunctual, -⟩ := run_punctual pool none (n + 1) s
        exact ⟨s, [], rest, run_stays le_rfl hd _, Path.nil s, hp, hpunctual, by simp, rfl⟩
      · have hlimit : ∀ l', some l = some l' → s.now < l' := by
          rintro _ ⟨⟩
          exact hlt
        rcases run_none_cases pool n s with ⟨hdone, -⟩ | ⟨-, m, u, hm, hu, hrun⟩
        · rw [hd] at hdone
          cases hdone
        rw [hrun] at h ⊢
        have hnext := next_of_nextMove? hm
        rcases limitedMove?_of_next hm l with ⟨hmove, hwait⟩ | ⟨w, rfl, hw, hmove⟩
        · -- the move happens as a whole, and does not bring the batch to its end
          have hnow : u.now ≤ l := by
            cases hu with
            | wait ht => exact hwait _ rfl
            | _ => exact hs
          have hopen : u.isDone = false := by
            by_contra hne
            have hdone : u.isDone = true := by simpa using hne
            rw [run_of_isDone none hdone, hu.now_eq (hu.ne_wait hd hdone)] at h
            omega
          have hcheap := hnext.cost_lt hu
          obtain ⟨v, trail, rest, hv, hp, hrest, hpunctual, hall, hnow⟩ :=
            run_cut n u (by omega) hopen hnow h
          exact ⟨v, ⟨s, m, u⟩ :: trail, rest, by rw [run_succ hd hlimit hmove hu, hv],
            Path.cons hu hp, hrest, punctual_cons.mpr ⟨Prompt.next hnext, hpunctual⟩,
            List.forall_mem_cons.mpr ⟨hlt, hall⟩, hnow⟩
        · -- the waiting is cut in two
          obtain ⟨hfirst, hsecond⟩ := (Prompt.next hnext).split hw
          cases hu with
          | wait ht =>
              obtain ⟨rest, hp, hpunctual, -⟩ := run_punctual pool none n { s with now := w }
              refine ⟨{ s with now := l }, [⟨s, .wait l, { s with now := l }⟩],
                ⟨{ s with now := l }, .wait w, { s with now := w }⟩ :: rest, ?_,
                Path.cons (Step.wait hlt) (Path.nil _),
                Path.cons (s := { s with now := l }) (Step.wait hw) hp,
                punctual_cons.mpr ⟨hfirst, punctual_cons.mpr ⟨hsecond, hpunctual⟩⟩,
                List.forall_mem_singleton.mpr hlt, rfl⟩
              rw [run_succ hd hlimit hmove (Step.wait hlt)]
              exact run_stays (s := { s with now := l }) le_rfl hd n

lemma run_none_of_dispatch (h : pool.dispatch none requests s = (t, some d)) :
    pool.run none ((s.begin requests).budget + 2) (s.begin requests) = (t, true) ∧
      d = ⟨t.reported, t.error⟩ := by
  rw [dispatch] at h
  split at h
  · next v hv =>
      cases h
      exact ⟨hv, rfl⟩
  · cases h

/-- **A dispatch that ends before a limit does not notice it.** -/
lemma dispatch_of_lt (h : pool.dispatch none requests s = (t, some d)) (hl : t.now < l) :
    pool.dispatch (some l) requests s = (t, some d) := by
  obtain ⟨hrun, rfl⟩ := run_none_of_dispatch h
  have hsame := run_of_lt (l := l) ((s.begin requests).budget + 2) (s.begin requests)
    (by rw [hrun]; exact hl)
  simp only [dispatch, hsame, hrun]

/-- **A dispatch that would not end before a limit is cut off there**, on the path that it would
have followed. -/
lemma dispatch_cut (h : pool.dispatch none requests s = (t, some d))
    (hne : requests ≠ []) (hs : s.now ≤ l) (hl : l ≤ t.now) :
    ∃ v trail rest, pool.dispatch (some l) requests s = (v.drop, none) ∧
      pool.Path (s.begin requests) trail v ∧ pool.Path v rest t ∧
      pool.Punctual (trail ++ rest) ∧ (∀ st ∈ trail, st.before.now < l) ∧ v.now = l := by
  obtain ⟨hrun, -⟩ := run_none_of_dispatch h
  have hopen : (s.begin requests).isDone = false := by simpa [Run.isDone, Run.begin] using hne
  obtain ⟨v, trail, rest, hv, hp, hrest, hpunctual, hall, hnow⟩ :=
    run_cut (l := l) _ _ (cost_le_budget pool s requests) hopen hs (by rw [hrun]; exact hl)
  rw [hrun] at hrest
  exact ⟨v, trail, rest, by simp only [dispatch, hv], hp, hrest, hpunctual, hall, hnow⟩

end Pool

end PageCrawl
