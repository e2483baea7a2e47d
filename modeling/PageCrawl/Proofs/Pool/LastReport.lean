import PageCrawl.Proofs.Pool.History

/-!
# The last report of a batch

A batch is done exactly when it has as many sources as requests (`Path.isDone_iff_reported`), and a
path that brings it to its end does so by a report (`Path.last_report`).
-/

namespace PageCrawl

namespace Pool

variable {pool : Pool} {s t : Run} {m : Move} {trail : List Transition} {requests : List String}

/-- What is reported and what is not yet make up the batch. -/
lemma Path.reported_length (h : pool.Path (s.begin requests) trail t) :
    t.waiting.length + t.slot.toList.length + t.hands.length + t.reported.length
      = requests.length := by
  have hlength := h.held_perm.length_eq
  rw [held_begin] at hlength
  simpa [Run.held, Nat.add_assoc] using hlength

/-- **A batch is done exactly when it has as many sources as requests.** -/
lemma Path.isDone_iff_reported (h : pool.Path (s.begin requests) trail t) :
    t.isDone = true ↔ t.reported.length = requests.length := by
  have hlength := h.reported_length
  rw [isDone_iff]
  constructor
  · rintro ⟨hw, hs, hh⟩
    rw [hw, hs, hh] at hlength
    simpa using hlength
  · intro hall
    exact ⟨List.length_eq_zero_iff.mp (by omega),
      Option.toList_eq_nil_iff.mp (List.length_eq_zero_iff.mp (by omega)),
      List.length_eq_zero_iff.mp (by omega)⟩

lemma reports_singleton {source : PageSource} (h : t.reported = s.reported ++ [source]) :
    reports [⟨s, m, t⟩] = [(s.now, source)] := by
  simp [Transition.reports, h]

/-- **Only a report brings a batch to its end.** -/
lemma Step.last_report (h : pool.Step s m t) (hs : s.isDone = false) (ht : t.isDone = true) :
    ∃ source, reports [⟨s, m, t⟩] = [(t.now, source)] := by
  have hwhole := isDone_iff.mp ht
  cases h with
  | giveUp | refuse | breakDown | finish => exact ⟨_, reports_singleton rfl⟩
  | feed => cases hwhole.2.1
  | take => simp at hwhole
  | call hh =>
      have hnil : s.hands = [] := by simpa using hwhole.2.2
      rw [hnil] at hh
      cases hh
  | cancel | strayCall | strayBreakDown | strayFinish | wait =>
      have hsame : s.isDone = true := ht
      rw [hs] at hsame
      cases hsame

lemma Path.last_report (h : pool.Path s trail t) (ho : Unfinished trail) (hd : t.isDone = true) :
    trail = [] ∨ ∃ past source, reports trail = past ++ [(t.now, source)] := by
  induction h with
  | nil => exact .inl rfl
  | @cons s u t m trail hs hp ih =>
      obtain ⟨hopen, hrest⟩ := List.forall_mem_cons.mp ho
      right
      rw [reports_split]
      rcases ih hrest hd with rfl | ⟨past, source, hpast⟩
      · cases hp
        obtain ⟨source, hsource⟩ := hs.last_report hopen hd
        exact ⟨[], source, by simp [hsource]⟩
      · exact ⟨reports [⟨s, m, u⟩] ++ past, source, by rw [hpast, List.append_assoc]⟩

lemma Path.eq_of_nil (h : pool.Path s [] t) : t = s := by
  cases h
  rfl

end Pool

end PageCrawl
