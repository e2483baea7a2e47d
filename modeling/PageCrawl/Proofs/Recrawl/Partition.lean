import PageCrawl.Proofs.Recrawl.Rounds

/-!
# What crawling again accepts

With an evaluation that tests each source by itself, crawling again is a partition that is refined
round by round: sources that pass stay where they are, the others give way to fresh ones behind
them.  If it comes to its end, every request of the initial sources has a source that passes.

**The invariant.**  `Accepts` relates a batch to the sources that are kept in the end.  It holds of
a batch that passes as a whole, and the step backwards over a round keeps it, since the sources
that were kept in this round pass in all later ones: `Course.accepts`.

**A second run** on what was accepted rejects nothing, so it calls nothing.
-/

namespace PageCrawl

/-- **What the accepted sources have to do with the initial ones**, when `made` are the sources
that calls gave meanwhile. -/
structure Accepts (valid : PageSource → Bool) (initial made accepted : List PageSource) : Prop where
  /-- All of them pass. -/
  passes : ∀ source ∈ accepted, valid source = true
  /-- There is one for each request, as often as it came. -/
  requests_perm : (accepted.map (·.request)).Perm (initial.map (·.request))
  /-- First come the initial sources that pass, as they were and in their order, and then sources
  with a page, each of another call. -/
  fresh : ∃ fresh, accepted = initial.filter valid ++ fresh ∧ fresh.Subperm made ∧
    ∀ source ∈ fresh, source.isOk = true

namespace Accepts

variable {valid : PageSource → Bool} {batch results made made' accepted : List PageSource}

/-- A batch that passes as a whole is accepted as it is. -/
lemma refl (h : ∀ source ∈ batch, valid source = true) : Accepts valid batch [] batch := by
  refine ⟨h, List.Perm.refl _, [], ?_, List.nil_subperm, by simp⟩
  rw [List.filter_eq_self.mpr h, List.append_nil]

/-- **One round**: sources that do not pass give way to the results of crawling their requests. -/
lemma round (hreq : (results.map (·.request)).Perm
      ((batch.filter fun source => !valid source).map (·.request)))
    (hmade : results.Subperm made) (hok : ∀ source ∈ results, source.isOk = true)
    (h : Accepts valid (batch.filter valid ++ results) made' accepted) :
    Accepts valid batch (made' ++ made) accepted := by
  refine ⟨h.passes, h.requests_perm.trans ?_, ?_⟩
  · rw [List.map_append]
    refine (hreq.append_left _).trans ?_
    rw [← List.map_append]
    exact (List.filter_append_perm valid batch).map _
  · obtain ⟨fresh, hacc, hsub, hfresh⟩ := h.fresh
    refine ⟨results.filter valid ++ fresh, ?_, ?_, ?_⟩
    · rw [hacc, List.filter_append, List.filter_filter, List.append_assoc]
      simp only [Bool.and_self]
    · have hpass : (results.filter valid).Subperm made :=
        List.filter_sublist.subperm.trans hmade
      exact List.perm_append_comm.subperm.trans (hsub.append hpass)
    · intro source hm
      rcases List.mem_append.mp hm with hm | hm
      · exact hok source (List.mem_of_mem_filter hm)
      · exact hfresh source hm

end Accepts

namespace Pool

variable {pool : Pool} {valid : PageSource → Bool} {limit : Option Nat} {pace : Run → Nat} {s : Run}
  {past : List (List PageSource)} {batch initial out : List PageSource} {r : Recrawl}

/-- **Crawling again that comes to its end accepts.** -/
lemma Course.accepts (h : pool.Course (Evaluation.ofTest valid) limit pace past batch s r)
    (hr : r.ending = .done out) :
    ∃ made, pool.answers r.run.called = made ++ pool.answers s.called ∧
      Accepts valid batch made out := by
  induction h with
  | unfinished | timedOut | failed => cases hr
  | @done past batch s hrej =>
      cases hr
      simp only [Evaluation.ofTest, List.map_eq_nil_iff, List.filter_eq_nil_iff,
        Bool.not_eq_true', Bool.not_eq_false] at hrej
      refine ⟨[], rfl, ?_⟩
      simp only [Evaluation.ofTest, List.filter_eq_self.mpr hrej]
      exact Accepts.refl hrej
  | @again past batch s t d r hne hd he h ih =>
      obtain ⟨made', hlog', hacc⟩ := ih hr
      obtain ⟨made, hlog, hmade⟩ := dispatch_answers hd
      have hok := fresh_isOk hd he
      rw [filter_isCancelled_of_isOk hok] at hmade
      refine ⟨made' ++ made, ?_, hacc.round (dispatch_perm hd) hmade hok⟩
      rw [hlog', hlog, pass_called, List.append_assoc]

/-- A batch that passes is returned as it is, without a call. -/
lemma recrawlFrom_of_valid (h : ∀ source ∈ batch, valid source = true) (n : Nat) :
    pool.recrawlFrom (Evaluation.ofTest valid) limit (n + 1) past batch s
      = ⟨.done batch, (batch :: past).reverse, s⟩ := by
  have hnone : batch.filter (fun source => !valid source) = [] := by
    simpa [List.filter_eq_nil_iff] using h
  simp only [recrawlFrom, Evaluation.ofTest, hnone, List.map_nil, List.isEmpty_nil, ↓reduceIte,
    List.filter_eq_self.mpr h]

/-- **Crawling again gives up no request and touches no accepted source.**  When it comes to its
end, the initial sources that pass stand first, unchanged, the sources behind them are pages of
calls made meanwhile, all of them pass, and their requests are those of the initial sources.  Any
pool returns such sources at once, without a call. -/
theorem recrawl_accepts (pool : Pool) (valid : PageSource → Bool) (limit : Option Nat)
    (rounds : Nat) (initial out : List PageSource)
    (h : (pool.recrawl (Evaluation.ofTest valid) limit rounds initial).ending = .done out) :
    Accepts valid initial
        (pool.answers
          (pool.recrawl (Evaluation.ofTest valid) limit rounds initial).run.called) out ∧
      ∀ (pool' : Pool) (limit' : Option Nat) (rounds' : Nat),
        let again := pool'.recrawl (Evaluation.ofTest valid) limit' (rounds' + 1) out
        again.ending = .done out ∧ again.evaluations = [out] ∧ again.run.calls = [] := by
  have hcourse := course_recrawlFrom pool (Evaluation.ofTest valid) limit (fun _ => 0) rounds []
    initial
    { cancelled := pool.cancelAt == some 0 }
  obtain ⟨made, hlog, hacc⟩ := hcourse.accepts h
  have hmade : pool.answers
      (pool.recrawl (Evaluation.ofTest valid) limit rounds initial).run.called = made :=
    hlog.trans (List.append_nil made)
  refine ⟨hmade ▸ hacc, fun pool' limit' rounds' => ?_⟩
  intro again
  have hagain : again = ⟨.done out, [out], { cancelled := pool'.cancelAt == some 0 }⟩ :=
    recrawlFrom_of_valid hacc.passes rounds'
  simp only [hagain, and_self]

/-- A request with two sources, one of which passes; a crawl that had failed; and a page that passes
only when it is crawled for the second time. -/
theorem recrawl_accepts_second_attempt :
    let pool : Pool := ⟨.new 2 1, Crawler.ofScripts
      [("b", [{ duration := 3, ending := .page "empty" }, { ending := .page "full" }]),
       ("c", [{ ending := .page "full" }])], none⟩
    let valid : PageSource → Bool := fun source => source.page? == some "full"
    let initial : List PageSource :=
      [⟨"b", .page "empty"⟩, ⟨"a", .page "full"⟩, ⟨"c", .failed "lost"⟩, ⟨"b", .page "full"⟩]
    let out : List PageSource :=
      [⟨"a", .page "full"⟩, ⟨"b", .page "full"⟩, ⟨"c", .page "full"⟩, ⟨"b", .page "full"⟩]
    let made : List PageSource :=
      [⟨"b", .page "full"⟩, ⟨"c", .page "full"⟩, ⟨"b", .page "empty"⟩]
    (pool.recrawl (Evaluation.ofTest valid) none 4 initial).ending = .done out ∧
      Accepts valid initial made out ∧
      (pool.recrawl (Evaluation.ofTest valid) none 1 out).run.calls = [] := by
  intro pool valid initial out made
  have hout : (pool.recrawl (Evaluation.ofTest valid) none 4 initial).ending = .done out := by
    decide +kernel
  have hmade : pool.answers
      (pool.recrawl (Evaluation.ofTest valid) none 4 initial).run.called = made := by
    decide +kernel
  obtain ⟨hacc, hagain⟩ := recrawl_accepts pool valid none 4 initial out hout
  rw [hmade] at hacc
  exact ⟨hout, hacc, (hagain pool none 0).2.2⟩

end Pool

end PageCrawl
