import PageCrawl.Proofs.Pool.Spread
import PageCrawl.Proofs.Recrawl.Rounds

/-!
# The spread of the work does not show in crawling again

One batch gives the same results in two pools but for their order (`Pool.dispatch_same`).  Crawling
again repeats this without a bound, and the order in which results came goes into the next batch.
Here both runs are followed at once.

**What two runs have in common.**  Before each round the two batches are the same but for the
order, both pools are clear, and each request was called equally often in both, so that it has
reached the same attempt.  An evaluation that tests each source by itself rejects the same of both
batches (`ofTest_perm`), hence the next round begins with the same in common:
`recrawlFrom_same`.

**Endings.**  Either both runs end in the same round and in the same way, or none of them ever
ends (`both_end_or_none`).
-/

namespace PageCrawl

/-- **What two endings have in common** when they differ only in the order of things: the sources
that were kept, but not which of several errors came last. -/
inductive SameEnding : RecrawlEnding → RecrawlEnding → Prop
  | done {kept kept' : List PageSource} (h : kept.Perm kept') :
      SameEnding (.done kept) (.done kept')
  | failed (e e' : CrawlError) : SameEnding (.failed e) (.failed e')
  | unfinished : SameEnding .unfinished .unfinished

/-- Two batches of the same sources, of which the same requests are rejected. -/
structure SameRound (valid : PageSource → Bool) (batch batch' : List PageSource) : Prop where
  sources : batch.Perm batch'
  rejected : (Evaluation.ofTest valid [] batch).recrawl.Perm
    (Evaluation.ofTest valid [] batch').recrawl

/-- **What two runs of crawling again have in common** when they differ only in the order of
things. -/
structure SameCourse (valid : PageSource → Bool) (r r' : Recrawl) : Prop where
  /-- They have equally many rounds, and each rejects the same, as often as it came. -/
  rounds : List.Forall₂ (SameRound valid) r.evaluations r'.evaluations
  ending : SameEnding r.ending r'.ending
  /-- Each request is called equally often. -/
  called : ∀ request, r.run.called.count request = r'.run.called.count request

namespace SameEnding

variable {e e' : RecrawlEnding}

/-- Two such endings are both no ending, or none of them is. -/
lemma unfinished_iff (h : SameEnding e e') : e = .unfinished ↔ e' = .unfinished := by
  cases h <;> simp

end SameEnding

namespace Pool

variable {pool pool' : Pool} {valid : PageSource → Bool} {outcome : String → Nat → Outcome}
  {batch batch' initial : List PageSource}

/-! ## One round -/

/-- **A test of each source does not look at the order of a batch.** -/
lemma ofTest_perm (valid : PageSource → Bool) (h : batch.Perm batch')
    (past past' : List (List PageSource)) :
    (Evaluation.ofTest valid past batch).recrawl.Perm
        (Evaluation.ofTest valid past' batch').recrawl ∧
      (Evaluation.ofTest valid past batch).kept.Perm
        (Evaluation.ofTest valid past' batch').kept :=
  ⟨(h.filter _).map _, h.filter _⟩

/-! ## The loop -/

/-- **Two runs from batches that are the same but for the order** go the same way, for any bound
on rounds. -/
lemma recrawlFrom_same (hf : pool.crawler.Fixed outcome) (hf' : pool'.crawler.Fixed outcome)
    (hn : pool.NeverCancelled) (hn' : pool'.NeverCancelled) :
    ∀ (n : Nat) {past past' : List (List PageSource)} {batch batch' : List PageSource}
      {s s' : Run}, List.Forall₂ (SameRound valid) past past' → batch.Perm batch' →
      Clear s → Clear s' → s.called.Perm s'.called →
      SameCourse valid (pool.recrawlFrom (Evaluation.ofTest valid) none n past batch s)
        (pool'.recrawlFrom (Evaluation.ofTest valid) none n past' batch' s')
  | 0, _, _, _, _, _, _, hpast, _, _, _, hl =>
      ⟨List.rel_reverse hpast, SameEnding.unfinished, fun request => hl.count_eq request⟩
  | n + 1, past, past', batch, batch', s, s', hpast, hb, hs, hs', hl => by
      obtain ⟨hrej, hkept⟩ := ofTest_perm valid hb past past'
      have hpast' : List.Forall₂ (SameRound valid) (batch :: past) (batch' :: past') :=
        List.Forall₂.cons ⟨hb, hrej⟩ hpast
      have hrounds := List.rel_reverse hpast'
      by_cases hr : (Evaluation.ofTest valid past batch).recrawl = []
      · have hr' : (Evaluation.ofTest valid past' batch').recrawl = [] := (hr ▸ hrej).nil_eq.symm
        rw [recrawlFrom_done hr, recrawlFrom_done hr']
        exact ⟨hrounds, SameEnding.done hkept, fun request => hl.count_eq request⟩
      · have hr' : (Evaluation.ofTest valid past' batch').recrawl ≠ [] := fun h =>
          hr (h ▸ hrej).eq_nil
        obtain ⟨t, t', d, d', ht, ht', hsame, hc, hc', hcalled⟩ :=
          dispatch_same hf hf' hn hn' hs hs' hl hrej
        cases he : d.error with
        | some e =>
            obtain ⟨e', he'⟩ := Option.ne_none_iff_exists'.mp
              (mt hsame.error_eq_none_iff.mpr (by simp [he]))
            rw [recrawlFrom_failed hr (pass_zero ..) ht he,
              recrawlFrom_failed hr' (pass_zero ..) ht' he']
            exact ⟨hrounds, SameEnding.failed e e', fun request => hcalled.count_eq request⟩
        | none =>
            have he' := hsame.error_eq_none_iff.mp he
            rw [recrawlFrom_again hr (pass_zero ..) ht he,
              recrawlFrom_again hr' (pass_zero ..) ht' he']
            -- the fresh sources differ in their order, and so do the next batches
            exact recrawlFrom_same hf hf' hn hn' n hpast' (hkept.append hsame.results) hc hc'
              hcalled

/-! ## Endings -/

lemma recrawl_same (hf : pool.crawler.Fixed outcome) (hf' : pool'.crawler.Fixed outcome)
    (hn : pool.NeverCancelled) (hn' : pool'.NeverCancelled) (initial : List PageSource)
    (rounds : Nat) :
    SameCourse valid (pool.recrawl (Evaluation.ofTest valid) none rounds initial)
      (pool'.recrawl (Evaluation.ofTest valid) none rounds initial) := by
  have hclear : ∀ {p : Pool}, p.NeverCancelled → Clear { cancelled := p.cancelAt == some 0 } := by
    intro p hp
    exact ⟨by simp [hp.outside], rfl⟩
  exact recrawlFrom_same hf hf' hn hn' rounds List.Forall₂.nil (List.Perm.refl _) (hclear hn)
    (hclear hn') (List.Perm.refl _)

/-- **Two runs that go the same way under every bound on rounds** both come to an end, or none of
them ever does. -/
lemma both_end_or_none {evaluate evaluate' : Evaluation} {limit limit' : Option Nat}
    (h : ∀ rounds, SameCourse valid (pool.recrawl evaluate limit rounds initial)
      (pool'.recrawl evaluate' limit' rounds initial)) :
    (∃ bound r r', r.ending ≠ .unfinished ∧ r'.ending ≠ .unfinished ∧ SameCourse valid r r' ∧
        ∀ rounds, bound ≤ rounds → pool.recrawl evaluate limit rounds initial = r ∧
          pool'.recrawl evaluate' limit' rounds initial = r') ∨
      ∀ rounds, (pool.recrawl evaluate limit rounds initial).ending = .unfinished ∧
        (pool'.recrawl evaluate' limit' rounds initial).ending = .unfinished := by
  by_cases hend : ∃ bound, (pool.recrawl evaluate limit bound initial).ending ≠ .unfinished
  · obtain ⟨bound, hb⟩ := hend
    have hb' : (pool'.recrawl evaluate' limit' bound initial).ending ≠ .unfinished :=
      fun hu => hb ((h bound).ending.unfinished_iff.mpr hu)
    exact .inl ⟨bound, _, _, hb, hb', h bound, fun rounds hle =>
      ⟨recrawlFrom_of_le pool evaluate limit hb hle,
        recrawlFrom_of_le pool' evaluate' limit' hb' hle⟩⟩
  · rw [not_exists] at hend
    have hu : ∀ rounds, (pool.recrawl evaluate limit rounds initial).ending = .unfinished :=
      fun rounds => not_not.mp (hend rounds)
    exact .inr fun rounds => ⟨hu rounds, (h rounds).ending.unfinished_iff.mp (hu rounds)⟩

/-- **Crawling again does not depend on the pool.**  Take two pools that are never cancelled and
whose crawl functions have the same fixed outcomes, and an evaluation that tests each source by
itself.  Whatever they differ in (workers, pause, how long calls take), both runs reject the same
requests in every round and call each request equally often.  They end in the same round, both with
the same sources but for the order or both with an error, or none of them ever ends. -/
theorem recrawl_ignores_spread {pool pool' : Pool} {outcome : String → Nat → Outcome}
    (hf : pool.crawler.Fixed outcome) (hf' : pool'.crawler.Fixed outcome)
    (hn : pool.NeverCancelled) (hn' : pool'.NeverCancelled) (valid : PageSource → Bool)
    (initial : List PageSource) :
    (∀ rounds, SameCourse valid (pool.recrawl (Evaluation.ofTest valid) none rounds initial)
      (pool'.recrawl (Evaluation.ofTest valid) none rounds initial)) ∧
    ((∃ bound r r', r.ending ≠ .unfinished ∧ r'.ending ≠ .unfinished ∧ SameCourse valid r r' ∧
        ∀ rounds, bound ≤ rounds →
          pool.recrawl (Evaluation.ofTest valid) none rounds initial = r ∧
          pool'.recrawl (Evaluation.ofTest valid) none rounds initial = r') ∨
      ∀ rounds, (pool.recrawl (Evaluation.ofTest valid) none rounds initial).ending = .unfinished ∧
        (pool'.recrawl (Evaluation.ofTest valid) none rounds initial).ending = .unfinished) := by
  have hsame : ∀ rounds, SameCourse valid
      (pool.recrawl (Evaluation.ofTest valid) none rounds initial)
      (pool'.recrawl (Evaluation.ofTest valid) none rounds initial) :=
    recrawl_same hf hf' hn hn' initial
  exact ⟨hsame, both_end_or_none hsame⟩

/-- A request with two sources that do not pass, the first attempt at which is slow and does not
pass either: which of the two gets it depends on the workers, and so does the order in which the
others come back. -/
theorem recrawl_ignores_spread_repeated :
    let crawler := (Crawler.ofScripts
      [("a", [{ duration := 5, ending := .page "empty" }, { ending := .page "full" }]),
       ("b", [{ duration := 1, ending := .page "full" }])]).uncancelling
    let pool : Pool := ⟨.new 1 2, crawler, none⟩
    let pool' : Pool := ⟨.new 3 0, crawler, none⟩
    let valid : PageSource → Bool := fun source => source.page? == some "full"
    let initial : List PageSource :=
      [⟨"a", .failed "lost"⟩, ⟨"b", .page "empty"⟩, ⟨"a", .page "empty"⟩, ⟨"c", .page "full"⟩]
    let r := pool.recrawl (Evaluation.ofTest valid) none 4 initial
    let r' := pool'.recrawl (Evaluation.ofTest valid) none 4 initial
    pool.crawler.Fixed (fun request k =>
        (crawler (List.replicate (k - 1) request) request).ending.outcome) ∧
      pool.NeverCancelled ∧ pool'.NeverCancelled ∧ SameCourse valid r r' ∧
      r.ending = .done [⟨"c", .page "full"⟩, ⟨"b", .page "full"⟩, ⟨"a", .page "full"⟩,
        ⟨"a", .page "full"⟩] ∧
      r'.ending = .done [⟨"c", .page "full"⟩, ⟨"a", .page "full"⟩, ⟨"b", .page "full"⟩,
        ⟨"a", .page "full"⟩] := by
  intro crawler pool pool' valid initial r r'
  have hf : pool.crawler.Fixed fun request k =>
      (crawler (List.replicate (k - 1) request) request).ending.outcome :=
    (Crawler.fixed_ofScripts _).uncancelling
  have hf' : pool'.crawler.Fixed _ := hf
  have hn : pool.NeverCancelled := ⟨rfl, fun _ _ => rfl⟩
  have hn' : pool'.NeverCancelled := ⟨rfl, fun _ _ => rfl⟩
  refine ⟨hf, hn, hn', (recrawl_ignores_spread hf hf' hn hn' valid initial).1 4, ?_, ?_⟩
  · decide +kernel
  · decide +kernel

end Pool

end PageCrawl
