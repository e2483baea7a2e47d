import PageCrawl.CommandLine.Run
import PageCrawl.Proofs.Recrawl.Deadline
import PageCrawl.Proofs.Session.Pages

/-!
# What a run shows

`CommandLine.run` puts a run together from steps.  This file says what the last of them, `crawl`,
makes of the first crawl and of crawling again; everything else about a run is what comes before.

**Without a selector** a run always ends, and reports what the first crawl gave: `crawl_none`.

**With a selector** it ends as crawling again ends: `crawl_some`.  The sources that are kept are
reported, and nothing is reported if a crawl failed or time was up.

**Hits.**  A run has reached what its calls reached.  The calls of the first crawl come first in
the log, those of crawling again on top of them: `recrawl_called`.
-/

namespace PageCrawl

namespace Session

variable (s : Session) (network : Network) (template : String) (config : DispatchConfig)
  (requests : List String)

/-- **The log of the first crawl stays**: crawling again only puts calls on top of it. -/
lemma recrawl_called (expected : List Selector) (deadline : Option Nat) (rounds : Nat)
    (first : List PageSource) :
    let run := (s.crawl network template config requests).1
    ∃ later, (s.recrawlUntilRendered network template expected deadline rounds first run).run.called
      = later ++ run.called := by
  intro run
  obtain ⟨hs, -⟩ := Pool.crawl_resting s network template config requests
  have hcourse := Pool.course_recrawlFrom (s.pool network template .recrawl)
    (.ofTest (Check.hasSelector expected).passes) (noticedAt run.now deadline) (fun _ => 0) rounds
    [] first run
  obtain ⟨trail, hc⟩ := hcourse.exists_chronicle hs.strays_nil
  -- the chronicle notes when each call was made; the log of a run leaves that out
  have hlog := congrArg (List.map Prod.fst) hc.log_eq
  rw [List.map_append, List.map_map, List.map_map] at hlog
  exact ⟨_, hlog⟩

end Session

namespace CommandLine

variable {network : Network} {env : Environment} {args : List String} {a : Arguments}
  {config : DispatchConfig} {s : Session} {rounds : Nat} {now : Instant} {events : List Log.Event}
  {o : Outcome}

/-- The lines that are printed of sources. -/
def reportLines (now : Instant) (sources : List PageSource) : List String :=
  sources.map fun source => (PageReport.ofSource source now).toJson

lemma crawl_none (network : Network) (a : Arguments) (config : DispatchConfig) (s : Session)
    (rounds : Nat) (now : Instant) (events : List Log.Event) :
    ∃ o, crawl network a config none s rounds now events = some o ∧ o.code = 0 ∧
      o.output
        = reportLines now (s.crawl network a.urlTemplate config a.requests).2.results ∧
      o.unread = unreadable (s.crawl network a.urlTemplate config a.requests).2.results ∧
      o.hits = s.hitsOf network a.urlTemplate
        (s.crawl network a.urlTemplate config a.requests).1.called :=
  ⟨_, rfl, rfl, rfl, rfl, rfl⟩

lemma crawl_some {list : List Selector}
    (h : crawl network a config (some list) s rounds now events = some o) :
    let first := s.crawl network a.urlTemplate config a.requests
    let r := s.recrawlUntilRendered network a.urlTemplate list (a.deadline.map (· * 1000)) rounds
      first.2.results first.1
    o.hits = s.hitsOf network a.urlTemplate r.run.called ∧
      ((∃ kept, r.ending = .done kept ∧ o.code = 0 ∧ o.output = reportLines now kept) ∨
        (o.code = 1 ∧ o.output = [])) := by
  intro first r
  simp only [crawl] at h
  split at h
  · next kept hr =>
      cases h
      exact ⟨rfl, .inl ⟨kept, hr, rfl, rfl⟩⟩
  · cases h
    exact ⟨rfl, .inr ⟨rfl, rfl⟩⟩
  · cases h
    exact ⟨rfl, .inr ⟨rfl, rfl⟩⟩
  · cases h

/-- **What was reached**: first what the first crawl reached. -/
lemma crawl_hits {list : Option (List Selector)}
    (h : crawl network a config list s rounds now events = some o) :
    ∃ later, o.hits = s.hitsOf network a.urlTemplate
      (later ++ (s.crawl network a.urlTemplate config a.requests).1.called) := by
  cases list with
  | none =>
      cases h
      exact ⟨[], rfl⟩
  | some list =>
      obtain ⟨later, hlater⟩ := s.recrawl_called network a.urlTemplate config a.requests list
        (a.deadline.map (· * 1000)) rounds
        (s.crawl network a.urlTemplate config a.requests).2.results
      exact ⟨later, by rw [(crawl_some h).1, hlater]⟩

/-- The session of a run. -/
def IsSession (a : Arguments) (env : Environment) (s : Session) : Prop :=
  ∃ c, SessionConfig.fromEnv env = .ok c ∧ s.config = { c with debug := a.verbose }

lemma config_of_new? {c : SessionConfig} (h : Session.new? c = some s) : s.config = c := by
  unfold Session.new? at h
  split at h
  · cases h
    rfl
  · cases h

/-- **A run ends before it crawls, or as its crawl ends.** -/
lemma runWith_cases (h : runWith network env a rounds now = some o) :
    (o.code ≠ 0 ∧ o.output = []) ∨
      ∃ config list s events, IsSession a env s ∧ expected a = .ok list ∧
        crawl network a config list s rounds now events = some o := by
  -- the steps of a run in order; each of them ends it or leaves it to the next
  unfold runWith at h
  cases hreq : DispatchConfig.requested a.workers a.delay env with
  | error e =>
      rw [hreq] at h
      cases h
      exact .inl ⟨Nat.one_ne_zero, rfl⟩
  | ok settings =>
      rw [hreq] at h
      cases hlist : expected a with
      | error e =>
          simp only [hlist, unusableSelector] at h
          -- what cannot be told ends the run with another code, but not with zero
          cases hm : e.message? <;> rw [hm] at h <;> cases h
          · exact .inl ⟨Nat.succ_ne_zero 100, rfl⟩
          · exact .inl ⟨Nat.one_ne_zero, rfl⟩
      | ok list =>
          simp only [hlist] at h
          cases hc : SessionConfig.fromEnv env with
          | error e =>
              rw [hc] at h
              cases h
              exact .inl ⟨Nat.one_ne_zero, rfl⟩
          | ok c =>
              simp only [hc] at h
              cases hs : Session.new? { c with debug := a.verbose } with
              | none =>
                  rw [hs] at h
                  cases h
                  exact .inl ⟨Nat.one_ne_zero, rfl⟩
              | some s =>
                  simp only [hs] at h
                  exact .inr ⟨_, list, s, _, ⟨c, hc, config_of_new? hs⟩, rfl, h⟩

/-- What a run shows of its events: those that its filter tells. -/
def Outcome.told (a : Arguments) (env : Environment) (o : Outcome) : Outcome :=
  { o with events := o.events.filter (Log.Filter.choose a.verbose a.quiet env).tells }

lemma run_eq (hr : Command.read args = .ok (.run a)) (network : Network) (env : Environment)
    (rounds : Nat) (now : Instant) :
    run network env args rounds now
      = (runWith network env a rounds now).map (Outcome.told a env) := by
  simp only [run, hr]
  rfl

end CommandLine

end PageCrawl
