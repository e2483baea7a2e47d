import PageCrawl.Proofs.CommandLine.Defects
import PageCrawl.Proofs.Recrawl.Partition
import PageCrawl.Proofs.Report.RoundTrip

/-!
# All reports or none

A run prints at its very end and all together.  This file says what that comes to: the output is
complete if the exit code is 0, and empty otherwise.

**What is complete.**  `Complete` asks for one report on a line of its own for each request, and,
if a selector is given, for pages that hold what it selects.  What it says of reports is said of
what is read back from the lines (`reports_read_back`).  The first crawl gives one source for
each request (`crawl_requests`).  Crawling again keeps it so, and every source that it returns has
passed: this is `Course.accepts`, applied to the render check (`recrawl_accepted`).

**How else a run ends.**  A run that stops before it crawls, a crawl that fails and a deadline that
passes all leave the output empty: `runWith_cases` and `crawl_some` have no other cases.  Without a
selector there is nothing to wait for, and failed fetches are reported like pages.  Workers are
taken to cost nothing: as many are at hand as are asked for.
-/

namespace PageCrawl

namespace Session

variable (s : Session) (network : Network) (template : String) (config : DispatchConfig)
  (requests : List String)

/-- **The first crawl gives one source for each request.** -/
lemma crawl_requests : ((s.crawl network template config requests).2.results.map
    (·.request)).Perm requests := by
  obtain ⟨hcalled, hresults⟩ := s.crawl_perm network template config requests
  refine (hresults.map _).trans ?_
  rwa [Pool.answers_requests]

/-- The sources of a log do not depend on the settings of the pool. -/
lemma answers_config (config' : DispatchConfig) : ∀ log,
    (s.pool network template config).answers log = (s.pool network template config').answers log
  | [] => rfl
  | _ :: earlier => congrArg _ (answers_config config' earlier)

/-- **Crawling again accepts what passes the render check**, one source for each request, and each
from a call of its own. -/
lemma recrawl_accepted {list : List Selector} {deadline : Option Nat} {rounds : Nat}
    {kept : List PageSource} :
    let first := s.crawl network template config requests
    let r := s.recrawlUntilRendered network template list deadline rounds first.2.results first.1
    r.ending = .done kept →
      (kept.map (·.request)).Perm requests ∧
        kept.Subperm ((s.pool network template .recrawl).answers r.run.called) ∧
        ∀ source ∈ kept, (Check.hasSelector list).passes source = true := by
  intro first r h
  have hcourse := Pool.course_recrawlFrom (s.pool network template .recrawl)
    (.ofTest (Check.hasSelector list).passes) (noticedAt first.1.now deadline) (fun _ => 0) rounds
    [] first.2.results first.1
  obtain ⟨made, hlog, hacc⟩ := hcourse.accepts h
  refine ⟨hacc.requests_perm.trans (s.crawl_requests network template config requests), ?_,
    hacc.passes⟩
  obtain ⟨fresh, rfl, hfresh, -⟩ := hacc.fresh
  -- the sources of the first crawl that pass are among those of its calls
  have hresults := (s.crawl_perm network template config requests).2
  rw [s.answers_config network template config .recrawl] at hresults
  have hold := (List.filter_sublist (p := (Check.hasSelector list).passes)).subperm.trans
    hresults.subperm
  have hall : (s.pool network template .recrawl).answers r.run.called
      = made ++ (s.pool network template .recrawl).answers first.1.called := hlog
  rw [hall]
  exact List.perm_append_comm.subperm.trans (hfresh.append hold)

end Session

namespace CommandLine

variable {network : Network} {env : Environment} {args : List String} {a : Arguments}
  {config : DispatchConfig} {s : Session} {rounds : Nat} {now : Instant} {events : List Log.Event}
  {o : Outcome} {sources : List PageSource}

/-- **A complete output**: what is printed of sources, one for each request. -/
structure Complete (network : Network) (env : Environment) (a : Arguments) (now : Instant)
    (o : Outcome) (sources : List PageSource) : Prop where
  output_eq : o.output = sources.map fun source => (PageReport.ofSource source now).toJson
  /-- Each report stands on a line of its own. -/
  lines : Text.lines (Text.unlines o.output) = o.output
  /-- The reports are read back from the lines, if clocks can show the time and the lengths of the
  pages have 64 bits. -/
  readBack : now.IsValid →
    (∀ source ∈ sources, ∀ page, source.page? = some page → page.utf8ByteSize ≤ Json.largest) →
    o.output.mapM PageReport.ofJson
      = .ok (sources.map fun source => PageReport.ofSource source now)
  requests : (sources.map fun source => (PageReport.ofSource source now).request).Perm a.requests
  /-- The sources tell what came of fetches of this run, each of another one. -/
  fetched : ∃ s called told, IsSession a env s ∧ o.hits = s.hitsOf network a.urlTemplate called ∧
    s.Told network a.urlTemplate called told ∧ sources.Subperm told
  /-- Every page that is reported could be read, unless the outcome names it. -/
  read : ∀ source ∈ sources, ∀ page, source.page? = some page → page ∉ o.unread →
    ∃ d, Html.Document.parse? page = some d
  /-- If a selector is given, there are only pages with an element that matches. -/
  expected : ∀ e, a.expect = some e → ∃ list, Selector.parse e = .ok list ∧
    ∀ source ∈ sources, (PageReport.ofSource source now).ok = true ∧
      ∃ page, source.page? = some page ∧ Extract.hasSelector page list = true

/-- Lines of reports are lines. -/
lemma lines_reportLines (now : Instant) (sources : List PageSource) :
    Text.lines (Text.unlines (reportLines now sources)) = reportLines now sources := by
  refine Text.lines_unlines _ fun line hl hfeed => ?_
  obtain ⟨source, -, rfl⟩ := List.mem_map.mp hl
  exact absurd (PageReport.not_control_of_mem_toJson hfeed) (by decide)

/-- **Reports are read back from their lines.** -/
lemma reports_read_back (hnow : now.IsValid)
    (hlength : ∀ source ∈ sources, ∀ page, source.page? = some page →
      page.utf8ByteSize ≤ Json.largest) :
    (reportLines now sources).mapM PageReport.ofJson
      = .ok (sources.map fun source => PageReport.ofSource source now) := by
  have hlines : reportLines now sources
      = (sources.map fun source => PageReport.ofSource source now).map PageReport.toJson := by
    rw [reportLines, List.map_map]
    rfl
  rw [hlines]
  refine mapM_lines _ fun report hm => PageReport.ofJson_toJson ⟨?_, ?_⟩
  · obtain ⟨source, hs, rfl⟩ := List.mem_map.mp hm
    cases hp : source.page? with
    | none => simp [PageReport.ofSource, hp]
    | some page => simpa [PageReport.ofSource, hp] using hlength source hs page hp
  · obtain ⟨source, -, rfl⟩ := List.mem_map.mp hm
    exact hnow

/-- A page that is not named as unreadable can be read. -/
lemma parse?_of_not_unreadable {source : PageSource} {page : String} (hs : source ∈ sources)
    (hp : source.page? = some page) (h : page ∉ unreadable sources) :
    ∃ d, Html.Document.parse? page = some d := by
  have hm : page ∈ sources.filterMap (·.page?) := List.mem_filterMap.mpr ⟨source, hs, hp⟩
  simp only [unreadable, List.mem_filter, hm, true_and] at h
  exact Option.ne_none_iff_exists'.mp (by simpa using h)

/-- A page that holds an element can be read. -/
lemma parse?_of_hasSelector {page : String} {list : List Selector}
    (h : Extract.hasSelector page list = true) : ∃ d, Html.Document.parse? page = some d := by
  cases hd : Html.Document.parse? page with
  | none => simp [Extract.hasSelector, hd] at h
  | some d => exact ⟨d, rfl⟩

/-- What passes the render check is reported as a page with an element that matches. -/
lemma ok_of_passes {list : List Selector} {source : PageSource}
    (h : (Check.hasSelector list).passes source = true) (now : Instant) :
    (PageReport.ofSource source now).ok = true ∧
      ∃ page, source.page? = some page ∧ Extract.hasSelector page list = true := by
  cases hp : source.page? with
  | none => simp [Check.passes, hp] at h
  | some page =>
      refine ⟨?_, page, rfl, by simpa [Check.passes, hp] using h⟩
      rw [PageReport.ofSource, ← source.page?_isSome_eq_isOk, hp, Option.isSome_some]

lemma expect_of_expected (h : expected a = .ok none) : a.expect = none := by
  cases he : a.expect with
  | none => rfl
  | some e => cases hp : Extract.selector e <;> simp [expected, he, hp, Except.map] at h

lemma parse_of_expected {list : List Selector} {e : String} (h : expected a = .ok (some list))
    (he : a.expect = some e) : Selector.parse e = .ok list := by
  cases hp : Selector.parse e <;> simp [expected, he, Extract.selector, hp, Except.map] at h
  rw [h]

/-- What is complete does not depend on which events are told. -/
lemma Complete.told (h : Complete network env a now o sources) :
    Complete network env a now (o.told a env) sources :=
  ⟨h.output_eq, h.lines, h.readBack, h.requests, h.fetched, h.read, h.expected⟩

/-- **A crawl prints all reports or none.** -/
lemma crawl_complete {list : Option (List Selector)} (hs : IsSession a env s)
    (hlist : expected a = .ok list)
    (h : crawl network a config list s rounds now events = some o) :
    (o.code = 0 ∧ ∃ sources, Complete network env a now o sources) ∨
      (o.code ≠ 0 ∧ o.output = []) := by
  have htold := s.told_answers network a.urlTemplate
  cases list with
  | none =>
      obtain ⟨_, ho, hcode, houtput, hunread, hhits⟩ :=
        crawl_none network a config s rounds now events
      cases h.symm.trans ho
      refine .inl ⟨hcode, _, houtput, houtput ▸ lines_reportLines _ _,
        fun hnow hlength => houtput ▸ reports_read_back hnow hlength,
        s.crawl_requests network a.urlTemplate config a.requests,
        ⟨s, _, _, hs, hhits, htold config _,
          (s.crawl_perm network a.urlTemplate config a.requests).2.subperm⟩,
        fun source hm page hp hread => parse?_of_not_unreadable hm hp (hunread ▸ hread),
        fun e he => ?_⟩
      rw [expect_of_expected hlist] at he
      cases he
  | some list =>
      obtain ⟨hhits, ⟨kept, hkept, hcode, houtput⟩ | ⟨hcode, houtput⟩⟩ := crawl_some h
      · obtain ⟨hperm, hsub, hpass⟩ :=
          s.recrawl_accepted network a.urlTemplate config a.requests hkept
        refine .inl ⟨hcode, kept, houtput, houtput ▸ lines_reportLines _ _,
          fun hnow hlength => houtput ▸ reports_read_back hnow hlength, hperm,
          ⟨s, _, _, hs, hhits, htold .recrawl _, hsub⟩, fun source hm page hp _ => ?_,
          fun e he => ⟨list, parse_of_expected hlist he, ?_⟩⟩
        · obtain ⟨-, page', hp', hpage⟩ := ok_of_passes (hpass source hm) now
          cases hp.symm.trans hp'
          exact parse?_of_hasSelector hpage
        · exact fun source hm => ok_of_passes (hpass source hm) now
      · exact .inr ⟨by rw [hcode]; decide, houtput⟩

/-- **A run prints all reports or none.**

Take any arguments but those that ask for help or the version.  Whenever a run ends, the exit code
says what is on standard output: with code 0 it is complete, with any other code it is empty.  A run
that is asked for without a selector and whose settings are sound always ends with code 0, however
its fetches went. -/
theorem output_all_or_nothing (network : Network) (env : Environment) (args : List String)
    (hh : Command.read args ≠ .ok .help) (hv : Command.read args ≠ .ok .version) :
    (∀ rounds now o, run network env args rounds now = some o →
      (o.code = 0 → ∃ a sources, Command.read args = .ok (.run a) ∧
        Complete network env a now o sources) ∧
      (o.code ≠ 0 → o.output = [])) ∧
    ∀ a, Command.read args = .ok (.run a) → a.expect = none →
      (∀ d : Defect, ¬ d.IsThere a env) →
      ∀ rounds now, ∃ o, run network env args rounds now = some o ∧ o.code = 0 := by
  refine ⟨fun rounds now o h => ?_, fun a hr he hsound rounds now => ?_⟩
  · cases hr : Command.read args with
    | error f =>
        -- arguments that are rejected: the error text alone is shown
        simp only [run, hr] at h
        cases h
        exact ⟨fun hc => absurd hc (Nat.succ_ne_zero 1), fun _ => rfl⟩
    | ok c =>
        cases c with
        | help => exact absurd hr hh
        | version => exact absurd hr hv
        | run a =>
            rw [run_eq hr] at h
            obtain ⟨o', ho', rfl⟩ := Option.map_eq_some_iff.mp h
            obtain ⟨hc, ho⟩ | ⟨config, list, s, events, hs, hlist, hcrawl⟩ := runWith_cases ho'
            · exact ⟨fun hc' => absurd hc' hc, fun _ => ho⟩
            · obtain ⟨hc, sources, hall⟩ | ⟨hc, ho⟩ := crawl_complete hs hlist hcrawl
              · exact ⟨fun _ => ⟨a, sources, rfl, hall.told⟩, fun hc' => absurd hc hc'⟩
              · exact ⟨fun hc' => absurd hc' hc, fun _ => ho⟩
  · -- without a selector the run is over after the first crawl, which always ends
    obtain ⟨config, list, s, events, -, hlist, -, hrun⟩ := runWith_sound hsound
    rw [expected, he] at hlist
    cases hlist
    obtain ⟨o, ho, hcode, -⟩ := crawl_none network a config s rounds now events
    exact ⟨Outcome.told a env o, by rw [run_eq hr, hrun, ho, Option.map_some], hcode⟩

/-- A page that holds what is expected only when it is fetched again, beside one that is gone: with
a selector the first alone is reported and both together are not, and without one both are, whatever
the network is. -/
theorem output_all_or_nothing_expected :
    let web : Web := fun earlier _ url =>
      if url.asked = "http://h/a" then
        some (if earlier.isEmpty then {} else { body := [0x3c, 0x62, 0x3e] })
      else some { status := 404 }
    let network : Network := .following Url.Domain.toAscii web
    let template := ["--url-template", "http://h/"]
    let now : Instant := ⟨⟨2024, 2, 29⟩, 12, 0, 0, 0⟩
    (∃ o a sources, run network {} (template ++ ["--expect", "b", "a"]) 2 now = some o ∧
      o.code = 0 ∧ a.requests = ["a"] ∧ Complete network {} a now o sources) ∧
    (∃ o, run network {} (template ++ ["--expect", "b", "a", "b"]) 2 now = some o ∧
      o.code = 1 ∧ o.output = []) ∧
    ∀ network rounds now, ∃ o, run network {} (template ++ ["a", "b"]) rounds now = some o ∧
      o.code = 0 := by
  intro web network template now
  have hread : Command.read (template ++ ["--expect", "b", "a"])
      = .ok (.run { urlTemplate := "http://h/", expect := some "b", requests := ["a"] }) := by
    decide +kernel
  have hread' : Command.read (template ++ ["--expect", "b", "a", "b"])
      = .ok (.run { urlTemplate := "http://h/", expect := some "b", requests := ["a", "b"] }) := by
    decide +kernel
  have hread'' : Command.read (template ++ ["a", "b"])
      = .ok (.run { urlTemplate := "http://h/", requests := ["a", "b"] }) := by
    decide +kernel
  refine ⟨?_, ?_, ?_⟩
  · have hcode : (run network {} (template ++ ["--expect", "b", "a"]) 2 now).map (·.code)
        = some 0 := by
      decide +kernel
    obtain ⟨o, ho, hcode⟩ := Option.map_eq_some_iff.mp hcode
    obtain ⟨a, sources, ha, hs⟩ := ((output_all_or_nothing network {} _ (by simp [hread])
      (by simp [hread])).1 2 now o ho).1 hcode
    cases hread.symm.trans ha
    exact ⟨o, _, sources, ho, hcode, rfl, hs⟩
  · have hcode : (run network {} (template ++ ["--expect", "b", "a", "b"]) 2 now).map (·.code)
        = some 1 := by
      decide +kernel
    obtain ⟨o, ho, hcode⟩ := Option.map_eq_some_iff.mp hcode
    have houtput := ((output_all_or_nothing network {} _ (by simp [hread'])
      (by simp [hread'])).1 2 now o ho).2 (by rw [hcode]; decide)
    exact ⟨o, ho, hcode, houtput⟩
  · intro network
    refine (output_all_or_nothing network {} _ (by simp [hread'']) (by simp [hread''])).2 _
      hread'' rfl ?_
    rintro d ⟨chain, h⟩
    cases h with
    | workers _ h | delay _ h | timeout h => cases h.1
    | selector he => cases he
    | userAgent hv => cases hv

end CommandLine

end PageCrawl
