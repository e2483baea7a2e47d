import PageCrawl.Proofs.CommandLine.Outcomes
import PageCrawl.Proofs.Settings.Variables

/-!
# Runs that end before they begin

Five things can be wrong with a run that is asked for.  A `Defect` names one of them, and
`Defect.Shows` says when it is there and what is to be reported: it speaks of the variables, the
flags and the selector as they are given, and of none of the records that the program makes of
them.  A variable whose setting is given as a flag plays no part.

**The first defect ends the run.**  Each step that looks for a defect has one lemma for the case in
which it is there (`requested_workers`, `requested_delay`, `expected_selector`, `fromEnv_timeout`,
`new_userAgent`) and one for the case in which it is not.  `runWith_first` puts them in order.

**Nothing else does.**  Without defects the requests are crawled: `runWith_sound`.

A selector may have a fault that cannot be told.  Such a run ends as well, but how it ends is not
said here.
-/

namespace PageCrawl

/-- The text of a variable that should be a number and is none. -/
def Environment.Malformed (env : Environment) (name value : String) (fault : DecimalFault) : Prop :=
  env.get? name = some value ∧ Decimal.read value = .error fault

namespace Environment

variable {env : Environment} {name value : String} {fault : DecimalFault}

lemma number_eq_error (h : env.Malformed name value fault) (default : Nat) :
    env.number name default = .error ⟨name, value, fault⟩ := by
  simp [number, h.1, h.2]

lemma number_eq_ok (h : ∀ value fault, ¬ env.Malformed name value fault) (default : Nat) :
    ∃ n, env.number name default = .ok n := by
  unfold number
  cases hv : env.get? name with
  | none => exact ⟨default, rfl⟩
  | some value =>
      cases hr : Decimal.read value with
      | ok n => exact ⟨n, by simp only [hr]⟩
      | error fault => exact absurd ⟨hv, hr⟩ (h value fault)

lemma setting_eq_ok {given : Option Nat}
    (h : ∀ value fault, given = none → ¬ env.Malformed name value fault) (default : Nat) :
    ∃ n, env.setting given name default = .ok n := by
  cases given with
  | some n => exact ⟨n, rfl⟩
  | none => exact number_eq_ok (fun value fault => h value fault rfl) default

end Environment

namespace CommandLine

/-- What can be wrong with a run that is asked for. -/
inductive Defect
  | workers
  | delay
  | selector
  | timeout
  | userAgent

namespace Defect

/-- The place of a defect in the order in which they are looked for. -/
def place : Defect → Nat
  | .workers => 0
  | .delay => 1
  | .selector => 2
  | .timeout => 3
  | .userAgent => 4

/-- **When a defect is there, and what is reported**: the error and its causes, or nothing if the
fault cannot be told. -/
inductive Shows (a : Arguments) (env : Environment) : Defect → Option (List String) → Prop
  | workers {value : String} {fault : DecimalFault} (hg : a.workers = none)
      (h : env.Malformed "SPIDER_WORKERS" value fault) :
      Shows a env .workers (some ["SPIDER_WORKERS must be a number, got: " ++ value, fault.display])
  | delay {value : String} {fault : DecimalFault} (hg : a.delay = none)
      (h : env.Malformed "SPIDER_DELAY_MS" value fault) :
      Shows a env .delay (some ["SPIDER_DELAY_MS must be a number, got: " ++ value, fault.display])
  | selector {e : String} {fault : Selector.Fault} (he : a.expect = some e)
      (h : Selector.parse e = .error fault) :
      Shows a env .selector (fault.message?.map fun reason =>
        ["--expect is not a valid CSS selector: " ++ e, "invalid selector " ++ e ++ ": " ++ reason])
  | timeout {value : String} {fault : DecimalFault}
      (h : env.Malformed "SPIDER_TIMEOUT_SECS" value fault) :
      Shows a env .timeout
        (some ["SPIDER_TIMEOUT_SECS must be a number, got: " ++ value, fault.display])
  | userAgent {name : String} (hv : env.get? "USER_AGENT" = some name)
      (h : SessionConfig.isSendable name = false) :
      Shows a env .userAgent
        (some ["Failed to build HTTP client", "builder error", "failed to parse header value"])

/-- Whether a defect is there. -/
def IsThere (a : Arguments) (env : Environment) (d : Defect) : Prop := ∃ chain, d.Shows a env chain

end Defect

/-! ## The steps -/

section Steps

variable {a : Arguments} {env : Environment} {value : String} {fault : DecimalFault}

lemma requested_workers (hg : a.workers = none) (h : env.Malformed "SPIDER_WORKERS" value fault) :
    DispatchConfig.requested a.workers a.delay env = .error ⟨"SPIDER_WORKERS", value, fault⟩ := by
  rw [Environment.requested_eq, Environment.setting, hg, Option.elim_none,
    Environment.number_eq_error h]
  rfl

lemma workers_ok (h : ¬ Defect.workers.IsThere a env) :
    ∃ w, env.setting a.workers "SPIDER_WORKERS" 10 = .ok w :=
  Environment.setting_eq_ok (fun _ _ hg hm => h ⟨_, .workers hg hm⟩) 10

lemma requested_delay (hw : ¬ Defect.workers.IsThere a env) (hg : a.delay = none)
    (h : env.Malformed "SPIDER_DELAY_MS" value fault) :
    DispatchConfig.requested a.workers a.delay env = .error ⟨"SPIDER_DELAY_MS", value, fault⟩ := by
  obtain ⟨w, hw⟩ := workers_ok hw
  rw [Environment.requested_eq, hw, Environment.setting, hg, Option.elim_none,
    Environment.number_eq_error h]
  rfl

lemma requested_ok (hw : ¬ Defect.workers.IsThere a env) (hd : ¬ Defect.delay.IsThere a env) :
    ∃ settings, DispatchConfig.requested a.workers a.delay env = .ok settings := by
  obtain ⟨w, hw⟩ := workers_ok hw
  obtain ⟨d, hd⟩ : ∃ d, env.setting a.delay "SPIDER_DELAY_MS" 0 = .ok d :=
    Environment.setting_eq_ok (fun _ _ hg hm => hd ⟨_, .delay hg hm⟩) 0
  exact ⟨(w, d), by rw [Environment.requested_eq, hw, hd]; rfl⟩

lemma expected_selector {e : String} {fault : Selector.Fault} (he : a.expect = some e)
    (h : Selector.parse e = .error fault) : expected a = .error (.invalidSelector e fault) := by
  simp [expected, he, Extract.selector, h, Except.map]

lemma expected_ok (h : ¬ Defect.selector.IsThere a env) : ∃ list, expected a = .ok list := by
  cases he : a.expect with
  | none => exact ⟨none, by simp [expected, he]⟩
  | some e =>
      cases hp : Selector.parse e with
      | error fault => exact absurd ⟨_, .selector he hp⟩ h
      | ok list => exact ⟨some list, by simp [expected, he, Extract.selector, hp, Except.map]⟩

lemma fromEnv_timeout (h : env.Malformed "SPIDER_TIMEOUT_SECS" value fault) :
    SessionConfig.fromEnv env = .error ⟨"SPIDER_TIMEOUT_SECS", value, fault⟩ := by
  have hn := Environment.number_eq_error h 30
  simp [SessionConfig.fromEnv, SessionConfig.timeoutVar, hn, bind, Except.bind]

/-- The name that is sent is that of the environment, or else the usual one. -/
lemma fromEnv_ok (h : ¬ Defect.timeout.IsThere a env) :
    ∃ c, SessionConfig.fromEnv env = .ok c ∧
      c.userAgent = (env.get? "USER_AGENT").getD "LalaSpider/0.1" := by
  obtain ⟨n, hn⟩ : ∃ n, env.number "SPIDER_TIMEOUT_SECS" 30 = .ok n :=
    Environment.number_eq_ok (fun _ _ hm => h ⟨_, .timeout hm⟩) 30
  refine ⟨_, by simp only [SessionConfig.fromEnv, SessionConfig.timeoutVar, hn]; rfl, rfl⟩

lemma new_userAgent {c : SessionConfig} {name : String}
    (hc : c.userAgent = (env.get? "USER_AGENT").getD "LalaSpider/0.1")
    (hv : env.get? "USER_AGENT" = some name) (h : SessionConfig.isSendable name = false) :
    Session.new? c = none := by
  rw [hv, Option.getD_some] at hc
  simp [Session.new?, hc, h]

lemma new_ok {c : SessionConfig} (hc : c.userAgent = (env.get? "USER_AGENT").getD "LalaSpider/0.1")
    (h : ¬ Defect.userAgent.IsThere a env) : ∃ s, Session.new? c = some s := by
  have hs : SessionConfig.isSendable c.userAgent = true := by
    cases hv : env.get? "USER_AGENT" with
    | none =>
        -- the usual name can be sent
        rw [hc, hv]
        decide
    | some name =>
        rw [hc, hv, Option.getD_some]
        by_contra hs
        exact h ⟨_, .userAgent hv (Bool.eq_false_iff.mpr hs)⟩
  exact ⟨⟨c, hs⟩, by simp [Session.new?, hs]⟩

end Steps

/-! ## The run -/

/-- **A run that is refused**: it prints nothing and reaches nobody, and its error is the given one
if that can be told. -/
structure Outcome.Refused (o : Outcome) (chain : Option (List String)) : Prop where
  output : o.output = []
  hits : o.hits = []
  error : ∀ causes, chain = some causes → o.code = 1 ∧ o.errors = Outcome.errorText causes

lemma refused_failed (chain : List String) (events : List Log.Event) :
    (Outcome.failed chain events).Refused (some chain) :=
  ⟨rfl, rfl, by rintro _ ⟨⟩; exact ⟨rfl, rfl⟩⟩

lemma refused_unusableSelector {a : Arguments} {e : String} (he : a.expect = some e)
    (fault : Selector.Fault) (events : List Log.Event) :
    (unusableSelector a (.invalidSelector e fault) events).Refused (fault.message?.map fun reason =>
      ["--expect is not a valid CSS selector: " ++ e,
        "invalid selector " ++ e ++ ": " ++ reason]) := by
  cases hm : fault.message? with
  | none =>
      simp only [unusableSelector, ExtractError.message?, hm, Option.map_none]
      exact ⟨rfl, rfl, by simp⟩
  | some reason =>
      simp only [unusableSelector, ExtractError.message?, hm, Option.map_some, he,
        Option.getD_some]
      exact refused_failed _ _

variable {a : Arguments} {env : Environment}

/-- **The first defect ends the run.** -/
lemma runWith_first {d : Defect} {chain : Option (List String)} (h : d.Shows a env chain)
    (hfirst : ∀ e : Defect, e.place < d.place → ¬ e.IsThere a env) (network : Network)
    (rounds : Nat) (now : Instant) :
    ∃ o, runWith network env a rounds now = some o ∧ o.Refused chain := by
  -- what comes before the defect has gone well, since it is the first
  cases h with
  | workers hg hm =>
      simp only [runWith, requested_workers hg hm]
      exact ⟨_, rfl, refused_failed _ []⟩
  | delay hg hm =>
      have hw := hfirst .workers (by decide)
      simp only [runWith, requested_delay hw hg hm]
      exact ⟨_, rfl, refused_failed _ []⟩
  | selector he hp =>
      obtain ⟨settings, hreq⟩ := requested_ok (hfirst .workers (by decide))
        (hfirst .delay (by decide))
      simp only [runWith, hreq, expected_selector he hp]
      exact ⟨_, rfl, refused_unusableSelector he _ _⟩
  | timeout hm =>
      obtain ⟨settings, hreq⟩ := requested_ok (hfirst .workers (by decide))
        (hfirst .delay (by decide))
      obtain ⟨list, hlist⟩ := expected_ok (hfirst .selector (by decide))
      simp only [runWith, hreq, hlist, fromEnv_timeout hm]
      exact ⟨_, rfl, refused_failed _ _⟩
  | userAgent hv hs =>
      obtain ⟨settings, hreq⟩ := requested_ok (hfirst .workers (by decide))
        (hfirst .delay (by decide))
      obtain ⟨list, hlist⟩ := expected_ok (hfirst .selector (by decide))
      obtain ⟨c, hc, hname⟩ := fromEnv_ok (hfirst .timeout (by decide))
      have hnew : Session.new? { c with debug := a.verbose } = none := new_userAgent hname hv hs
      simp only [runWith, hreq, hlist, hc, hnew]
      exact ⟨_, rfl, refused_failed _ _⟩

/-- **Without defects the requests are crawled.** -/
lemma runWith_sound (h : ∀ d : Defect, ¬ d.IsThere a env) :
    ∃ config list s events, DispatchConfig.fromEnvOr a.workers a.delay env = .ok config ∧
      expected a = .ok list ∧ IsSession a env s ∧
      ∀ network rounds now,
        runWith network env a rounds now = crawl network a config list s rounds now events := by
  obtain ⟨⟨w, d⟩, hreq⟩ := requested_ok (h .workers) (h .delay)
  obtain ⟨list, hlist⟩ := expected_ok (h .selector)
  obtain ⟨c, hc, hname⟩ := fromEnv_ok (h .timeout)
  obtain ⟨s, hs⟩ := new_ok (c := { c with debug := a.verbose }) hname (h .userAgent)
  refine ⟨.new w d, list, s,
    (if w == 0 then [Log.Event.noWorkers] else []) ++ [Log.Event.sessionMade s.config], ?_, hlist,
    ⟨c, hc, config_of_new? hs⟩, fun network rounds now => ?_⟩
  · simp [DispatchConfig.fromEnvOr, hreq, Except.map]
  · simp only [runWith, hreq, hlist, hc, hs]

/-- **The first defect ends a run that is asked for, before anything is fetched.**

If something is wrong with its settings, the run prints nothing and reaches nobody; it ends with
code 1 and with the first defect as its error, unless that is a selector whose fault cannot be told.
If nothing is, the run goes on to crawl: with the settings that are given and those of the
environment, its first crawl makes one call for each request, and whatever the run shows it has
reached what these calls and those of crawling again reached. -/
theorem first_defect_ends_run {args : List String} {a : Arguments}
    (hr : Command.read args = .ok (.run a)) (network : Network) (env : Environment) :
    (∀ (d : Defect) chain, d.Shows a env chain →
      (∀ e : Defect, e.place < d.place → ¬ e.IsThere a env) →
      ∀ rounds now, ∃ o, run network env args rounds now = some o ∧ o.Refused chain) ∧
    ((∀ d : Defect, ¬ d.IsThere a env) →
      ∃ config list s, DispatchConfig.fromEnvOr a.workers a.delay env = .ok config ∧
        expected a = .ok list ∧ IsSession a env s ∧
        (s.crawl network a.urlTemplate config a.requests).1.called.Perm a.requests ∧
        ∀ rounds now, (∃ events, run network env args rounds now
            = (crawl network a config list s rounds now events).map (Outcome.told a env)) ∧
          ∀ o, run network env args rounds now = some o →
            ∃ later, o.hits = s.hitsOf network a.urlTemplate
              (later ++ (s.crawl network a.urlTemplate config a.requests).1.called)) := by
  simp only [run_eq hr]
  refine ⟨fun d chain h hfirst rounds now => ?_, fun h => ?_⟩
  · obtain ⟨o, ho, hrefused⟩ := runWith_first h hfirst network rounds now
    rw [ho]
    exact ⟨_, rfl, hrefused.output, hrefused.hits, hrefused.error⟩
  · obtain ⟨config, list, s, events, hconfig, hlist, hs, hrun⟩ := runWith_sound h
    refine ⟨config, list, s, hconfig, hlist, hs,
      (s.crawl_perm network a.urlTemplate config a.requests).1, fun rounds now => ?_⟩
    rw [hrun]
    refine ⟨⟨events, rfl⟩, fun o ho => ?_⟩
    obtain ⟨o', ho', rfl⟩ := Option.map_eq_some_iff.mp ho
    obtain ⟨later, hlater⟩ := crawl_hits ho'
    exact ⟨later, hlater⟩

/-- A count of workers that is no number and is not looked at, since another one is given; and a
time allowed that is none, which comes before the name that cannot be sent.  Without these two, and
with a pause in blanks, both requests are called. -/
theorem first_defect_ends_run_timeout :
    let args := ["--url-template", "http://portal.test/", "--workers", "3", "a", "a"]
    let a : Arguments :=
      { urlTemplate := "http://portal.test/", workers := some 3, requests := ["a", "a"] }
    let bad : Environment := ⟨[("SPIDER_WORKERS", .text "many"),
      ("SPIDER_TIMEOUT_SECS", .text "soon"), ("USER_AGENT", .text "a\nb")]⟩
    let good : Environment := ⟨[("SPIDER_WORKERS", .text "many"),
      ("SPIDER_DELAY_MS", .text " +07 "), ("SPIDER_TIMEOUT_SECS", .bytes)]⟩
    Command.read args = .ok (.run a) ∧
      (∀ network rounds now, ∃ o, run network bad args rounds now = some o ∧ o.code = 1 ∧
        o.output = [] ∧ o.hits = [] ∧
        o.errors = "Error: SPIDER_TIMEOUT_SECS must be a number, got: soon\n\nCaused by:\n" ++
          "    invalid digit found in string") ∧
      (∀ d : Defect, ¬ d.IsThere a good) ∧
      ∀ network, ∃ config s, DispatchConfig.fromEnvOr a.workers a.delay good = .ok config ∧
        (config.workers, config.delay) = (3, 7) ∧
        (Session.crawl s network a.urlTemplate config a.requests).1.called.Perm ["a", "a"] := by
  intro args a bad good
  have hr : Command.read args = .ok (.run a) := by decide +kernel
  have hgood : ∀ d : Defect, ¬ d.IsThere a good := by
    rintro d ⟨chain, h⟩
    cases h with
    | workers hg => cases hg
    | delay _ h =>
        obtain ⟨hv, hd⟩ := h
        cases hv
        -- blanks, a sign and a zero in front are no fault
        have hread : Decimal.read " +07 " = .ok 7 := by decide +kernel
        rw [hread] at hd
        cases hd
    | selector he => cases he
    | timeout h => cases h.1
    | userAgent hv => cases hv
  have htimeout : bad.Malformed "SPIDER_TIMEOUT_SECS" "soon" .invalidDigit :=
    ⟨by decide, by decide +kernel⟩
  have hbefore : ∀ e : Defect, e.place < Defect.timeout.place → ¬ e.IsThere a bad := by
    rintro e hplace ⟨chain, h⟩
    cases h with
    | workers hg => cases hg
    | delay _ h => cases h.1
    | selector he => cases he
    | timeout | userAgent => exact absurd hplace (by decide)
  refine ⟨hr, fun network rounds now => ?_, hgood, fun network => ?_⟩
  · obtain ⟨hfirst, -⟩ := first_defect_ends_run hr network bad
    obtain ⟨o, ho, hrefused⟩ := hfirst .timeout _ (.timeout htimeout) hbefore rounds now
    obtain ⟨hcode, herrors⟩ := hrefused.error _ rfl
    exact ⟨o, ho, hcode, hrefused.output, hrefused.hits, herrors.trans (by decide +kernel)⟩
  · obtain ⟨-, hsound⟩ := first_defect_ends_run hr network good
    obtain ⟨config, list, s, hconfig, -, -, hcalled, -⟩ := hsound hgood
    have hvalue : (DispatchConfig.fromEnvOr a.workers a.delay good).map
        (fun c => (c.workers, c.delay)) = .ok (3, 7) := by decide +kernel
    rw [hconfig] at hvalue
    exact ⟨config, s, hconfig, Except.ok.inj hvalue, hcalled⟩

/-- Arguments that are rejected end a run before any of its settings is looked at. -/
theorem rejected_arguments_hide_defects :
    let args := ["--url-template", "http://portal.test/case/\x7b\x7d", "--nope", "a"]
    let env : Environment := ⟨[("SPIDER_TIMEOUT_SECS", .text "soon")]⟩
    let now : Instant := ⟨⟨2024, 2, 29⟩, 12, 0, 0, 0⟩
    env.Malformed "SPIDER_TIMEOUT_SECS" "soon" .invalidDigit ∧
      ∃ o, run .unreachable env args 0 now = some o ∧ o.code = 2 ∧ o.code ≠ 1 ∧
        o.errors = "error: unexpected argument '--nope' found" := by
  intro args env now
  have hread : Command.read args = .error (.unexpected "--nope") := by decide +kernel
  refine ⟨⟨by decide, by decide +kernel⟩,
    { code := 2, errors := "error: unexpected argument '--nope' found" }, ?_, rfl, by decide, rfl⟩
  simp only [run, hread]
  decide +kernel

end CommandLine

end PageCrawl
