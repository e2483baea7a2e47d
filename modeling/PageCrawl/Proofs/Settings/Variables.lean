import PageCrawl.Settings.Session
import PageCrawl.Proofs.Settings.Numerals

/-!
# Settings of the environment

A variable that is unset, or that is no text, leaves a setting at its default; any other sets it, if
its text is the numeral of a number that 64 bits hold, and is refused if not.  `Environment.Sets`
and `Environment.Refuses` say so of the variables as they are given, without any reader.

**Reading.**  A setting is read as what it is set to (`number_eq_ok_iff`), or fails because it is
refused (`number_eq_error_iff`).  The settings of a pool and of a session are those of their
variables, and of two that are refused the one that is looked at first is reported:
`settings_read_numerals`.

**Giving.**  A setting that is given hides its variable (`setting`).  It is the same to write the
number into the variable, since its decimal digits are read as this number (`setting_give`):
`given_settings_overwrite`.
-/

namespace PageCrawl

namespace Environment

/-- **What a setting is set to** by its variable. -/
inductive Sets (env : Environment) (name : String) (default : Nat) : Nat → Prop
  | unset (h : env.vars.lookup name = none) : Sets env name default default
  | bytes (h : env.vars.lookup name = some .bytes) : Sets env name default default
  | text {s : String} {n : Nat} (h : env.vars.lookup name = some (.text s)) (hn : IsNumeral s n)
      (hle : n ≤ 18446744073709551615) : Sets env name default n

/-- A variable is refused with its text if this is no number, or one that is too large. -/
def Refuses (env : Environment) (name s : String) : Prop :=
  env.vars.lookup name = some (.text s) ∧ ∀ n, IsNumeral s n → 18446744073709551615 < n

variable {env : Environment} {name : String}

/-! ## One variable -/

lemma number_cases (env : Environment) (name : String) (default : Nat) :
    (∃ n, env.number name default = .ok n ∧ env.Sets name default n) ∨
    ∃ s fault, env.number name default = .error ⟨name, s, fault⟩ ∧ env.Refuses name s := by
  unfold number get?
  cases hv : env.vars.lookup name with
  | none => exact .inl ⟨default, rfl, .unset hv⟩
  | some value =>
      cases value with
      | bytes => exact .inl ⟨default, rfl, .bytes hv⟩
      | text s =>
          cases hr : Decimal.read s with
          | ok n =>
              obtain ⟨hn, hle⟩ := (Decimal.read_eq_ok_iff s n).mp hr
              exact .inl ⟨n, by simp only [hr], .text hv hn hle⟩
          | error fault =>
              refine .inr ⟨s, fault, by simp only [hr], hv, fun n hn => ?_⟩
              by_contra hle
              have hok := (Decimal.read_eq_ok_iff s n).mpr ⟨hn, Nat.not_lt.mp hle⟩
              rw [hr] at hok
              cases hok

lemma Sets.unique {default m n : Nat} (hm : env.Sets name default m)
    (hn : env.Sets name default n) : m = n := by
  cases hm <;> cases hn <;> simp_all only [Option.some.injEq, EnvValue.text.injEq, reduceCtorEq]
  next hm hlem _ hn hlen =>
    have hread := (Decimal.read_eq_ok_iff _ _).mpr ⟨hm, hlem⟩
    rw [(Decimal.read_eq_ok_iff _ _).mpr ⟨hn, hlen⟩] at hread
    exact (Except.ok.inj hread).symm

/-- What is set is not refused. -/
lemma Sets.not_refuses {default n : Nat} {s : String} (hn : env.Sets name default n) :
    ¬ env.Refuses name s := by
  rintro ⟨hv, hlarge⟩
  cases hn with
  | unset h | bytes h =>
      rw [h] at hv
      cases hv
  | text h hn hle =>
      rw [h] at hv
      cases hv
      exact Nat.not_lt.mpr hle (hlarge _ hn)

/-- **A setting is read as what it is set to.** -/
lemma number_eq_ok_iff {default n : Nat} :
    env.number name default = .ok n ↔ env.Sets name default n := by
  rcases number_cases env name default with ⟨m, hm, hsets⟩ | ⟨s, fault, herror, hrefused⟩
  · rw [hm, Except.ok.injEq]
    exact ⟨fun h => h ▸ hsets, fun h => hsets.unique h⟩
  · rw [herror]
    exact ⟨fun h => (nomatch h), fun h => absurd hrefused h.not_refuses⟩

/-- **A setting fails because its variable is refused**; the error names the variable and shows its
text as it stands there. -/
lemma number_eq_error_iff (default : Nat) {message : String} :
    (∃ e, env.number name default = .error e ∧ e.chain.head? = some message) ↔
      ∃ s, env.Refuses name s ∧ message = name ++ " must be a number, got: " ++ s := by
  rcases number_cases env name default with ⟨m, hm, hsets⟩ | ⟨s, fault, herror, hrefused⟩
  · rw [hm]
    constructor
    · rintro ⟨e, he, -⟩
      cases he
    · rintro ⟨s, hs, -⟩
      exact absurd hs hsets.not_refuses
  · rw [herror]
    constructor
    · rintro ⟨e, he, hmessage⟩
      cases he
      exact ⟨s, hrefused, (Option.some.inj hmessage).symm⟩
    · rintro ⟨s', hs', rfl⟩
      obtain rfl : s = s' := by
        have htext := hrefused.1.symm.trans hs'.1
        cases htext
        rfl
      exact ⟨_, rfl, rfl⟩

lemma refused_iff {default : Nat} :
    (∃ e, env.number name default = .error e) ↔ ∃ s, env.Refuses name s := by
  constructor
  · rintro ⟨e, he⟩
    obtain ⟨s, hs, -⟩ := (number_eq_error_iff default).mp ⟨e, he, rfl⟩
    exact ⟨s, hs⟩
  · rintro ⟨s, hs⟩
    obtain ⟨e, he, -⟩ := (number_eq_error_iff default).mpr ⟨s, hs, rfl⟩
    exact ⟨e, he⟩

/-! ## Settings that may be given -/

/-- A setting that may be given; the environment is asked if it is not. -/
def setting (env : Environment) (given : Option Nat) (name : String) (default : Nat) :
    Except SettingError Nat :=
  given.elim (env.number name default) .ok

lemma setting_eq_error_iff {given : Option Nat} {default : Nat} :
    (∃ e, env.setting given name default = .error e) ↔
      given = none ∧ ∃ s, env.Refuses name s := by
  cases given with
  | none => simp [setting, refused_iff]
  | some n => simp [setting]

lemma requested_eq (workers delay : Option Nat) (env : Environment) :
    DispatchConfig.requested workers delay env =
      (env.setting workers "SPIDER_WORKERS" 10).bind fun w =>
        (env.setting delay "SPIDER_DELAY_MS" 0).bind fun d => .ok (w, d) := by
  cases workers <;> cases delay <;> rfl

/-- The variable of a setting that is given, with the decimal digits of the number in it. -/
def give (env : Environment) (given : Option Nat) (name : String) : Environment :=
  given.elim env fun n => env.set name (toString n)

/-- What is written into a variable is read. -/
lemma setting_give {given : Option Nat} {default : Nat}
    (h : ∀ n ∈ given, n ≤ 18446744073709551615) :
    (env.give given name).number name default = env.setting given name default := by
  cases given with
  | none => rfl
  | some n =>
      have hlookup : ((env.give (some n) name).vars.lookup name) = some (.text (toString n)) := by
        simp [give, set]
      exact number_eq_ok_iff.mpr (.text hlookup (Decimal.isNumeral_toString n) (h n rfl))

/-- The other variables are as they were. -/
lemma lookup_give {other : String} (h : other ≠ name) (given : Option Nat) :
    (env.give given name).vars.lookup other = env.vars.lookup other := by
  cases given with
  | none => rfl
  | some n =>
      have hne : (other == name) = false := beq_false_of_ne h
      simp [give, set, List.lookup_cons, hne]

lemma number_congr {env' : Environment} {default : Nat}
    (h : env'.vars.lookup name = env.vars.lookup name) :
    env'.number name default = env.number name default := by
  simp only [number, get?, h]

/-- A variable plays no part if its setting is given. -/
lemma setting_congr {env' : Environment} {given : Option Nat} {default : Nat}
    (h : given = none → env'.vars.lookup name = env.vars.lookup name) :
    env'.setting given name default = env.setting given name default := by
  cases given with
  | none => exact number_congr (h rfl)
  | some n => rfl

end Environment

/-! ## All settings -/

section Both

variable {α β : Type} {x : Except SettingError α} {y : Except SettingError β}

/-- Two settings that are read one after the other. -/
lemma bind_eq_ok_iff {γ : Type} {f : α → β → γ} {c : γ} :
    (x.bind fun a => y.bind fun b => .ok (f a b)) = .ok c ↔
      ∃ a b, x = .ok a ∧ y = .ok b ∧ f a b = c := by
  cases x <;> cases y <;> simp [Except.bind]

/-- The first that fails is the one that is reported. -/
lemma bind_eq_error_iff {γ : Type} {f : α → β → γ} {e : SettingError} :
    (x.bind fun a => y.bind fun b => .ok (f a b)) = .error e ↔
      x = .error e ∨ (¬ ∃ e', x = .error e') ∧ y = .error e := by
  cases x <;> cases y <;> simp [Except.bind]

end Both

open Environment

lemma DispatchConfig.fromEnvOr_eq (workers delay : Option Nat) (env : Environment) :
    fromEnvOr workers delay env =
      (env.setting workers "SPIDER_WORKERS" 10).bind fun w =>
        (env.setting delay "SPIDER_DELAY_MS" 0).bind fun d => .ok (new w d) := by
  rw [fromEnvOr, requested_eq]
  cases env.setting workers "SPIDER_WORKERS" 10 <;>
    cases env.setting delay "SPIDER_DELAY_MS" 0 <;> rfl

lemma DispatchConfig.new_eq_iff {w d : Nat} {config : DispatchConfig} :
    new w d = config ↔ config.workers = max 1 w ∧ config.delay = d := by
  obtain ⟨workers, delay, hpos⟩ := config
  simp only [new, DispatchConfig.mk.injEq]
  exact and_congr eq_comm eq_comm

lemma SessionConfig.fromEnv_eq (env : Environment) :
    fromEnv env = (env.number "SPIDER_TIMEOUT_SECS" 30).map fun n =>
      { userAgent := (env.get? "USER_AGENT").getD "LalaSpider/0.1", timeout := n } := by
  cases h : env.number "SPIDER_TIMEOUT_SECS" 30 <;>
    simp [fromEnv, timeoutVar, userAgentVar, h, bind, Except.bind, Except.map, pure, Except.pure]

/-- **The settings of the environment are the numerals in it.**

A variable that is unset, or is no text, leaves its setting at the default.  Any other is accepted
exactly if its text is the numeral of a number that 64 bits hold, which is then the setting; only a
count of no workers becomes one worker.  What is not accepted fails, with an error that names the
variable and shows its text as it is; the count of workers comes before the pause. -/
theorem settings_read_numerals (env : Environment) :
    (∀ config, DispatchConfig.fromEnv env = .ok config ↔
      ∃ w d, env.Sets "SPIDER_WORKERS" 10 w ∧ env.Sets "SPIDER_DELAY_MS" 0 d ∧
        config.workers = max 1 w ∧ config.delay = d) ∧
    (∀ message, (∃ e, DispatchConfig.fromEnv env = .error e ∧ e.chain.head? = some message) ↔
      (∃ s, env.Refuses "SPIDER_WORKERS" s ∧
        message = "SPIDER_WORKERS must be a number, got: " ++ s) ∨
      (¬ ∃ s, env.Refuses "SPIDER_WORKERS" s) ∧ ∃ s, env.Refuses "SPIDER_DELAY_MS" s ∧
        message = "SPIDER_DELAY_MS must be a number, got: " ++ s) ∧
    (∀ config, SessionConfig.fromEnv env = .ok config ↔
      env.Sets "SPIDER_TIMEOUT_SECS" 30 config.timeout ∧
        config.userAgent = (env.get? "USER_AGENT").getD "LalaSpider/0.1" ∧
        config.debug = false) ∧
    ∀ message, (∃ e, SessionConfig.fromEnv env = .error e ∧ e.chain.head? = some message) ↔
      ∃ s, env.Refuses "SPIDER_TIMEOUT_SECS" s ∧
        message = "SPIDER_TIMEOUT_SECS must be a number, got: " ++ s := by
  refine ⟨fun config => ?_, fun message => ?_, fun config => ?_, fun message => ?_⟩
  · rw [DispatchConfig.fromEnv, DispatchConfig.fromEnvOr_eq, bind_eq_ok_iff]
    simp only [setting, Option.elim_none, number_eq_ok_iff, DispatchConfig.new_eq_iff]
  · have hworkers : "SPIDER_WORKERS" ++ " must be a number, got: "
        = "SPIDER_WORKERS must be a number, got: " := by decide
    have hdelay : "SPIDER_DELAY_MS" ++ " must be a number, got: "
        = "SPIDER_DELAY_MS must be a number, got: " := by decide
    simp only [DispatchConfig.fromEnv, DispatchConfig.fromEnvOr_eq, bind_eq_error_iff, setting,
      Option.elim_none, refused_iff, or_and_right, exists_or, and_assoc, exists_and_left,
      number_eq_error_iff, hworkers, hdelay]
  · rw [SessionConfig.fromEnv_eq]
    cases hn : env.number "SPIDER_TIMEOUT_SECS" 30 with
    | ok n =>
        have hsets := number_eq_ok_iff.mp hn
        constructor
        · rintro ⟨⟩
          exact ⟨hsets, rfl, rfl⟩
        · rintro ⟨htimeout, huser, hdebug⟩
          obtain ⟨userAgent, timeout, debug⟩ := config
          obtain rfl := hsets.unique htimeout
          obtain rfl := huser
          obtain rfl := hdebug
          rfl
    | error e =>
        obtain ⟨s, hs⟩ := refused_iff.mp ⟨e, hn⟩
        exact ⟨fun h => (nomatch h), fun h => absurd hs h.1.not_refuses⟩
  · have htimeout : "SPIDER_TIMEOUT_SECS" ++ " must be a number, got: "
        = "SPIDER_TIMEOUT_SECS must be a number, got: " := by decide
    rw [← htimeout, ← number_eq_error_iff 30, SessionConfig.fromEnv_eq]
    cases env.number "SPIDER_TIMEOUT_SECS" 30 <;> simp [Except.map]

/-- Blanks and zeros, and a count that is too large for 64 bits by one. -/
example : (SessionConfig.fromEnv ⟨[("SPIDER_TIMEOUT_SECS", .text "\t+007\u00a0")]⟩).map (·.timeout)
      = .ok 7 ∧
    (DispatchConfig.fromEnv ⟨[("SPIDER_DELAY_MS", .text "-5"),
        ("SPIDER_WORKERS", .text " 18446744073709551616")]⟩).map (·.workers)
      = .error ⟨"SPIDER_WORKERS", " 18446744073709551616", .tooLarge⟩ := by
  decide +kernel

/-- **A setting that is given is the same as its variable overwritten.**

With any count of workers and any pause that 64 bits hold, given or not, the settings of a pool are
those of the environment in which the given numbers stand in their variables, and so is the error if
there is one.  The variable of a setting that is given plays no part, whatever its text; and reading
fails exactly if a variable that is consulted is refused. -/
theorem given_settings_overwrite {workers delay : Option Nat}
    (hw : ∀ w ∈ workers, w ≤ 18446744073709551615) (hd : ∀ d ∈ delay, d ≤ 18446744073709551615)
    (env : Environment) :
    DispatchConfig.fromEnvOr workers delay env = DispatchConfig.fromEnv
      ((env.give workers "SPIDER_WORKERS").give delay "SPIDER_DELAY_MS") ∧
    (∀ env' : Environment,
      (workers = none → env'.vars.lookup "SPIDER_WORKERS" = env.vars.lookup "SPIDER_WORKERS") →
      (delay = none → env'.vars.lookup "SPIDER_DELAY_MS" = env.vars.lookup "SPIDER_DELAY_MS") →
      DispatchConfig.fromEnvOr workers delay env' = DispatchConfig.fromEnvOr workers delay env) ∧
    ((∃ e, DispatchConfig.fromEnvOr workers delay env = .error e) ↔
      workers = none ∧ (∃ s, env.Refuses "SPIDER_WORKERS" s) ∨
      delay = none ∧ ∃ s, env.Refuses "SPIDER_DELAY_MS" s) := by
  refine ⟨?_, fun env' hworkers hdelay => ?_, ?_⟩
  · have hread : ∀ env : Environment, DispatchConfig.fromEnv env =
        (env.number "SPIDER_WORKERS" 10).bind fun w =>
          (env.number "SPIDER_DELAY_MS" 0).bind fun d => .ok (.new w d) :=
      fun env => DispatchConfig.fromEnvOr_eq none none env
    have hpause : (env.give workers "SPIDER_WORKERS").setting delay "SPIDER_DELAY_MS" 0
        = env.setting delay "SPIDER_DELAY_MS" 0 :=
      setting_congr fun _ => lookup_give (by decide) workers
    rw [hread, number_congr (lookup_give (by decide) delay), setting_give hw, setting_give hd,
      hpause, DispatchConfig.fromEnvOr_eq]
  · rw [DispatchConfig.fromEnvOr_eq, DispatchConfig.fromEnvOr_eq, setting_congr hworkers,
      setting_congr hdelay]
  · rw [DispatchConfig.fromEnvOr_eq]
    simp only [bind_eq_error_iff, exists_or, exists_and_left, setting_eq_error_iff]
    tauto

/-- A count that is given over one that is none, and a pause that is read; and the same pause where
it is refused. -/
theorem given_settings_overwrite_workers :
    let workers := some 18446744073709551615
    let env : Environment :=
      ⟨[("SPIDER_WORKERS", .text "lots"), ("SPIDER_DELAY_MS", .text " +750")]⟩
    let bad : Environment := ⟨[("SPIDER_WORKERS", .bytes), ("SPIDER_DELAY_MS", .text "soon")]⟩
    (∀ w ∈ workers, w ≤ 18446744073709551615) ∧
    (DispatchConfig.fromEnv ((env.give workers "SPIDER_WORKERS").give none "SPIDER_DELAY_MS")).map
      (fun config => (config.workers, config.delay)) = .ok (18446744073709551615, 750) ∧
    ∃ e, DispatchConfig.fromEnvOr workers none bad = .error e := by
  intro workers env bad
  have hworkers : ∀ w ∈ workers, w ≤ 18446744073709551615 := fun w hw => (Option.some.inj hw).ge
  have hnone : ∀ d ∈ (none : Option Nat), d ≤ 18446744073709551615 := by simp
  refine ⟨hworkers, ?_, ?_⟩
  · rw [← (given_settings_overwrite hworkers hnone env).1]
    decide +kernel
  · refine (given_settings_overwrite hworkers hnone bad).2.2.mpr (.inr ⟨rfl, "soon", rfl, ?_⟩)
    intro n hn
    by_contra hle
    have hread := (Decimal.read_eq_ok_iff "soon" n).mpr ⟨hn, Nat.not_lt.mp hle⟩
    have hfault : Decimal.read "soon" = .error .invalidDigit := by decide +kernel
    rw [hfault] at hread
    cases hread

end PageCrawl
