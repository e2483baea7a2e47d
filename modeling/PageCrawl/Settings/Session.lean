import PageCrawl.Settings.Dispatch

/-!
# Settings of a session

By what name a session presents itself to servers, how long it waits for a page, and how loudly it
tells of each fetch. A name that cannot be sent is refused when the session is made.
-/

namespace PageCrawl

/-- How pages are fetched. -/
structure SessionConfig where
  userAgent : String := "LalaSpider/0.1"
  /-- The time allowed for a page, in seconds. -/
  timeout : Nat := 30
  /-- Whether each fetch is told of at the usual level of detail. -/
  debug : Bool := false
deriving Repr, DecidableEq, Inhabited

namespace SessionConfig

/-- The variable with the name that is sent. -/
def userAgentVar : String := "USER_AGENT"

/-- The variable with the time allowed. -/
def timeoutVar : String := "SPIDER_TIMEOUT_SECS"

/-- The settings of the environment. -/
def fromEnv (env : Environment) : Except SettingError SessionConfig := do
  let start : SessionConfig := {}
  let timeout ← env.number timeoutVar start.timeout
  return { start with userAgent := (env.get? userAgentVar).getD start.userAgent, timeout }

/-- Whether a name can be sent: it holds no control characters but tabs. -/
def isSendable (name : String) : Bool :=
  name.toList.all fun c => (0x20 ≤ c.toNat && c != '\x7f') || c == '\t'

end SessionConfig

/-- Settings that a session can be made of. -/
structure Session where
  config : SessionConfig
  sendable : SessionConfig.isSendable config.userAgent = true

namespace Session

/-- Why a session cannot be made, the outermost first. -/
def failure : List String :=
  ["Failed to build HTTP client", "builder error", "failed to parse header value"]

/-- A session with the given settings. -/
def new? (config : SessionConfig) : Option Session :=
  if h : SessionConfig.isSendable config.userAgent = true then some ⟨config, h⟩ else none

end Session

end PageCrawl
