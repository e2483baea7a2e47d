import PageCrawl.Proofs.Pool.Spread
import PageCrawl.Proofs.Session.Redirects

/-!
# What a fetch comes to

Four steps lie between a request and its page: the address has to be one, the request has to be
answered, the answer has to be a success, and its body has to be complete.  What does not go well
stands in front of the message; nothing but a page of the last step passes as one.

**One call.**  `Session.Tells` says what a source has to say of what the network made of its
request, and each call tells it (`tells_call`), whatever the network is.

**A batch.**  What a call starts from is fixed by the calls before it, so the sources of a batch
pair off with its calls: `Session.Told` follows the log of the pool (`told_answers`), and the calls
are the requests in some order (`crawl_perm`).

**A web.**  `View.Shows` says the same in terms of what servers answer, without the network: there
is a page exactly if the redirects of the address end at a complete success.  Where the client keeps
to what it is taken to do and the web is prompt, one follows from the other (`Keeps.shows`).

**Steady webs.**  There the log plays no part, and the source of a request is a function of the
request (`answers_of_steady`).  Requests can then be put into a batch or left out of it without any
effect on the others.
-/

namespace PageCrawl

open Http

/-- Whether a source is a failed one of a crawl, with a message that begins with the given text. -/
def PageSource.FailsWith (source : PageSource) (step : String) : Prop :=
  source.page? = none ∧ ∃ rest, source.error? = some (.failed source.request (step ++ rest))

/-- **Sources that pair off with the calls of a log**, given as `Run.called`: one for each, of which
something is said that may depend on the calls before. -/
inductive Paired (tells : List String → PageSource → Prop) : List String → List PageSource → Prop
  | nil : Paired tells [] []
  | cons {earlier : List String} {request : String} {outcome : Outcome}
      {sources : List PageSource} (h : tells earlier ⟨request, outcome⟩)
      (rest : Paired tells earlier sources) :
      Paired tells (request :: earlier) (⟨request, outcome⟩ :: sources)

lemma Paired.mono {tells tells' : List String → PageSource → Prop} {log : List String}
    {sources : List PageSource} (h : Paired tells log sources)
    (himp : ∀ earlier source, tells earlier source → tells' earlier source) :
    Paired tells' log sources := by
  induction h with
  | nil => exact .nil
  | cons hhead _ ih => exact .cons (himp _ _ hhead) ih

namespace Session

variable {s : Session} {network : Network} {template address : String} {earlier : List String}
  {source : PageSource}

/-- **What a source has to say of a fetch** of an address, after the addresses that were asked for
before. -/
structure Tells (s : Session) (network : Network) (earlier : List String) (address : String)
    (source : PageSource) : Prop where
  /-- The source has a page exactly if the address is one, the request is answered with a success,
  and the body can be read; the page is the text of that body. -/
  page_iff : ∀ page, source.page? = some page ↔
    ∃ url response, Url.parse network.naming address = .ok url ∧
      (network.send s.allowed earlier url).result = .ok response ∧
      isSuccess response.status = true ∧ response.text = .ok page
  /-- The address is none. -/
  invalidUrl : ∀ fault, Url.parse network.naming address = .error fault →
    source.FailsWith ("Invalid URL " ++ address)
  /-- The request is not answered. -/
  unanswered : ∀ url causes, Url.parse network.naming address = .ok url →
    (network.send s.allowed earlier url).result = .error causes →
    source.FailsWith ("Failed to fetch content: " ++ address)
  /-- The answer is no success. -/
  unexpectedStatus : ∀ url response, Url.parse network.naming address = .ok url →
    (network.send s.allowed earlier url).result = .ok response →
    isSuccess response.status = false →
    source.FailsWith ("Unexpected status " ++ statusText response.status ++ " for " ++ address)
  /-- The body cannot be read. -/
  brokenBody : ∀ url response causes, Url.parse network.naming address = .ok url →
    (network.send s.allowed earlier url).result = .ok response →
    isSuccess response.status = true → response.text = .error causes →
    source.FailsWith ("Failed to read body of " ++ address)

/-! ## One fetch -/

section Fetch

variable {url : Url} {response : Response} {causes : List String}

lemma fetch_invalidUrl {fault : UrlFault} (hu : Url.parse network.naming address = .error fault) :
    (s.fetch network earlier address).result = .error (.invalidUrl address fault) := by
  simp [fetch, hu]

variable (hu : Url.parse network.naming address = .ok url)
include hu

lemma fetch_unanswered (hr : (network.send s.allowed earlier url).result = .error causes) :
    (s.fetch network earlier address).result = .error (.unanswered address causes) := by
  simp [fetch, hu, Exchange.fetched, hr]

lemma fetch_answered (hr : (network.send s.allowed earlier url).result = .ok response) :
    (s.fetch network earlier address).result =
      if isSuccess response.status then response.text.mapError (.brokenBody address)
      else .error (.unexpectedStatus address response.status) := by
  simp [fetch, hu, Exchange.fetched, hr]

end Fetch

/-- **A fetch gives a page exactly if every step goes well.** -/
lemma fetch_eq_ok_iff {page : String} :
    (s.fetch network earlier address).result = .ok page ↔
      ∃ url response, Url.parse network.naming address = .ok url ∧
        (network.send s.allowed earlier url).result = .ok response ∧
        isSuccess response.status = true ∧ response.text = .ok page := by
  constructor
  · intro h
    cases hu : Url.parse network.naming address with
    | error fault => simp [fetch_invalidUrl hu] at h
    | ok url =>
        cases hr : (network.send s.allowed earlier url).result with
        | error causes => simp [fetch_unanswered hu hr] at h
        | ok response =>
            -- status and body are left to look at
            rw [fetch_answered hu hr] at h
            cases hs : isSuccess response.status with
            | false => simp [hs] at h
            | true =>
                cases ht : response.text with
                | error causes => simp [hs, ht, Except.mapError] at h
                | ok text =>
                    simp only [hs, ht, ↓reduceIte, Except.mapError, Except.ok.injEq] at h
                    exact ⟨url, response, rfl, hr, hs, h ▸ ht⟩
  · rintro ⟨url, response, hu, hr, hs, ht⟩
    simp [fetch_answered hu hr, hs, ht, Except.mapError]

/-- **The message of a failed crawl begins with what went wrong**; the causes stand behind. -/
lemma failsWith_error {request step message more : String} (causes : List String)
    (h : message = step ++ more) :
    (⟨request, (CallEnding.error (message :: causes)).outcome⟩ : PageSource).FailsWith step := by
  refine ⟨rfl, ?_⟩
  cases causes with
  | nil => exact ⟨more, by simp [CallEnding.outcome, PageSource.error?, h]⟩
  | cons cause causes =>
      refine ⟨more ++ ": " ++ String.intercalate ": " (cause :: causes), ?_⟩
      simp [CallEnding.outcome, PageSource.error?, h, String.intercalate_cons_cons,
        String.append_assoc]

/-- **Each call tells what came of its fetch.** -/
lemma tells_call (s : Session) (network : Network) (template : String) (earlier : List String)
    (request : String) :
    s.Tells network (earlier.map (Url.Template.fill template)) (Url.Template.fill template request)
      ⟨request, (s.crawler network template earlier request).ending.outcome⟩ := by
  have hcall : ∀ {e : FetchError}, (s.fetchFor network template earlier request).result = .error e →
      (s.crawler network template earlier request).ending = .error e.chain := by
    intro e he
    simp [crawler, he]
  constructor
  case page_iff =>
    intro page
    rw [← fetch_eq_ok_iff]
    show _ ↔ (s.fetchFor network template earlier request).result = .ok page
    cases hf : (s.fetchFor network template earlier request).result with
    | ok text => simp [crawler, hf, CallEnding.outcome, PageSource.page?]
    | error e => simp [hcall hf, CallEnding.outcome, PageSource.page?]
  case invalidUrl =>
    intro fault hu
    rw [hcall (fetch_invalidUrl hu), FetchError.chain]
    exact failsWith_error _ (String.append_assoc ..)
  case unanswered =>
    intro url causes hu hr
    rw [hcall (fetch_unanswered hu hr), FetchError.chain]
    exact failsWith_error _ String.append_empty.symm
  case unexpectedStatus =>
    intro url response hu hr hs
    have hf := fetch_answered hu hr
    rw [hs, if_neg Bool.false_ne_true] at hf
    rw [hcall hf, FetchError.chain]
    exact failsWith_error _ String.append_empty.symm
  case brokenBody =>
    intro url response causes hu hr hs ht
    have hf := fetch_answered hu hr
    rw [hs, if_pos rfl, ht] at hf
    rw [hcall hf, FetchError.chain]
    exact failsWith_error _ String.append_empty.symm

/-! ## A batch -/

/-- **Sources that tell of the calls in a log**, one for each. -/
def Told (s : Session) (network : Network) (template : String) :
    List String → List PageSource → Prop :=
  Paired fun earlier source => s.Tells network (earlier.map (Url.Template.fill template))
    (Url.Template.fill template source.request) source

/-- The pool of a crawl. -/
abbrev pool (s : Session) (network : Network) (template : String) (config : DispatchConfig) :
    Pool :=
  ⟨config, s.crawler network template, none⟩

lemma pool_neverCancelled (s : Session) (network : Network) (template : String)
    (config : DispatchConfig) : (s.pool network template config).NeverCancelled :=
  ⟨rfl, fun _ _ => rfl⟩

/-- The sources of the calls in a log tell of them. -/
lemma told_answers (s : Session) (network : Network) (template : String)
    (config : DispatchConfig) :
    ∀ log, s.Told network template log ((s.pool network template config).answers log)
  | [] => .nil
  | r :: earlier =>
      .cons (s.tells_call network template earlier r)
        (told_answers s network template config earlier)

/-- **A crawl calls the requests and gives the sources of the calls**, each in some order. -/
lemma crawl_perm (s : Session) (network : Network) (template : String) (config : DispatchConfig)
    (requests : List String) :
    (s.crawl network template config requests).1.called.Perm requests ∧
      (s.crawl network template config requests).2.results.Perm
        ((s.pool network template config).answers
          (s.crawl network template config requests).1.called) := by
  have hclear : Pool.Clear {} := ⟨rfl, rfl⟩
  obtain ⟨t, trail, ht, hp, hd, hc⟩ :=
    Pool.dispatch_clear (s.pool_neverCancelled network template config) hclear requests
  have hcrawl : s.crawl network template config requests = (t, ⟨t.reported, t.error⟩) := by
    simp only [crawl, ht]
  have hcalled := hp.called_perm rfl hd hc.uncancelled
  have hresults := hp.results_perm rfl hd hc.uncancelled
  rw [hcrawl]
  have hnil : ({} : Run).called = [] := rfl
  rw [hnil, List.append_nil] at hcalled
  rw [hnil, Pool.answers, List.append_nil] at hresults
  exact ⟨hcalled, hresults⟩

end Session

/-! ## A web -/

namespace View

/-- **What a source has to say of an address that is answered as in a view.** -/
structure Shows (view : View) (naming : Naming) (address : String) (source : PageSource) :
    Prop where
  /-- The source has a page exactly if the address is one and its redirects end at a complete
  success; the page is the text of that answer. -/
  page_iff : ∀ page, source.page? = some page ↔
    ∃ url time served, Url.parse naming address = .ok url ∧ view.Lands url time served ∧
      isSuccess served.status = true ∧ served.complete = true ∧ page = served.text
  /-- The address is none. -/
  invalidUrl : ∀ fault, Url.parse naming address = .error fault →
    source.FailsWith ("Invalid URL " ++ address)
  /-- The address lands nowhere. -/
  unanswered : ∀ url, Url.parse naming address = .ok url →
    (∀ time served, ¬ view.Lands url time served) →
    source.FailsWith ("Failed to fetch content: " ++ address)
  /-- So it is if a connection breaks, if a redirect leaves the web, and if there are too many of
  them. -/
  cutOff : ∀ url hops time stop, Url.parse naming address = .ok url →
    view.Leads [] url hops time stop → stop = .broken ∨ stop = .offWeb ∨ redirectLimit < hops →
    source.FailsWith ("Failed to fetch content: " ++ address)
  /-- The answer is no success, as a redirect is none that does not say where to go. -/
  unexpectedStatus : ∀ url time served, Url.parse naming address = .ok url →
    view.Lands url time served → isSuccess served.status = false →
    source.FailsWith ("Unexpected status " ++ statusText served.status ++ " for " ++ address)
  /-- The body breaks off. -/
  brokenBody : ∀ url time served, Url.parse naming address = .ok url →
    view.Lands url time served → isSuccess served.status = true → served.complete = false →
    source.FailsWith ("Failed to read body of " ++ address)

end View

section Web

variable {s : Session} {network : Network} {web : Web} {template : String}

/-- **What the network made of a request shows what servers answered.** -/
lemma Network.Keeps.shows (hk : network.Keeps s.allowed web) (hp : web.Prompt s.allowed)
    {earlier : List String} {address : String} {source : PageSource}
    (h : s.Tells network earlier address source) :
    (web earlier).Shows network.naming address source := by
  have hunanswered : ∀ url, Url.parse network.naming address = .ok url →
      (∀ time served, ¬ (web earlier).Lands url time served) →
      source.FailsWith ("Failed to fetch content: " ++ address) := by
    intro url hu hl
    obtain ⟨causes, hr⟩ := hk.unanswered hl
    exact h.unanswered url causes hu hr
  constructor
  case page_iff =>
    intro page
    rw [h.page_iff]
    constructor
    · rintro ⟨url, response, hu, hr, hs, ht⟩
      obtain ⟨time, served, hl, hstatus, hc, htext⟩ := (hk.text_iff hp).mp ⟨response, hr, rfl, ht⟩
      exact ⟨url, time, served, hu, hl, hstatus ▸ hs, hc, htext⟩
    · rintro ⟨url, time, served, hu, hl, hs, hc, htext⟩
      obtain ⟨response, hr, hstatus, ht⟩ :=
        (hk.text_iff hp).mpr ⟨time, served, hl, rfl, hc, htext⟩
      exact ⟨url, response, hu, hr, hstatus ▸ hs, ht⟩
  case invalidUrl => exact h.invalidUrl
  case unanswered => exact hunanswered
  case cutOff =>
    intro url hops time stop hu hleads hstop
    refine hunanswered url hu fun time' served ⟨hops', hhops, hleads'⟩ => ?_
    obtain ⟨rfl, -, rfl⟩ := hleads.unique hleads'
    rcases hstop with hs | hs | hlate
    · cases hs
    · cases hs
    · omega
  case unexpectedStatus =>
    intro url time served hu hl hs
    obtain ⟨response, hr, hstatus, -⟩ := hk.received hp hl
    exact hstatus ▸ h.unexpectedStatus url response hu hr (hstatus ▸ hs)
  case brokenBody =>
    intro url time served hu hl hs hc
    obtain ⟨response, hr, hstatus, -, hbroken⟩ := hk.received hp hl
    obtain ⟨causes, hcauses⟩ := hbroken hc
    exact h.brokenBody url response causes hu hr (hstatus ▸ hs) hcauses

/-- **Sources that show what the calls in a log were answered**, one for each. -/
def Web.Shown (web : Web) (naming : Naming) (template : String) :
    List String → List PageSource → Prop :=
  Paired fun earlier source => (web (earlier.map (Url.Template.fill template))).Shows naming
    (Url.Template.fill template source.request) source

/-- Sources that tell of calls show what these were answered. -/
lemma Network.Keeps.shown (hk : network.Keeps s.allowed web) (hp : web.Prompt s.allowed)
    {log : List String} {sources : List PageSource} (h : s.Told network template log sources) :
    web.Shown network.naming template log sources :=
  h.mono fun _ _ => hk.shows hp

end Web

namespace Session

variable {s : Session} {network : Network} {web : Web} {template : String}

/-! ## Steady webs -/

/-- The source of a request on a steady web. -/
def sourceOf (s : Session) (network : Network) (template request : String) : PageSource :=
  ⟨request, (s.crawler network template [] request).ending.outcome⟩

lemma crawler_of_steady (hk : network.Keeps s.allowed web) (hs : web.Steady)
    (earlier : List String) (request : String) :
    (s.crawler network template earlier request).ending
      = (s.crawler network template [] request).ending := by
  have hfetch : (s.fetchFor network template earlier request).result
      = (s.fetchFor network template [] request).result := by
    simp only [fetchFor, fetch]
    cases Url.parse network.naming (Url.Template.fill template request) with
    | error fault => rfl
    | ok url =>
        have hr := hk.settled (earlier.map (Url.Template.fill template))
          ([].map (Url.Template.fill template)) url (hs _ _)
        simp only [Exchange.fetched, hr]
  simp only [crawler, hfetch]

/-- **On a steady web the log plays no part**: each call gives the source of its request. -/
lemma answers_of_steady (hk : network.Keeps s.allowed web) (hs : web.Steady)
    (config : DispatchConfig) :
    ∀ log, (s.pool network template config).answers log = log.map (s.sourceOf network template)
  | [] => rfl
  | r :: earlier => by
      rw [Pool.answers, crawler_of_steady hk hs, answers_of_steady hk hs config earlier]
      rfl

lemma crawl_of_steady (hk : network.Keeps s.allowed web) (hs : web.Steady)
    (config : DispatchConfig) (requests : List String) :
    (s.crawl network template config requests).2.results.Perm
      (requests.map (s.sourceOf network template)) := by
  obtain ⟨hcalled, hresults⟩ := s.crawl_perm network template config requests
  rw [answers_of_steady hk hs] at hresults
  exact hresults.trans (hcalled.map _)

/-- **A crawl tells exactly what came of fetching each page.**

Take a client that does what it is taken to do, and a web on which no answer outlasts the time
allowed.  The sources of a crawl pair off with its calls, one for each request, and each source
shows what its call was answered: it has the page if every step from the address to the end of the
body goes well, and otherwise its message begins with the step that does not.  On a steady web there
is one source for each request, whatever is crawled with it and by however many workers; so a
request that is put into a batch adds its own source and changes no other. -/
theorem sources_tell_fetches (hk : network.Keeps s.allowed web) (hp : web.Prompt s.allowed)
    (template : String) :
    (∀ config requests,
      let run := (s.crawl network template config requests).1
      let results := (s.crawl network template config requests).2.results
      run.called.Perm requests ∧
        ∃ sources, web.Shown network.naming template run.called sources ∧
          sources.Perm results) ∧
    (web.Steady → ∃ source : String → PageSource,
      (∀ request earlier, (source request).request = request ∧
        (web earlier).Shows network.naming (Url.Template.fill template request)
          (source request)) ∧
      (∀ config requests,
        (s.crawl network template config requests).2.results.Perm (requests.map source)) ∧
      ∀ config config' before request after,
        (s.crawl network template config (before ++ request :: after)).2.results.Perm
          (source request ::
            (s.crawl network template config' (before ++ after)).2.results)) := by
  refine ⟨fun config requests => ?_, fun hs => ⟨s.sourceOf network template, ?_, ?_, ?_⟩⟩
  · obtain ⟨hcalled, hresults⟩ := s.crawl_perm network template config requests
    exact ⟨hcalled, _, hk.shown hp (s.told_answers network template config _), hresults.symm⟩
  · intro request earlier
    rw [hs earlier ([].map (Url.Template.fill template))]
    exact ⟨rfl, hk.shows hp (s.tells_call network template [] request)⟩
  · exact fun config requests => crawl_of_steady hk hs config requests
  · intro config config' before request after
    have hrest : (s.crawl network template config' (before ++ after)).2.results.Perm
        ((before ++ after).map (s.sourceOf network template)) := crawl_of_steady hk hs config' _
    -- both batches are images of their requests, and these differ in one request
    refine ((crawl_of_steady hk hs config _).trans ?_).trans (hrest.symm.cons _)
    simp

/-- A redirect to a page that is not UTF-8, a circle of redirects, an address without a host, a body
that breaks off, a redirect that leads nowhere, and a server that hangs up. -/
theorem sources_tell_fetches_everywhere :
    let b : Url := { scheme := "http", host := some (.name "b"), path := .segments ["x"] }
    let c : Url := { scheme := "http", host := some (.name "c"), path := .segments [""] }
    let web : Web := .ofPages
      [("http://a/", { status := 302, next := some b, delay := 7 }),
       ("http://b/x", { body := [0x68, 0xff] }),
       ("http://c/", { status := 302, next := some c }),
       ("http://d/", { complete := false }),
       ("http://e/", { status := 301 })]
    let network : Network := .following Url.Domain.toAscii web
    let template := "http://\x7b\x7d/"
    let s : Session := ⟨{}, by decide⟩
    let results : List PageSource :=
      [⟨"c", .failed ("Failed to fetch content: http://c/: error following redirect for url " ++
          "(http://c/): too many redirects")⟩,
       ⟨"", .failed "Invalid URL http:///: empty host"⟩,
       ⟨"d", .failed ("Failed to read body of http://d/: error decoding response body: " ++
          "end of file before message length reached")⟩,
       ⟨"e", .failed "Unexpected status 301 Moved Permanently for http://e/"⟩,
       ⟨"f", .failed ("Failed to fetch content: http://f/: error sending request for url " ++
          "(http://f/): client error (SendRequest): connection closed before message completed")⟩,
       ⟨"a", .page "h\uFFFD"⟩]
    network.Keeps s.allowed web ∧ web.Prompt s.allowed ∧ web.Steady ∧
      (s.crawl network template (.new 2 0) ["a", "c", "", "d", "e", "f"]).2.results = results ∧
      ∀ source ∈ results, ∀ earlier,
        (web earlier).Shows network.naming (Url.Template.fill template source.request) source := by
  intro b c web network template s results
  have hk : network.Keeps s.allowed web := Network.following_keeps _ _ _
  have hp : web.Prompt s.allowed := Web.ofPages_prompt 7 (by decide) (by decide)
  have hs : web.Steady := Web.ofPages_steady _
  have hresults : (s.crawl network template (.new 2 0) ["a", "c", "", "d", "e", "f"]).2.results
      = results := by
    decide +kernel
  obtain ⟨-, h⟩ := sources_tell_fetches hk hp template
  obtain ⟨source, htells, hperm, -⟩ := h hs
  refine ⟨hk, hp, hs, hresults, fun entry hm earlier => ?_⟩
  have hmem := (hperm (.new 2 0) ["a", "c", "", "d", "e", "f"]).mem_iff.mp (hresults ▸ hm)
  obtain ⟨request, -, rfl⟩ := List.mem_map.mp hmem
  rw [(htells request earlier).1]
  exact (htells request earlier).2

end Session

end PageCrawl
