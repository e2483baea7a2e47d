import Mathlib.Data.Nat.Basic
import PageCrawl.Fetch

/-!
# Where redirects lead

A client goes where the answers to its requests send it.  What it finds there is for servers to
say, and they may answer each call in another way: a `View` is what one call is answered, and a
`Web` has a view for each call.

**Chains.**  `View.Leads` says where the redirects of an address lead, one constructor for each way
in which an address can be left.  It knows no limits; it counts hops and time instead.  A chain that
goes round in a circle leads nowhere, and a chain has one end (`Leads.unique`).

**Clients.**  `Network.Keeps` is what a client is taken to do on a web, each field one thing that it
is known for: it follows redirects up to ten, decodes bodies, and reports what breaks off.  The
fields speak of the two ends of a chain and of no session.  Every end is one of those that they
speak of, so a client that keeps to them has an answer to give exactly if an address lands
(`Keeps.received`, `Keeps.unanswered`), and a text exactly if it lands at a complete answer
(`Keeps.text_iff`).

**Such clients exist**, for every web: `Network.following` walks along a chain with a bound on hops
and a bound on time, and keeps to all fields (`following_keeps`).  One direction is an induction on
the redirects that are left, the other one on the chain.

Not given here: that the client of a real network keeps to the fields.
-/

namespace PageCrawl

open Http

/-- The address that is asked for: names, passwords and fragments are not sent. -/
def Url.asked (url : Url) : String := { url.withoutCredentials with fragment := none }.text

/-- What a server answers. -/
structure Served where
  status : Nat := 200
  /-- Where the answer sends the client, if it is a redirect that says so. -/
  next : Option Url := none
  body : List UInt8 := []
  /-- Whether the body is as long as was announced. -/
  complete : Bool := true
  /-- How long the server takes, in milliseconds. -/
  delay : Nat := 0

/-- The text of a body, with replacement characters for what is not UTF-8. -/
def Served.text (served : Served) : String := String.ofList (Text.Utf8.decode served.body)

/-- What a call is answered at an address, after the addresses that it has reached, latest first;
`none` if the connection breaks. -/
abbrev View := Hits → Url → Option Served

/-- What each call is answered, after the addresses that calls before it have asked for, latest
first. -/
abbrev Web := List String → View

/-- How a chain of redirects ends. -/
inductive Stop
  /-- With an answer that sends the client nowhere else. -/
  | answered (served : Served)
  /-- The connection breaks. -/
  | broken
  /-- At an address at which no page can be asked for. -/
  | offWeb

/-- The number of redirects that are followed. -/
def redirectLimit : Nat := 10

namespace View

/-- **Where the chain of redirects of an address leads**, after how many hops and in what time. -/
inductive Leads (view : View) : Hits → Url → Nat → Nat → Stop → Prop
  | offWeb {hits : Hits} {url : Url} (hw : url.isHttp = false) : Leads view hits url 0 0 .offWeb
  | broken {hits : Hits} {url : Url} (hw : url.isHttp = true) (hv : view hits url = none) :
      Leads view hits url 0 0 .broken
  | answered {hits : Hits} {url : Url} {served : Served} (hw : url.isHttp = true)
      (hv : view hits url = some served) (hn : served.next = none) :
      Leads view hits url 0 served.delay (.answered served)
  | hop {hits : Hits} {url next : Url} {served : Served} {hops time : Nat} {stop : Stop}
      (hw : url.isHttp = true) (hv : view hits url = some served) (hn : served.next = some next)
      (h : Leads view (url.asked :: hits) next hops time stop) :
      Leads view hits url (hops + 1) (served.delay + time) stop

variable {view : View} {hits : Hits} {url : Url} {hops hops' time time' : Nat} {stop stop' : Stop}
  {served served' : Served}

/-- **A chain has one end.** -/
lemma Leads.unique (h : view.Leads hits url hops time stop)
    (h' : view.Leads hits url hops' time' stop') : hops = hops' ∧ time = time' ∧ stop = stop' := by
  induction h generalizing hops' time' with
  | offWeb hw => cases h' <;> simp_all
  | broken hw hv => cases h' <;> simp_all
  | answered hw hv hn => cases h' <;> simp_all
  | hop hw hv hn h ih =>
      cases h' with
      | offWeb hw' => simp [hw] at hw'
      | broken _ hv' => simp [hv] at hv'
      | answered _ hv' hn' =>
          -- an answer cannot send the client on and keep it
          rw [hv, Option.some.injEq] at hv'
          simp [← hv', hn] at hn'
      | hop _ hv' hn' h' =>
          rw [hv, Option.some.injEq] at hv'
          subst hv'
          rw [hn, Option.some.injEq] at hn'
          subst hn'
          obtain ⟨rfl, rfl, rfl⟩ := ih h'
          exact ⟨rfl, rfl, rfl⟩

/-- **Where an address lands**: at an answer, within the limit on redirects and after the given
time. -/
def Lands (view : View) (url : Url) (time : Nat) (served : Served) : Prop :=
  ∃ hops ≤ redirectLimit, view.Leads [] url hops time (.answered served)

lemma Lands.unique (h : view.Lands url time served) (h' : view.Lands url time' served') :
    served = served' := by
  obtain ⟨_, -, h⟩ := h
  obtain ⟨_, -, h'⟩ := h'
  exact Stop.answered.inj (h.unique h').2.2

/-- **What keeps an address from landing**: its chain breaks, or leaves the web, or has no end
within the limit. -/
lemma lands_or (view : View) (url : Url) :
    (∃ time served, view.Lands url time served) ∨
      (∃ hops time, view.Leads [] url hops time .broken) ∨
      (∃ hops time, view.Leads [] url hops time .offWeb) ∨
      ∀ hops time stop, view.Leads [] url hops time stop → redirectLimit < hops := by
  by_cases h : ∃ hops ≤ redirectLimit, ∃ time stop, view.Leads [] url hops time stop
  · obtain ⟨hops, hle, time, stop, h⟩ := h
    cases stop with
    | answered served => exact .inl ⟨time, served, hops, hle, h⟩
    | broken => exact .inr (.inl ⟨hops, time, h⟩)
    | offWeb => exact .inr (.inr (.inl ⟨hops, time, h⟩))
  · refine .inr (.inr (.inr fun hops time stop hleads => Nat.lt_of_not_le fun hle => h ?_))
    exact ⟨hops, hle, time, stop, hleads⟩

end View

/-! ## Webs -/

namespace Web

/-- No answer outlasts the time allowed. -/
def Prompt (web : Web) (allowed : Nat) : Prop :=
  ∀ earlier url time served, (web earlier).Lands url time served → time < allowed

/-- Calls do not change what later ones are answered, as where each address always answers the
same. -/
def Steady (web : Web) : Prop := ∀ earlier earlier', web earlier = web earlier'

/-- An answer comes after as many delays as there are hops, and one more. -/
lemma time_le_of_delay {view : View} {delay : Nat}
    (hd : ∀ hits url served, view hits url = some served → served.delay ≤ delay) {hits : Hits}
    {url : Url} {hops time : Nat} {stop : Stop} (h : view.Leads hits url hops time stop) :
    time ≤ (hops + 1) * delay := by
  induction h with
  | offWeb | broken => exact Nat.zero_le _
  | answered _ hv => simpa using hd _ _ _ hv
  | hop _ hv _ _ ih =>
      have hfirst := hd _ _ _ hv
      rw [Nat.add_mul, Nat.one_mul]
      omega

/-- **A web is prompt if no delay is too long** for a chain of the most hops that are followed. -/
lemma prompt_of_delay {web : Web} {allowed delay : Nat}
    (hd : ∀ earlier hits url served, web earlier hits url = some served → served.delay ≤ delay)
    (h : (redirectLimit + 1) * delay < allowed) : web.Prompt allowed := by
  rintro earlier url time served ⟨hops, hle, hleads⟩
  calc time ≤ (hops + 1) * delay := time_le_of_delay (hd earlier) hleads
    _ ≤ (redirectLimit + 1) * delay := Nat.mul_le_mul_right _ (Nat.succ_le_succ hle)
    _ < allowed := h

/-- Pages that do not change; the connection breaks at all other addresses. -/
def ofPages (pages : List (String × Served)) : Web := fun _ _ url => pages.lookup url.asked

lemma ofPages_steady (pages : List (String × Served)) : (ofPages pages).Steady := fun _ _ => rfl

lemma ofPages_prompt {pages : List (String × Served)} {allowed : Nat} (delay : Nat)
    (hd : ∀ entry ∈ pages, entry.2.delay ≤ delay) (h : (redirectLimit + 1) * delay < allowed) :
    (ofPages pages).Prompt allowed := by
  refine prompt_of_delay (fun earlier hits url served hv => ?_) h
  obtain ⟨before, after, rfl, -⟩ := List.lookup_eq_some_iff.mp hv
  exact hd (url.asked, served) (by simp)

end Web

/-! ## Clients -/

namespace Network

/-- **What a client is taken to do** on a web, in the time allowed. -/
structure Keeps (network : Network) (allowed : Nat) (web : Web) : Prop where
  /-- Redirects are followed, up to ten of them; the answer at the end is given if there is time
  for it. -/
  follows : ∀ earlier url time served, (web earlier).Lands url time served → time < allowed →
    ∃ response, (network.send allowed earlier url).result = .ok response ∧
      response.status = served.status
  /-- Bodies are decoded. -/
  decodes : ∀ earlier url time served response, (web earlier).Lands url time served →
    (network.send allowed earlier url).result = .ok response → served.complete = true →
    response.text = .ok served.text
  /-- A body that breaks off is an error. -/
  truncated : ∀ earlier url time served response, (web earlier).Lands url time served →
    (network.send allowed earlier url).result = .ok response → served.complete = false →
    ∃ causes, response.text = .error causes
  /-- A connection that breaks is an error. -/
  broken : ∀ earlier url hops time, (web earlier).Leads [] url hops time .broken →
    ∃ causes, (network.send allowed earlier url).result = .error causes
  /-- No page is asked for off the web. -/
  offWeb : ∀ earlier url hops time, (web earlier).Leads [] url hops time .offWeb →
    ∃ causes, (network.send allowed earlier url).result = .error causes
  /-- A chain without an end within the limit is an error. -/
  tires : ∀ earlier url,
    (∀ hops time stop, (web earlier).Leads [] url hops time stop → redirectLimit < hops) →
    ∃ causes, (network.send allowed earlier url).result = .error causes
  /-- What comes of a request is settled by what it is answered. -/
  settled : ∀ earlier earlier' url, web earlier = web earlier' →
    (network.send allowed earlier url).result = (network.send allowed earlier' url).result

namespace Keeps

variable {network : Network} {allowed time : Nat} {web : Web} {earlier : List String} {url : Url}
  {served : Served}

/-- **Where an address lands, there is a response**, with the status of the answer. -/
lemma received (hk : network.Keeps allowed web) (hp : web.Prompt allowed)
    (hl : (web earlier).Lands url time served) :
    ∃ response, (network.send allowed earlier url).result = .ok response ∧
      response.status = served.status ∧
      (served.complete = true → response.text = .ok served.text) ∧
      (served.complete = false → ∃ causes, response.text = .error causes) := by
  obtain ⟨response, hr, hstatus⟩ := hk.follows _ _ _ _ hl (hp _ _ _ _ hl)
  exact ⟨response, hr, hstatus, hk.decodes _ _ _ _ _ hl hr, hk.truncated _ _ _ _ _ hl hr⟩

/-- **Where it lands nowhere, there is none.** -/
lemma unanswered (hk : network.Keeps allowed web)
    (hl : ∀ time served, ¬ (web earlier).Lands url time served) :
    ∃ causes, (network.send allowed earlier url).result = .error causes := by
  rcases (web earlier).lands_or url with ⟨time, served, h⟩ | ⟨hops, time, h⟩ | ⟨hops, time, h⟩ | h
  · exact absurd h (hl time served)
  · exact hk.broken _ _ _ _ h
  · exact hk.offWeb _ _ _ _ h
  · exact hk.tires _ _ h

/-- **A text is read exactly where an address lands at a complete answer**, with its status. -/
lemma text_iff (hk : network.Keeps allowed web) (hp : web.Prompt allowed) {status : Nat}
    {text : String} :
    (∃ response, (network.send allowed earlier url).result = .ok response ∧
        response.status = status ∧ response.text = .ok text) ↔
      ∃ time served, (web earlier).Lands url time served ∧ served.status = status ∧
        served.complete = true ∧ text = served.text := by
  constructor
  · rintro ⟨response, hr, hs, ht⟩
    -- there is a response, so the address lands, and the body that was read is complete
    by_cases hl : ∃ time served, (web earlier).Lands url time served
    · obtain ⟨time, served, hl⟩ := hl
      obtain ⟨response', hr', hstatus, hread, hbroken⟩ := hk.received hp hl
      rw [hr, Except.ok.injEq] at hr'
      subst hr'
      cases hc : served.complete with
      | true =>
          rw [hread hc, Except.ok.injEq] at ht
          exact ⟨time, served, hl, hstatus.symm.trans hs, hc, ht.symm⟩
      | false =>
          obtain ⟨causes, hcauses⟩ := hbroken hc
          rw [hcauses] at ht
          cases ht
    · obtain ⟨causes, hnone⟩ := hk.unanswered fun time served hland => hl ⟨time, served, hland⟩
      rw [hr] at hnone
      cases hnone
  · rintro ⟨time, served, hl, hs, hc, rfl⟩
    obtain ⟨response, hr, hstatus, hread, -⟩ := hk.received hp hl
    exact ⟨response, hr, hstatus.trans hs, hread hc⟩

end Keeps

end Network

/-! ## Following a chain -/

namespace View

/-- What a client makes of an answer. -/
def received (served : Served) : Response where
  status := served.status
  text :=
    if served.complete then .ok served.text
    else .error ["error decoding response body", "end of file before message length reached"]

/-- Sends a request and follows at most the given number of redirects.  `spent` is the time that has
passed of the time allowed. -/
def follow (view : View) (allowed : Nat) : Nat → Hits → Nat → Url → Exchange
  | redirects, hits, spent, url =>
    let named (error : String) : String := error ++ " for url (" ++ url.text ++ ")"
    if !url.isHttp then
      ⟨.error [named "builder error", "URL scheme is not allowed"], hits, spent⟩
    else
      match view hits url with
      | none =>
        ⟨.error [named "error sending request", "client error (SendRequest)",
          "connection closed before message completed"], url.asked :: hits, spent⟩
      | some served =>
        let hits := url.asked :: hits
        let spent := spent + served.delay
        if allowed ≤ spent then
          ⟨.error [named "error sending request", "operation timed out"], hits, allowed⟩
        else
          match served.next, redirects with
          | none, _ => ⟨.ok (received served), hits, spent⟩
          | some _, 0 =>
            ⟨.error [named "error following redirect", "too many redirects"], hits, spent⟩
          | some next, redirects + 1 => follow view allowed redirects hits spent next

variable {view : View} {allowed redirects spent : Nat} {hits : Hits} {url : Url}
  {response : Response}

/-- **A response ends a chain**, and there were redirects enough for it. -/
lemma leads_of_follow (redirects : Nat) {hits : Hits} {spent : Nat} {url : Url}
    (h : (view.follow allowed redirects hits spent url).result = .ok response) :
    ∃ hops ≤ redirects, ∃ time served, response = received served ∧
      view.Leads hits url hops time (.answered served) := by
  rw [follow.eq_def] at h
  cases hw : url.isHttp with
  | false => simp [hw] at h
  | true =>
      cases hv : view hits url with
      | none => simp [hw, hv] at h
      | some served =>
          simp only [hw, hv, Bool.not_true, Bool.false_eq_true, ↓reduceIte] at h
          split_ifs at h with ht
          cases hn : served.next with
          | none =>
              simp only [hn, Except.ok.injEq] at h
              exact ⟨0, Nat.zero_le _, _, served, h.symm, .answered hw hv hn⟩
          | some next =>
              cases redirects with
              | zero => simp [hn] at h
              | succ redirects =>
                  simp only [hn] at h
                  obtain ⟨hops, hhops, time, last, hr, hleads⟩ := leads_of_follow redirects h
                  exact ⟨hops + 1, Nat.succ_le_succ hhops, _, last, hr, .hop hw hv hn hleads⟩

/-- **A chain that ends in time and within the limit is followed to its end.** -/
lemma follow_of_leads {hops time : Nat} {served : Served}
    (h : view.Leads hits url hops time (.answered served)) :
    ∀ {redirects spent : Nat}, hops ≤ redirects → spent + time < allowed →
      (view.follow allowed redirects hits spent url).result = .ok (received served) := by
  -- the end of the chain stays fixed along the induction, hops and time get less
  generalize hstop : Stop.answered served = stop at h
  induction h with
  | offWeb | broken => cases hstop
  | answered hw hv hn =>
      intro redirects spent _ ht
      cases hstop
      rw [follow.eq_def]
      simp [hw, hv, hn, Nat.not_le.mpr ht]
  | @hop hits url next first hops time stop hw hv hn h ih =>
      intro redirects spent hr ht
      obtain ⟨redirects, rfl⟩ := Nat.exists_eq_add_of_le' (Nat.zero_lt_of_lt hr)
      have hstep : spent + first.delay < allowed := by omega
      rw [follow.eq_def]
      simp only [hw, hv, hn, Nat.not_le.mpr hstep, ↓reduceIte, Bool.not_true, Bool.false_eq_true]
      exact ih hstop (Nat.le_of_succ_le_succ hr) (by omega)

/-- What was reached before stays. -/
lemma follow_hits (view : View) (allowed : Nat) : ∀ (redirects : Nat) (hits : Hits) (spent : Nat)
    (url : Url), hits <:+ (view.follow allowed redirects hits spent url).hits
  | redirects, hits, spent, url => by
      rw [follow.eq_def]
      dsimp only
      split_ifs
      · exact List.suffix_rfl
      · split
        · exact List.suffix_cons _ _
        · split_ifs
          · exact List.suffix_cons _ _
          · split
            · exact List.suffix_cons _ _
            · exact List.suffix_cons _ _
            · exact (List.suffix_cons _ _).trans (follow_hits view allowed _ _ _ _)

/-- **The first address that is reached is the one that is asked for**; redirects come after it. -/
lemma asked_follow (view : View) (allowed redirects : Nat) (hits : Hits) (spent : Nat)
    (hw : url.isHttp = true) :
    url.asked :: hits <:+ (view.follow allowed redirects hits spent url).hits := by
  rw [follow.eq_def]
  simp only [hw, Bool.not_true, Bool.false_eq_true, ↓reduceIte]
  split
  · exact List.suffix_rfl
  · split_ifs
    · exact List.suffix_rfl
    · split
      · exact List.suffix_rfl
      · exact List.suffix_rfl
      · exact follow_hits _ _ _ _ _ _

end View

namespace Network

/-- **A client that follows redirects** on a web. -/
def following (naming : Naming) (web : Web) : Network where
  naming := naming
  send allowed earlier url := (web earlier).follow allowed redirectLimit [] 0 url

/-- If it has a response, the address lands. -/
lemma lands_of_following {naming : Naming} {web : Web} {allowed : Nat} {earlier : List String}
    {url : Url} {response : Response}
    (h : ((following naming web).send allowed earlier url).result = .ok response) :
    ∃ time served, response = View.received served ∧ (web earlier).Lands url time served := by
  obtain ⟨hops, hhops, time, served, hr, hleads⟩ := View.leads_of_follow _ h
  exact ⟨time, served, hr, hops, hhops, hleads⟩

/-- So it has none where the address lands nowhere. -/
lemma following_unanswered {naming : Naming} {web : Web} {allowed : Nat} {earlier : List String}
    {url : Url} (hl : ∀ time served, ¬ (web earlier).Lands url time served) :
    ∃ causes, ((following naming web).send allowed earlier url).result = .error causes := by
  cases h : ((following naming web).send allowed earlier url).result with
  | error causes => exact ⟨causes, rfl⟩
  | ok response =>
      obtain ⟨time, served, -, hlands⟩ := lands_of_following h
      exact absurd hlands (hl time served)

/-- **It keeps to what a client is taken to do**, on every web. -/
lemma following_keeps (naming : Naming) (web : Web) (allowed : Nat) :
    (following naming web).Keeps allowed web := by
  -- a chain that ends at an answer has no other end
  have hother : ∀ {earlier url hops time stop}, (web earlier).Leads [] url hops time stop →
      (∀ served, stop ≠ .answered served) →
      ∀ time served, ¬ (web earlier).Lands url time served := by
    rintro earlier url hops time stop h hstop time' served ⟨hops', -, h'⟩
    exact hstop served (h.unique h').2.2
  have hread : ∀ {earlier url time served response}, (web earlier).Lands url time served →
      ((following naming web).send allowed earlier url).result = .ok response →
      response = View.received served := by
    intro earlier url time served response hl hr
    obtain ⟨time', served', rfl, hl'⟩ := lands_of_following hr
    rw [hl.unique hl']
  constructor
  case follows =>
    rintro earlier url time served ⟨hops, hhops, h⟩ ht
    exact ⟨View.received served, View.follow_of_leads h hhops (by omega), rfl⟩
  case decodes =>
    intro earlier url time served response hl hr hc
    rw [hread hl hr, View.received, hc, if_pos rfl]
  case truncated =>
    intro earlier url time served response hl hr hc
    rw [hread hl hr, View.received, hc]
    exact ⟨_, rfl⟩
  case broken => exact fun _ _ _ _ h => following_unanswered (hother h (by simp))
  case offWeb => exact fun _ _ _ _ h => following_unanswered (hother h (by simp))
  case tires =>
    intro earlier url h
    refine following_unanswered fun time served ⟨hops, hhops, hleads⟩ => ?_
    exact absurd (h _ _ _ hleads) (Nat.not_lt.mpr hhops)
  case settled =>
    intro earlier earlier' url h
    show ((web earlier).follow _ _ _ _ _).result = ((web earlier').follow _ _ _ _ _).result
    rw [h]

end Network

end PageCrawl
