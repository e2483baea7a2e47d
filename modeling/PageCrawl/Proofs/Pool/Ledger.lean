import PageCrawl.Proofs.Pool.Timing

/-!
# Every call is accounted for

The log of a pool holds the requests of all calls in their order, so what the crawl function said
of each of them can be read off it again: a call was given the requests below it.  `Pool.Entry` is
what the log then has to say of a call: its number is right, and its end, if it has one, is the
time that the crawl function asked for.

`Pool.openHands` lists the calls whose end is still to come, as the hands that make them.  In an
`Accounted` state these are the calls under way, those of the batch and those of strays, one for
one.  A call that ends is found in the log by its request and number; since the numbers are right,
no other call has them, and the end of one call touches no other (`kept_closed`).  So nothing that
happens in time leaves the account (`Step.accounted`), neither do the beginning of a batch
(`Accounted.begin`) and its drop (`Accounted.drop`).

At the end of a batch its own calls are over, and the log says when (`Path.entry_mem`).
-/

namespace PageCrawl

namespace Hand

/-- Whether a call is under way. -/
def isCalling : Hand → Bool
  | ⟨_, .calling ..⟩ => true
  | _ => false

@[simp] lemma isCalling_pausing (r : String) (d : Nat) :
    (⟨r, .pausing d⟩ : Hand).isCalling = false := rfl

@[simp] lemma isCalling_calling (r : String) (k : Nat) (reply : Reply) (d : Nat) :
    (⟨r, .calling k reply d⟩ : Hand).isCalling = true := rfl

end Hand

namespace Pool

variable {pool : Pool} {s t u : Run} {m : Move} {trail : List Transition}
  {requests earlier : List String} {log : List Call} {r : String} {k d : Nat} {reply : Reply}

/-! ## The log -/

/-- **What the log has to say of a call**, given the requests of the calls before it. -/
structure Entry (pool : Pool) (earlier : List String) (c : Call) : Prop where
  attempt_eq : c.attempt = earlier.count c.request + 1
  finish_eq : c.finish = none ∨ (pool.crawler earlier c.request).atCall = false ∧
    c.finish = some (c.start + (pool.crawler earlier c.request).duration)

/-- Every call in the log is as it has to be. -/
def Kept (pool : Pool) : List Call → Prop
  | [] => True
  | c :: log => pool.Entry (log.map (·.request)) c ∧ Kept pool log

/-- The hand that makes a call. -/
def caller (pool : Pool) (earlier : List String) (c : Call) : Hand :=
  ⟨c.request, .calling c.attempt (pool.crawler earlier c.request)
    (c.start + (pool.crawler earlier c.request).duration)⟩

/-- The calls in the log that are still to end, as the hands that make them. -/
def openHands (pool : Pool) : List Call → List Hand
  | [] => []
  | c :: log =>
    if c.finish = none ∧ (pool.crawler (log.map (·.request)) c.request).atCall = false then
      pool.caller (log.map (·.request)) c :: openHands pool log
    else openHands pool log

/-- The log after the end of a call. -/
def closed (now : Nat) (r : String) (k : Nat) (log : List Call) : List Call :=
  log.map fun c =>
    if c.request == r && c.attempt == k then { c with finish := some now } else c

lemma endCall_calls (s : Run) (r : String) (k : Nat) :
    (s.endCall r k).calls = closed s.now r k s.calls := rfl

lemma closed_cons (now : Nat) (r : String) (k : Nat) (c : Call) (log : List Call) :
    closed now r k (c :: log)
      = (if c.request == r && c.attempt == k then { c with finish := some now } else c)
        :: closed now r k log := rfl

lemma closed_requests (now : Nat) (r : String) (k : Nat) (log : List Call) :
    (closed now r k log).map (·.request) = log.map (·.request) :=
  map_endCall (·.request) (fun _ _ => rfl) { now := now, calls := log } r k

/-- The numbers of the calls for a request go up to how often it was called. -/
lemma Kept.attempt_le (h : pool.Kept log) :
    ∀ c ∈ log, c.attempt ≤ (log.map (·.request)).count c.request := by
  induction log with
  | nil => simp
  | cons first log ih =>
      intro c hm
      rcases List.mem_cons.mp hm with rfl | hm
      · rw [h.1.attempt_eq]
        simp
      · have hle := ih h.2 c hm
        rw [List.map_cons, List.count_cons]
        omega

/-- A call with a number that is still to come is not in the log. -/
lemma Kept.closed_eq (h : pool.Kept log) (hk : (log.map (·.request)).count r < k) (now : Nat) :
    closed now r k log = log := by
  refine (List.map_congr_left fun c hm => ?_).trans (List.map_id log)
  have hle := h.attempt_le c hm
  rw [if_neg]
  · rfl
  · intro hsame
    simp only [Bool.and_eq_true, beq_iff_eq] at hsame
    rw [hsame.1] at hle
    omega

lemma mem_openHands_cons {h : Hand} {c : Call} (hm : h ∈ pool.openHands (c :: log)) :
    ((c.finish = none ∧ (pool.crawler (log.map (·.request)) c.request).atCall = false) ∧
      h = pool.caller (log.map (·.request)) c) ∨ h ∈ pool.openHands log := by
  rw [openHands] at hm
  split at hm
  · next hopen => exact (List.mem_cons.mp hm).imp_left fun heq => ⟨hopen, heq⟩
  · exact .inr hm

lemma mem_openHands {h : Hand} (hm : h ∈ pool.openHands log) :
    ∃ newer c older, log = newer ++ c :: older ∧ c.finish = none ∧
      h = pool.caller (older.map (·.request)) c := by
  induction log with
  | nil => simp [openHands] at hm
  | cons first log ih =>
      rcases mem_openHands_cons hm with ⟨hopen, rfl⟩ | hm
      · exact ⟨[], first, log, rfl, hopen.1, rfl⟩
      · obtain ⟨newer, c, older, rfl, hc, hh⟩ := ih hm
        exact ⟨first :: newer, c, older, rfl, hc, hh⟩

/-- Calls still to end are among those that the log numbers. -/
lemma Kept.open_attempt_le (h : pool.Kept log)
    (hm : (⟨r, .calling k reply d⟩ : Hand) ∈ pool.openHands log) :
    k ≤ (log.map (·.request)).count r := by
  obtain ⟨newer, c, older, rfl, -, hh⟩ := mem_openHands hm
  rw [caller, Hand.mk.injEq, Stage.calling.injEq] at hh
  obtain ⟨rfl, rfl, -, -⟩ := hh
  exact h.attempt_le c (by simp)

/-- A call that ends and is the last in the log has the number that is due, so all calls for its
request below it have smaller numbers. -/
lemma kept_closed_last {c : Call} (h : pool.Kept (c :: log))
    (hm : (⟨c.request, .calling c.attempt reply d⟩ : Hand) ∈ pool.openHands (c :: log)) :
    pool.Kept (closed d c.request c.attempt (c :: log)) ∧
      (⟨c.request, .calling c.attempt reply d⟩ ::
        pool.openHands (closed d c.request c.attempt (c :: log))).Perm
          (pool.openHands (c :: log)) := by
  obtain ⟨hentry, hlog⟩ := h
  have hlt : (log.map (·.request)).count c.request < c.attempt := by
    rw [hentry.attempt_eq]
    omega
  have hhead : closed d c.request c.attempt (c :: log) = { c with finish := some d } :: log := by
    rw [closed_cons, hlog.closed_eq hlt d, if_pos (by simp)]
  rcases mem_openHands_cons hm with ⟨hopen, heq⟩ | hm
  · rw [caller, Hand.mk.injEq, Stage.calling.injEq] at heq
    obtain ⟨-, -, rfl, rfl⟩ := heq
    rw [hhead]
    refine ⟨⟨⟨hentry.attempt_eq, .inr ⟨hopen.2, rfl⟩⟩, hlog⟩, ?_⟩
    rw [openHands, openHands, if_neg (by simp), if_pos hopen]
    exact List.Perm.refl _
  · have hle := hlog.open_attempt_le hm
    omega

/-- **The end of a call closes its own entry in the log, and no other.** -/
lemma kept_closed (h : pool.Kept log)
    (hm : (⟨r, .calling k reply d⟩ : Hand) ∈ pool.openHands log) :
    pool.Kept (closed d r k log) ∧
      (⟨r, .calling k reply d⟩ :: pool.openHands (closed d r k log)).Perm (pool.openHands log) := by
  induction log with
  | nil => simp [openHands] at hm
  | cons c log ih =>
      by_cases hc : c.request = r ∧ c.attempt = k
      · obtain ⟨rfl, rfl⟩ := hc
        exact kept_closed_last h hm
      · obtain ⟨hentry, hlog⟩ := h
        have hhead : closed d r k (c :: log) = c :: closed d r k log := by
          rw [closed_cons, if_neg (by simpa using hc)]
        have hm' : (⟨r, .calling k reply d⟩ : Hand) ∈ pool.openHands log := by
          refine (mem_openHands_cons hm).resolve_left fun hfirst => ?_
          have heq := hfirst.2
          rw [caller, Hand.mk.injEq, Stage.calling.injEq] at heq
          exact hc ⟨heq.1.symm, heq.2.1.symm⟩
        obtain ⟨hkept, hperm⟩ := ih hlog hm'
        rw [hhead]
        refine ⟨⟨by rw [closed_requests]; exact hentry, hkept⟩, ?_⟩
        rw [openHands, openHands, closed_requests]
        split_ifs
        · exact (List.Perm.swap _ _ _).trans (hperm.cons _)
        · exact hperm

/-! ## The account of a state -/

/-- **Every call is accounted for**: it has ended, it broke down at once, or somebody makes it. -/
structure Accounted (pool : Pool) (s : Run) : Prop where
  kept : pool.Kept s.calls
  underWay : (pool.openHands s.calls).Perm ((s.hands ++ s.strays).filter (·.isCalling))
  early_hands : Early s.now s.hands
  early_strays : Early s.now s.strays

section Hands

variable {hands : List Hand} {i : Nat} {h : Hand}

lemma isCalling_set (hh : hands[i]? = some ⟨r, .pausing d⟩) (hc : h.isCalling = true) :
    ((hands.set i h).filter (·.isCalling)).Perm (h :: hands.filter (·.isCalling)) := by
  obtain ⟨l, l', hx, hset, -, -⟩ := exists_split hh
  rw [hset, hx]
  simp only [List.filter_append, List.filter_cons, hc, ↓reduceIte, Hand.isCalling_pausing,
    Bool.false_eq_true]
  exact List.perm_middle

lemma isCalling_erase_pausing (hh : hands[i]? = some ⟨r, .pausing d⟩) :
    (hands.eraseIdx i).filter (·.isCalling) = hands.filter (·.isCalling) := by
  obtain ⟨l, l', hx, -, he, -⟩ := exists_split hh
  rw [he, hx]
  simp

lemma isCalling_erase (hh : hands[i]? = some h) (hc : h.isCalling = true) :
    (h :: (hands.eraseIdx i).filter (·.isCalling)).Perm (hands.filter (·.isCalling)) := by
  obtain ⟨l, l', hx, -, he, -⟩ := exists_split hh
  rw [he, hx]
  simp only [List.filter_append, List.filter_cons, hc, ↓reduceIte]
  exact List.perm_middle.symm

end Hands

namespace Accounted

variable {h : Hand}

lemma mem_openHands (ha : pool.Accounted s) (hm : h ∈ s.hands ++ s.strays)
    (hc : h.isCalling = true) : h ∈ pool.openHands s.calls :=
  ha.underWay.symm.subset (List.mem_filter.mpr ⟨hm, hc⟩)

/-- A call that begins is put into the log with its number. -/
lemma kept_beginCall (ha : pool.Accounted s) (r : String) :
    pool.Kept (s.beginCall r (s.nextAttempt r)).calls :=
  ⟨⟨rfl, .inl rfl⟩, ha.kept⟩

lemma openHands_beginCall (s : Run) (hr : (pool.crawler s.called r).atCall = false) :
    pool.openHands (s.beginCall r (s.nextAttempt r)).calls
      = ⟨r, .calling (s.nextAttempt r) (pool.crawler s.called r)
          (s.now + (pool.crawler s.called r).duration)⟩ :: pool.openHands s.calls := by
  rw [Run.beginCall, openHands, if_pos ⟨rfl, hr⟩]
  rfl

lemma openHands_breakDown (s : Run) (hr : (pool.crawler s.called r).atCall = true) :
    pool.openHands (s.beginCall r (s.nextAttempt r)).calls = pool.openHands s.calls := by
  rw [Run.beginCall, openHands, if_neg]
  rintro ⟨-, hfalse⟩
  exact Bool.false_ne_true (hfalse.symm.trans hr)

/-- What is under way after the end of a call. -/
lemma perm_endCall (ha : pool.Accounted s)
    (hm : (⟨r, .calling k reply d⟩ : Hand) ∈ s.hands ++ s.strays) (hd : d = s.now)
    {rest : List Hand}
    (hrest : (⟨r, .calling k reply d⟩ :: rest).Perm ((s.hands ++ s.strays).filter (·.isCalling))) :
    pool.Kept (s.endCall r k).calls ∧ (pool.openHands (s.endCall r k).calls).Perm rest := by
  have hopen := ha.mem_openHands hm rfl
  obtain ⟨hkept, hperm⟩ := kept_closed ha.kept hopen
  rw [endCall_calls, ← hd]
  refine ⟨hkept, List.Perm.cons_inv (a := ⟨r, .calling k reply d⟩) ?_⟩
  exact hperm.trans (ha.underWay.trans hrest.symm)

end Accounted

/-- **What happens in time stays accounted for.** -/
lemma Step.accounted (h : pool.Step s m t) (hp : pool.Wakeful s m) (ha : pool.Accounted s) :
    pool.Accounted t := by
  have hhands := h.early_hands hp ha.early_hands
  have hstrays := h.early_strays hp ha.early_strays
  have hperm := ha.underWay
  rw [List.filter_append] at hperm
  cases h with
  | take hc hs hf =>
      refine ⟨ha.kept, ?_, hhands, hstrays⟩
      simp only [List.filter_append]
      simpa using hperm
  | @call i d r hh hd hr =>
      refine ⟨ha.kept_beginCall r, ?_, hhands, hstrays⟩
      rw [List.filter_append]
      refine List.Perm.trans ?_ ((isCalling_set hh rfl).symm.append_right _)
      exact (Accounted.openHands_beginCall s hr).symm ▸ hperm.cons _
  | @breakDown i d r hh hd hr =>
      refine ⟨ha.kept_beginCall r, ?_, hhands, hstrays⟩
      simp only [Run.report]
      rw [List.filter_append, isCalling_erase_pausing hh]
      exact (Accounted.openHands_breakDown s hr).symm ▸ hperm
  | @finish i k d r reply hh hd =>
      have hnow : d = s.now := ha.early_hands.due_eq hh hd
      have hm : (⟨r, .calling k reply d⟩ : Hand) ∈ s.hands ++ s.strays :=
        List.mem_append_left _ (List.mem_of_getElem? hh)
      have hrest := (isCalling_erase hh rfl).append_right (s.strays.filter (·.isCalling))
      rw [← List.filter_append] at hrest
      obtain ⟨hkept, hopen⟩ := ha.perm_endCall hm hnow hrest
      refine ⟨hkept, ?_, hhands, hstrays⟩
      simp only [Run.report, List.filter_append]
      exact hopen
  | @strayCall i d r hh hd hr =>
      refine ⟨ha.kept_beginCall r, ?_, hhands, hstrays⟩
      rw [List.filter_append]
      refine List.Perm.trans ?_ ((isCalling_set hh rfl).symm.append_left _)
      refine List.Perm.trans ?_ List.perm_middle.symm
      exact (Accounted.openHands_beginCall s hr).symm ▸ hperm.cons _
  | @strayBreakDown i d r hh hd hr =>
      refine ⟨ha.kept_beginCall r, ?_, hhands, hstrays⟩
      rw [List.filter_append, isCalling_erase_pausing hh]
      exact (Accounted.openHands_breakDown s hr).symm ▸ hperm
  | @strayFinish i k d r reply hh hd =>
      have hnow : d = s.now := ha.early_strays.due_eq hh hd
      have hm : (⟨r, .calling k reply d⟩ : Hand) ∈ s.hands ++ s.strays :=
        List.mem_append_right _ (List.mem_of_getElem? hh)
      have hrest := (isCalling_erase hh rfl).append_left (s.hands.filter (·.isCalling))
      rw [← List.filter_append] at hrest
      obtain ⟨hkept, hopen⟩ := ha.perm_endCall hm hnow (List.perm_middle.symm.trans hrest)
      refine ⟨hkept, ?_, hhands, hstrays⟩
      simp only [List.filter_append]
      exact hopen
  | cancel | giveUp | feed | refuse | wait => exact ⟨ha.kept, ha.underWay, hhands, hstrays⟩

lemma Path.accounted (h : pool.Path s trail t) (hp : pool.Timely trail)
    (ha : pool.Accounted s) : pool.Accounted t := by
  induction h with
  | nil => exact ha
  | cons hs _ ih =>
      rw [timely_cons] at hp
      exact ih hp.2 (hs.accounted hp.1 ha)

/-- The beginning of a batch changes no account. -/
lemma Accounted.begin (ha : pool.Accounted s) (hd : s.isDone = true) (requests : List String) :
    pool.Accounted (s.begin requests) := by
  have hnil : s.hands = [] := (isDone_iff.mp hd).2.2
  have hperm := ha.underWay
  rw [hnil] at hperm
  exact ⟨ha.kept, hperm, early_begin s requests, ha.early_strays⟩

/-- Nor does its drop: hands become strays. -/
lemma Accounted.drop (ha : pool.Accounted s) : pool.Accounted s.drop := by
  refine ⟨ha.kept, ?_, by simp [Early, Run.drop], ?_⟩
  · simp only [Run.drop, List.nil_append]
    exact ha.underWay.trans (List.perm_append_comm.filter _)
  · intro h hm
    rcases List.mem_append.mp hm with hm | hm
    · exact ha.early_strays h hm
    · exact ha.early_hands h hm

/-! ## What the log says of a call -/

/-- What the log says of a call that is over. -/
def entry (pool : Pool) (b : Beginning) : Call :=
  ⟨b.request, b.attempt, b.start,
    if (pool.replyTo b).atCall then none else some (pool.finishOf b)⟩

/-- The hand that makes a call. -/
def handOf (pool : Pool) (b : Beginning) : Hand :=
  ⟨b.request, .calling b.attempt (pool.replyTo b) (pool.finishOf b)⟩

variable {b : Beginning}

/-- What tells a call from all others. -/
def Beginning.id (b : Beginning) : String × Nat := (b.request, b.attempt)

/-- The same in the log. -/
def callId (c : Call) : String × Nat := (c.request, c.attempt)

lemma Kept.of_append {newer older : List Call} (h : pool.Kept (newer ++ older)) :
    pool.Kept older := by
  induction newer with
  | nil => exact h
  | cons c newer ih => exact ih h.2

lemma openHands_append (newer : List Call) {older : List Call} {h : Hand}
    (hm : h ∈ pool.openHands older) : h ∈ pool.openHands (newer ++ older) := by
  induction newer with
  | nil => exact hm
  | cons c newer ih =>
      rw [List.cons_append, openHands]
      split_ifs
      · exact List.mem_cons_of_mem _ ih
      · exact ih

/-- **No two calls in a log have the same request and number.** -/
lemma Kept.nodup (h : pool.Kept log) : (log.map callId).Nodup := by
  induction log with
  | nil => simp
  | cons c log ih =>
      rw [List.map_cons, List.nodup_cons]
      refine ⟨fun hm => ?_, ih h.2⟩
      obtain ⟨c', hm, heq⟩ := List.mem_map.mp hm
      obtain ⟨hr, hk⟩ := Prod.mk.inj heq
      have hle := h.2.attempt_le c' hm
      rw [hr, hk, h.1.attempt_eq] at hle
      omega

/-- A call under way has no end in the log yet. -/
lemma Accounted.finish_eq_none (ha : pool.Accounted s)
    (hm : (⟨r, .calling k reply d⟩ : Hand) ∈ s.hands ++ s.strays) {c : Call} (hc : c ∈ s.calls)
    (hr : c.request = r) (hk : c.attempt = k) : c.finish = none := by
  obtain ⟨newer, c', older, hlog, hnone, hcaller⟩ := Pool.mem_openHands (ha.mem_openHands hm rfl)
  rw [caller, Hand.mk.injEq, Stage.calling.injEq] at hcaller
  have hmem : c' ∈ s.calls := by simp [hlog]
  have hid : callId c = callId c' :=
    Prod.ext (hr.trans hcaller.1) (hk.trans hcaller.2.1)
  rw [List.inj_on_of_nodup_map ha.kept.nodup hc hmem hid]
  exact hnone

lemma Path.ids_eq (h : pool.Path s trail t) :
    t.calls.map callId = ((calls trail).map Beginning.id).reverse ++ s.calls.map callId := by
  have hl := congrArg (List.map fun key => (key.1, key.2.1)) h.log_eq
  rw [List.map_append, List.map_reverse, List.map_map, List.map_map, List.map_map] at hl
  exact hl

/-- A call stands in the log, on top of the calls before it. -/
def Logged (b : Beginning) (log : List Call) : Prop :=
  ∃ newer c older, log = newer ++ c :: older ∧ c.key = b.key ∧ older.map (·.request) = b.earlier

/-- What happens later only adds to the log. -/
lemma Path.logged_mono (h : pool.Path s trail t) (hb : Logged b s.calls) : Logged b t.calls := by
  obtain ⟨newer, c, older, hs, hkey, hearlier⟩ := hb
  have hlog := h.log_eq
  rw [hs, List.map_append, List.map_cons, ← List.append_assoc, List.map_eq_append_iff] at hlog
  obtain ⟨newer', rest, ht, -, htail⟩ := hlog
  obtain ⟨c', older', rfl, hkey', holder⟩ := List.map_eq_cons_iff.mp htail
  have hrequests := congrArg (List.map Prod.fst) holder
  rw [List.map_map, List.map_map] at hrequests
  exact ⟨newer', c', older', ht, hkey'.trans hkey, hrequests.trans hearlier⟩

lemma Step.logged (h : pool.Step s m t) (hb : b ∈ calls [⟨s, m, t⟩]) : Logged b t.calls := by
  cases h with
  | call hh | breakDown hh | strayCall hh | strayBreakDown hh =>
      simp only [calls_cons, Transition.call?, hh, beginning?, Option.toList_some, calls_nil,
        List.append_nil, List.mem_singleton] at hb
      subst hb
      exact ⟨[], _, _, rfl, rfl, rfl⟩
  | finish hh | strayFinish hh => simp [Transition.call?, beginning?, hh] at hb
  | _ => simp [Transition.call?] at hb

lemma Path.logged (h : pool.Path s trail t) (hb : b ∈ calls trail) : Logged b t.calls := by
  induction h with
  | nil => simp at hb
  | @cons s u t m trail hs hp ih =>
      rw [calls_split, List.mem_append] at hb
      rcases hb with hb | hb
      · exact hp.logged_mono (hs.logged hb)
      · exact ih hb

/-- **A call that began is over, as the log says, or it is under way.** -/
lemma Accounted.entry_or_underWay (ha : pool.Accounted t) (hb : Logged b t.calls) :
    pool.entry b ∈ t.calls ∨ pool.handOf b ∈ t.hands ++ t.strays := by
  obtain ⟨newer, ⟨r, k, start, finish⟩, older, ht, hkey, hearlier⟩ := hb
  have hkept := ha.kept
  rw [ht] at hkept
  obtain ⟨⟨-, hfinish⟩, -⟩ := hkept.of_append
  simp only [Call.key, Beginning.key, Prod.mk.injEq] at hkey
  obtain ⟨rfl, rfl, rfl⟩ := hkey
  simp only [hearlier] at hfinish
  have hmem : (⟨b.request, b.attempt, b.start, finish⟩ : Call) ∈ t.calls := by simp [ht]
  cases hc : (pool.replyTo b).atCall with
  | true =>
      rcases hfinish with rfl | ⟨hfalse, -⟩
      · exact .inl (by simpa [entry, hc] using hmem)
      · exact absurd (hc.symm.trans hfalse) (by simp)
  | false =>
      rcases hfinish with rfl | ⟨-, rfl⟩
      · -- it is one of the calls that are still to end
        refine .inr ?_
        have hopen : pool.handOf b
            ∈ pool.openHands (⟨b.request, b.attempt, b.start, none⟩ :: older) := by
          rw [openHands, if_pos ⟨rfl, by simp only [hearlier]; exact hc⟩, caller]
          simp only [hearlier, handOf, finishOf, hc, Bool.false_eq_true, ↓reduceIte]
          exact List.mem_cons_self
        have hall := openHands_append newer hopen
        rw [← ht] at hall
        exact (List.mem_filter.mp (ha.underWay.subset hall)).1
      · refine .inl ?_
        simp only [entry, finishOf, hc, Bool.false_eq_true, ↓reduceIte]
        exact hmem

/-- Strays make calls that they made before or that they began. -/
lemma Step.strays_calling (h : pool.Step s m t) :
    ∀ hand ∈ t.strays, hand.isCalling = true → hand ∈ s.strays ∨
      ∃ b ∈ calls [⟨s, m, t⟩], b.own = false ∧ hand = pool.handOf b := by
  intro hand hm hc
  cases h with
  | @strayCall i d r hh hd hr =>
      rcases List.mem_or_eq_of_mem_set hm with hm | rfl
      · exact .inl hm
      · refine .inr ⟨⟨r, s.now, s.called, false⟩, ?_, rfl, ?_⟩
        · simp [Transition.call?, beginning?, hh]
        · simp [handOf, finishOf, replyTo, hr, Beginning.attempt, Run.nextAttempt]
  | strayBreakDown | strayFinish => exact .inl (List.mem_of_mem_eraseIdx hm)
  | _ => exact .inl hm

lemma Path.strays_calling (h : pool.Path s trail t) :
    ∀ hand ∈ t.strays, hand.isCalling = true → hand ∈ s.strays ∨
      ∃ b ∈ calls trail, b.own = false ∧ hand = pool.handOf b := by
  induction h with
  | nil =>
      intro hand hm _
      exact .inl hm
  | @cons s u t m trail hs hp ih =>
      intro hand hm hc
      rw [calls_split]
      rcases ih hand hm hc with hu | ⟨b, hb, hown, rfl⟩
      · rcases hs.strays_calling hand hu hc with hm | ⟨b, hb, hown, rfl⟩
        · exact .inl hm
        · exact .inr ⟨b, List.mem_append_left _ hb, hown, rfl⟩
      · exact .inr ⟨b, List.mem_append_right _ hb, hown, rfl⟩

lemma ids_of_handOf_eq {b b' : Beginning} (h : pool.handOf b = pool.handOf b') : b.id = b'.id := by
  rw [handOf, handOf, Hand.mk.injEq, Stage.calling.injEq] at h
  exact Prod.ext h.1 h.2.1

/-- A stray makes no call of the batch. -/
lemma Path.handOf_notMem_strays (h : pool.Path s trail t) (hs : pool.Accounted s)
    (ht : pool.Accounted t) (hb : b ∈ ownCalls trail) : pool.handOf b ∉ t.strays := by
  intro hm
  obtain ⟨hb, hown⟩ := List.mem_filter.mp hb
  have hnodup := ht.kept.nodup
  rw [h.ids_eq, List.nodup_append] at hnodup
  obtain ⟨hcalls, -, hdisjoint⟩ := hnodup
  have hid : b.id ∈ ((calls trail).map Beginning.id).reverse :=
    List.mem_reverse.mpr (List.mem_map_of_mem hb)
  rcases h.strays_calling _ hm rfl with hstray | ⟨b', hb', hown', heq⟩
  · -- then the log of the beginning has a call with the same request and number
    have hopen := hs.mem_openHands (List.mem_append_right _ hstray) rfl
    obtain ⟨newer, c, older, hlog, -, hcaller⟩ := mem_openHands hopen
    rw [handOf, caller, Hand.mk.injEq, Stage.calling.injEq] at hcaller
    refine hdisjoint _ hid (callId c) ?_ (Prod.ext hcaller.1 hcaller.2.1)
    rw [hlog]
    simp
  · have hsame := List.inj_on_of_nodup_map (List.nodup_reverse.mp hcalls) hb hb'
      (ids_of_handOf_eq heq)
    rw [hsame, hown'] at hown
    cases hown

/-- **When no worker has anything in its hands the calls of the batch are over**, and the log
says when each of them ended. -/
lemma Path.entry_mem (h : pool.Path s trail t) (hp : pool.Timely trail) (ha : pool.Accounted s)
    (hn : t.hands = []) (hb : b ∈ ownCalls trail) : pool.entry b ∈ t.calls := by
  have ht := h.accounted hp ha
  rcases ht.entry_or_underWay (h.logged (List.mem_filter.mp hb).1) with hm | hm
  · exact hm
  · rw [hn, List.nil_append] at hm
    exact absurd hm (h.handOf_notMem_strays ha ht hb)

end Pool

end PageCrawl
