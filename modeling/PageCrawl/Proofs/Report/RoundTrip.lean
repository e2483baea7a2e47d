import PageCrawl.Proofs.Json.Written
import PageCrawl.Proofs.Report.Instant
import PageCrawl.Report.Basic
import PageCrawl.Text.Split

/-!
# Reports are read back from the lines of the output

What the program writes is meant to be read by programs: one report on a line.  This file shows
that nothing is lost on the way.

**One report.**  `found` is what reading finds of a report that was written: its members one after
another, with nothing for those that are absent (`readsAll_members`).  A report can be written if
its length has 64 bits and clocks can show its time (`Writable`), and then it is read back:
`ofJson_toJson`.

**Any text.**  A report may be read from texts that look quite different: lists, members in another
order, blanks, offsets from UTC.  Whatever the text, the report can be written, since the two fields
that matter are read with bounds: `writable_of_ofJson`.

**Lines.**  No line feed stands in a report (`not_control_of_mem_toJson`), so the lines of the
output are the reports: `Text.lines_unlines`.
-/

namespace PageCrawl

open Json

namespace PageReport

variable {f : Found} {r : PageReport}

/-- The length of the page has 64 bits, and clocks can show the time of the crawl. -/
structure Writable (r : PageReport) : Prop where
  length : r.contentLength ≤ largest
  time : r.crawledAt.IsValid

/-- What reading finds of a report. -/
def found (r : PageReport) : Found where
  request := some r.request
  ok := some r.ok
  title := r.title.map some
  contentHash := r.contentHash.map some
  contentLength := some r.contentLength
  error := r.error.map some
  crawledAt := some r.crawledAt

lemma ofFound_found (r : PageReport) : ofFound r.found = some r := by
  have hjoin : ∀ o : Option String, (o.map some).join = o := by
    rintro (_ | x) <;> rfl
  simp [ofFound, found, hjoin]

/-- A member is read by the field of its name, which sets what its reader gives. -/
lemma reads_of_field {α : Type} {name : String} {value : List Char} {get : Found → Option α}
    {reader : Reader α} {x : α} (set : Found → α → Found)
    (hfind : fields.find? (fun g => g.name == name) = some (field name get set reader))
    (hget : get f = none) (hread : ∀ rest, Behind rest → reader (value ++ rest) = .ok (x, rest)) :
    Reads fields f ⟨name, value⟩ (set f x) := by
  refine reads_field hfind (by simp [field, hget]) fun rest hr => ?_
  simp [field, hread rest hr, bind, Except.bind, pure, Except.pure]

/-- A member that may be absent is read if it is there. -/
lemma readsAll_optionalText {name : String} {value : Option String}
    {get : Found → Option (Option String)} (set : Found → Option String → Found)
    (put : Found → Option (Option String) → Found)
    (hfind : fields.find? (fun g => g.name == name)
      = some (field name get set (Json.optional Json.text)))
    (hget : get f = none) (hset : ∀ x, put f (some x) = set f x) (hput : put f (get f) = f) :
    ReadsAll fields f (optionalText name value) (put f (value.map some)) := by
  cases value with
  | none =>
      rw [Option.map_none, ← hget, hput]
      exact .nil f
  | some v =>
      rw [Option.map_some, hset]
      refine .cons (reads_of_field set hfind hget fun rest _ => ?_) (.nil _)
      exact optional_text_written v rest

lemma instant_written {t : Instant} (h : t.IsValid) (rest : List Char) :
    instant (quoted (String.ofList t.written).toList ++ rest) = .ok (t, rest) := by
  have htext := text_written (String.ofList t.written) rest
  rw [String.toList_ofList] at htext ⊢
  simp only [instant, htext, bind, Except.bind, String.toList_ofList, Instant.read_written h]
  rfl

/-- The members of a report are read one after another, and what is absent leaves no trace. -/
lemma readsAll_members (hw : r.Writable) :
    ReadsAll fields {} r.members r.found := by
  -- each member is read whatever was found before it, as long as it was not found itself
  have hrequest (f : Found) (h : f.request = none) : Reads fields f
      (.text "request" r.request) { f with request := some r.request } :=
    reads_of_field (fun f x => { f with request := some x }) rfl h fun rest _ =>
      text_written r.request rest
  have hok (f : Found) (h : f.ok = none) : Reads fields f
      (.bool "ok" r.ok) { f with ok := some r.ok } :=
    reads_of_field (fun f x => { f with ok := some x }) rfl h fun rest _ =>
      bool_written "ok" r.ok rest
  have htitle (f : Found) (h : f.title = none) : ReadsAll fields f
      (optionalText "title" r.title) { f with title := r.title.map some } :=
    readsAll_optionalText (fun f x => { f with title := some x })
      (fun f x => { f with title := x }) rfl h (fun _ => rfl) rfl
  have hhash (f : Found) (h : f.contentHash = none) : ReadsAll fields f
      (optionalText "content_hash" r.contentHash)
      { f with contentHash := r.contentHash.map some } :=
    readsAll_optionalText (fun f x => { f with contentHash := some x })
      (fun f x => { f with contentHash := x }) rfl h (fun _ => rfl) rfl
  have hlength (f : Found) (h : f.contentLength = none) : Reads fields f
      (.nat "content_length" r.contentLength)
      { f with contentLength := some r.contentLength } :=
    reads_of_field (fun f x => { f with contentLength := some x }) rfl h fun rest hr =>
      natural_written hw.length hr
  have herror (f : Found) (h : f.error = none) : ReadsAll fields f
      (optionalText "error" r.error) { f with error := r.error.map some } :=
    readsAll_optionalText (fun f x => { f with error := some x })
      (fun f x => { f with error := x }) rfl h (fun _ => rfl) rfl
  have htime (f : Found) (h : f.crawledAt = none) : Reads fields f
      (.text "crawled_at" (String.ofList r.crawledAt.written))
      { f with crawledAt := some r.crawledAt } :=
    reads_of_field (fun f x => { f with crawledAt := some x }) rfl h fun rest _ =>
      instant_written hw.time rest
  have hstart : ReadsAll fields {} [.text "request" r.request, .bool "ok" r.ok] _ :=
    .cons (hrequest _ rfl) (.cons (hok _ rfl) (.nil _))
  exact ((((hstart.append (htitle _ rfl)).append (hhash _ rfl)).append
    (.cons (hlength _ rfl) (.nil _))).append (herror _ rfl)).append
      (.cons (htime _ rfl) (.nil _))

/-- **A report is read back as it was written.** -/
lemma ofJson_toJson (h : r.Writable) : ofJson r.toJson = .ok r :=
  record_written (readsAll_members h) r.ofFound_found

/-! ## What can be read -/

/-- What was read so far comes from a report that can be written. -/
structure Found.Writable (f : Found) : Prop where
  length : ∀ n, f.contentLength = some n → n ≤ largest
  time : ∀ t, f.crawledAt = some t → t.IsValid

lemma keptBy_field {α : Type} {P : Found → Prop} {name : String} {get : Found → Option α}
    {set : Found → α → Found} {reader : Reader α}
    (h : ∀ f x cs rest, P f → reader cs = .ok (x, rest) → P (set f x)) :
    KeptBy P (field name get set reader) := by
  intro f cs t rest hf hr
  obtain ⟨⟨x, cs'⟩, hx, hr⟩ := bind_eq_ok.mp hr
  cases hr
  exact h f x cs _ hf hx

lemma isValid_of_instant {t : Instant} {cs rest : List Char} (h : instant cs = .ok (t, rest)) :
    t.IsValid := by
  obtain ⟨⟨s, cs'⟩, -, h⟩ := bind_eq_ok.mp h
  dsimp only at h
  split at h
  · next u hu =>
      cases h
      exact Instant.isValid_of_read hu
  · cases h

lemma fields_keep_writable : ∀ f ∈ fields, KeptBy Found.Writable f := by
  simp only [fields, List.forall_mem_cons]
  -- only the length and the time are asked for; the other fields leave both alone
  refine ⟨?_, ?_, ?_, ?_, ?_, ?_, ?_, by simp⟩
  · exact keptBy_field fun f x cs rest hf _ => ⟨hf.length, hf.time⟩
  · exact keptBy_field fun f x cs rest hf _ => ⟨hf.length, hf.time⟩
  · exact keptBy_field fun f x cs rest hf _ => ⟨hf.length, hf.time⟩
  · exact keptBy_field fun f x cs rest hf _ => ⟨hf.length, hf.time⟩
  · refine keptBy_field fun f x cs rest hf hx => ⟨?_, hf.time⟩
    intro n hn
    cases hn
    exact natural_le hx
  · exact keptBy_field fun f x cs rest hf _ => ⟨hf.length, hf.time⟩
  · refine keptBy_field fun f x cs rest hf hx => ⟨hf.length, ?_⟩
    intro t ht
    cases ht
    exact isValid_of_instant hx

/-- **A report that was read can be written.** -/
lemma writable_of_ofJson {s : String} (h : ofJson s = .ok r) : r.Writable := by
  obtain ⟨f, hf, hr⟩ := exists_of_record fields_keep_writable ⟨by simp, by simp⟩ h
  unfold ofFound at hr
  obtain ⟨request, -, hr⟩ := Option.bind_eq_some_iff.mp hr
  obtain ⟨ok, -, hr⟩ := Option.bind_eq_some_iff.mp hr
  obtain ⟨n, hn, hr⟩ := Option.bind_eq_some_iff.mp hr
  obtain ⟨t, ht, hr⟩ := Option.bind_eq_some_iff.mp hr
  cases hr
  exact ⟨hf.length n hn, hf.time t ht⟩

lemma not_control_of_mem_optionalText {name : String} {value : Option String} {c : Char} :
    ∀ m ∈ optionalText name value, c ∈ m.value → 0x20 ≤ c.toNat := by
  intro m hm hc
  cases value with
  | none => simp [optionalText] at hm
  | some v =>
      simp only [optionalText, Option.map_some, Option.toList_some, List.mem_singleton] at hm
      subst hm
      exact not_control_of_mem_quoted hc

/-- **A report is one line.** -/
lemma not_control_of_mem_toJson {c : Char} (hc : c ∈ r.toJson.toList) : 0x20 ≤ c.toNat := by
  have hobject : c ∈ (Json.object r.members).toList := hc
  refine not_control_of_mem_object ?_ hobject
  intro m hm c hc
  simp only [members, List.mem_append, List.mem_cons, List.not_mem_nil, or_false] at hm
  rcases hm with (((((rfl | rfl) | hm) | hm) | rfl) | hm) | rfl
  · exact not_control_of_mem_quoted hc
  · exact not_control_of_mem_bool hc
  · exact not_control_of_mem_optionalText m hm hc
  · exact not_control_of_mem_optionalText m hm hc
  · exact not_control_of_mem_nat hc
  · exact not_control_of_mem_optionalText m hm hc
  · exact not_control_of_mem_quoted hc

end PageReport

namespace Request

lemma ofJson_toJson (r : Request) : ofJson r.toJson = .ok r := by
  have hread : Reads fields none (.text "search_string" r.searchString) (some r.searchString) := by
    refine reads_field rfl rfl fun rest _ => ?_
    simp [text_written, bind, Except.bind, pure, Except.pure]
  exact record_written (.cons hread (.nil _)) rfl

lemma not_control_of_mem_toJson {r : Request} {c : Char} (hc : c ∈ r.toJson.toList) :
    0x20 ≤ c.toNat := by
  refine not_control_of_mem_object ?_ hc
  intro m hm c hc
  rw [List.mem_singleton] at hm
  subst hm
  exact not_control_of_mem_quoted hc

end Request

/-! ## Lines -/

namespace Text

/-- Lines as one text: behind each of them stands a line feed. -/
def unlines (lines : List String) : String := String.join (lines.map (· ++ "\n"))

/-- The lines of a text, split at line feeds; nothing stands behind the last one. -/
def lines (text : String) : List String :=
  (split (· == '\n') text.toList).dropLast.map String.ofList

lemma split_append_cons {isMark : Char → Bool} {mark : Char} (hm : isMark mark = true)
    (rest : List Char) : ∀ cs : List Char, (∀ c ∈ cs, isMark c = false) →
      split isMark (cs ++ mark :: rest) = cs :: split isMark rest
  | [], _ => by simp [split, hm]
  | c :: cs, h => by
      have hc := h c List.mem_cons_self
      have hcs := split_append_cons hm rest cs fun d hd => h d (List.mem_cons_of_mem c hd)
      simp [split, hc, hcs]

/-- **Lines without line feeds are the lines of their text.** -/
lemma lines_unlines : ∀ ls : List String, (∀ l ∈ ls, '\n' ∉ l.toList) → lines (unlines ls) = ls
  | [], _ => rfl
  | l :: ls, h => by
      have hl : ∀ c ∈ l.toList, (c == '\n') = false := by
        intro c hc
        rw [beq_eq_false_iff_ne]
        rintro rfl
        exact h l List.mem_cons_self hc
      have hls := lines_unlines ls fun l' hl' => h l' (List.mem_cons_of_mem l hl')
      have htext : (unlines (l :: ls)).toList = l.toList ++ '\n' :: (unlines ls).toList := by
        simp [unlines]
      have hsplit : split (· == '\n') (l.toList ++ '\n' :: (unlines ls).toList)
          = l.toList :: split (· == '\n') (unlines ls).toList := by
        refine split_append_cons ?_ _ _ hl
        exact beq_self_eq_true '\n'
      -- what is dropped stands behind the last line feed
      rw [lines, htext, hsplit, List.dropLast_cons_of_ne_nil (split_ne_nil _ _), List.map_cons,
        String.ofList_toList]
      exact congrArg _ hls

end Text

lemma mapM_lines {α : Type} {write : α → String} {read : String → Except Fault α} :
    ∀ xs : List α, (∀ x ∈ xs, read (write x) = .ok x) → (xs.map write).mapM read = .ok xs
  | [], _ => rfl
  | x :: xs, h => by
      have hx := h x List.mem_cons_self
      have hxs := mapM_lines xs fun y hy => h y (List.mem_cons_of_mem x hy)
      rw [List.map_cons, List.mapM_cons, hx]
      simp only [hxs, bind, Except.bind]
      rfl

/-- **Written one on a line, values are read back from the lines.** -/
lemma mapM_lines_unlines {α : Type} {write : α → String} {read : String → Except Fault α}
    {xs : List α} (hread : ∀ x ∈ xs, read (write x) = .ok x)
    (hline : ∀ x ∈ xs, ∀ c ∈ (write x).toList, 0x20 ≤ c.toNat) :
    (Text.lines (Text.unlines (xs.map write))).mapM read = .ok xs := by
  rw [Text.lines_unlines, mapM_lines xs hread]
  intro l hl hfeed
  obtain ⟨x, hx, rfl⟩ := List.mem_map.mp hl
  have hcontrol := hline x hx '\n' hfeed
  exact absurd hcontrol (by decide)

/-- **Reports are lossless and safe on lines.**  Reports that are written one on a line are read
back from the lines of the text, whatever characters stand in them, whichever fields are absent and
to the nanosecond.  A report that was read from any text is read back from what is written of it,
and is written the same way again.  Both hold of requests as well. -/
theorem reports_round_trip :
    (∀ reports : List PageReport, (∀ r ∈ reports, r.Writable) →
      (Text.lines (Text.unlines (reports.map PageReport.toJson))).mapM PageReport.ofJson
        = .ok reports) ∧
    (∀ (text : String) (r : PageReport), PageReport.ofJson text = .ok r →
      PageReport.ofJson r.toJson = .ok r ∧
        (PageReport.ofJson r.toJson).map PageReport.toJson = .ok r.toJson) ∧
    (∀ requests : List Request,
      (Text.lines (Text.unlines (requests.map Request.toJson))).mapM Request.ofJson
        = .ok requests) ∧
    ∀ (text : String) (r : Request), Request.ofJson text = .ok r →
      Request.ofJson r.toJson = .ok r ∧
        (Request.ofJson r.toJson).map Request.toJson = .ok r.toJson := by
  refine ⟨fun reports hw => ?_, fun text r h => ?_, fun requests => ?_, fun text r _ => ?_⟩
  · exact mapM_lines_unlines (fun r hr => PageReport.ofJson_toJson (hw r hr))
      fun r _ c hc => PageReport.not_control_of_mem_toJson hc
  · have hread := PageReport.ofJson_toJson (PageReport.writable_of_ofJson h)
    exact ⟨hread, by rw [hread]; rfl⟩
  · exact mapM_lines_unlines (fun r _ => r.ofJson_toJson)
      fun r _ c hc => Request.not_control_of_mem_toJson hc
  · have hread := r.ofJson_toJson
    exact ⟨hread, by rw [hread]; rfl⟩

/-- A line feed, quotes, a backslash and a control character in a request, a second 60 with one
nanosecond and the largest length there is; and a list of fields with an offset from UTC. -/
theorem reports_round_trip_escaped :
    let leap : Instant := ⟨⟨2016, 12, 31⟩, 23, 59, 60, 1⟩
    let first : Instant := ⟨⟨0, 1, 1⟩, 0, 0, 0, 0⟩
    let reports : List PageReport :=
      [⟨"a\n\"b\\c\x01😀", true, some "\u2028", none, 18446744073709551615, none, leap⟩,
       ⟨"", false, none, some "", 0, some "\x7d\n\x7b", first⟩]
    let text := "[\"x\", true, null, \"h\", 7, null, \"2024-03-01T01:30:00.5+02:00\"]"
    let read : PageReport := ⟨"x", true, none, some "h", 7, none,
      ⟨⟨2024, 2, 29⟩, 23, 30, 0, 500000000⟩⟩
    (∀ r ∈ reports, r.Writable) ∧
      (Text.lines (Text.unlines (reports.map PageReport.toJson))).mapM PageReport.ofJson
        = .ok reports ∧
      PageReport.ofJson text = .ok read ∧ PageReport.ofJson read.toJson = .ok read := by
  intro leap first reports text read
  have hw : ∀ r ∈ reports, r.Writable := by
    have hleap : leap.IsValid := ⟨by decide, by decide, by decide, by decide, by decide⟩
    have hfirst : first.IsValid := ⟨by decide, by decide, by decide, by decide, by decide⟩
    intro r hr
    simp only [reports, List.mem_cons, List.not_mem_nil, or_false] at hr
    rcases hr with rfl | rfl
    · exact ⟨by decide, hleap⟩
    · exact ⟨by decide, hfirst⟩
  have hread : PageReport.ofJson text = .ok read := by decide +kernel
  exact ⟨hw, reports_round_trip.1 reports hw, hread, (reports_round_trip.2.1 text read hread).1⟩

end PageCrawl
