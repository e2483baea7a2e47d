import PageCrawl.Proofs.Session.Redirects
import PageCrawl.Proofs.Url.Reading

/-!
# Addresses of requests

A session asks for a request at the address that its template makes of it.  Where the placeholder of
the template is a segment of the path, a request ought to be a segment too, whatever it says.

**The template.**  `IsSegment` says in terms of the text that the first placeholder is a segment of
its own: a slash behind the host stands before it, and a slash or the end of the path behind it.  No
other segment of the path may be dots.

**The segment.**  What stands around the placeholder is read in the same way for all requests, and
the request is read as it was encoded (`IsSegment.exists_read`).  Then the path is that of the
template with another segment at the place of the placeholder, unless the request is a dot or two:
the encoding leaves dots alone, and reading an address takes them out of the path, two of them with
the segment before.  `dots_leave_their_segment` is a template for which requests share an address
for this reason.
-/

namespace PageCrawl

namespace Url

namespace Template

open Text

variable {naming : Naming} {template : String} {before after cs : List Char} {u : Url}

/-! ## Templates -/

/-- The texts before and behind the first placeholder. -/
def cut : List Char → Option (List Char × List Char)
  | [] => none
  | '\x7b' :: '\x7d' :: rest => some ([], rest)
  | c :: cs => (cut cs).map fun (before, after) => (c :: before, after)

/-- **A template that is cut**, and what fills it. -/
lemma fillWith_of_cut (h : cut cs = some (before, after)) :
    cs = before ++ ['\x7b', '\x7d'] ++ after ∧
      ∀ encoded, fillWith encoded cs = before ++ encoded ++ after := by
  induction cs using cut.induct generalizing before with
  | case1 => cases h
  | case2 rest =>
      rw [cut, Option.some.injEq, Prod.mk.injEq] at h
      rw [← h.1, ← h.2]
      exact ⟨rfl, fun encoded => rfl⟩
  | case3 c cs hnot ih =>
      rw [cut, Option.map_eq_some_iff] at h
      · obtain ⟨⟨front, back⟩, hcut, heq⟩ := h
        simp only [Prod.mk.injEq] at heq
        obtain ⟨rfl, rfl⟩ := heq
        obtain ⟨htext, hfill⟩ := ih hcut
        refine ⟨by rw [List.cons_append, List.cons_append, ← htext], fun encoded => ?_⟩
        rw [fillWith, hfill]
        · rfl
        · exact hnot
      · exact hnot

/-- What stands behind the scheme of an address: its host, and what follows. -/
def location (cs : List Char) : List Char :=
  (takeScheme cs).elim [] fun found => found.2.dropWhile (isSlash true)

/-- The segments of the path before the placeholder. -/
def partsBefore (before : List Char) : List (List Char) :=
  (split (isSlash true) (location (opening before))).tail.dropLast

/-- The segments of the path behind the placeholder. -/
def partsAfter (after : List Char) : List (List Char) :=
  (split (isSlash true) (pathZone (closing after))).tail

/-- **The first placeholder of a template is a segment of the path of its own**, between the given
texts. -/
structure IsSegment (template : String) (before after : List Char) : Prop where
  cut_eq : cut template.toList = some (before, after)
  /-- Pages are fetched by its scheme. -/
  scheme_eq : (takeScheme (opening before)).any
    (fun found => found.1 == "http" || found.1 == "https") = true
  /-- A slash behind the host stands before it. -/
  opened : (location (opening before)).getLast?.any (isSlash true) = true
  /-- Neither the query nor the fragment begins before it. -/
  in_path : ∀ c ∈ location (opening before), c ≠ '?' ∧ c ≠ '#'
  /-- A slash, the query, the fragment or nothing follows it. -/
  closed : (closing after).head?.all (endsAuthority true) = true
  /-- No other segment of the path is dots. -/
  undotted : ∀ part ∈ partsBefore before ++ partsAfter after, isDots (String.ofList part) = false

/-! ## Reading what fills a template -/

/-- A text that ends with a slash, in which neither query nor fragment begins, is a host and
directories. -/
lemma exists_directories (hopened : cs.getLast?.any (isSlash true) = true)
    (hpath : ∀ c ∈ cs, c ≠ '?' ∧ c ≠ '#') :
    ∃ zone mark directories, cs = zone ++ mark :: directories ∧ Within zone ∧
      isSlash true mark = true ∧ directories.getLast?.all (isSlash true) = true ∧
      ∀ c ∈ directories, c ≠ '?' ∧ c ≠ '#' := by
  obtain ⟨last, hlast, hslash⟩ := (Option.any_eq_true _ _).mp hopened
  have hwhole := List.takeWhile_append_dropWhile (p := fun c => !endsAuthority true c) (l := cs)
  have hzone : Within (cs.takeWhile fun c => !endsAuthority true c) := fun c hc => by
    simpa using List.mem_takeWhile_imp hc
  have hhead := List.head?_dropWhile_not (fun c => !endsAuthority true c) cs
  cases hbehind : cs.dropWhile fun c => !endsAuthority true c with
  | nil =>
      -- the last slash would be part of the host
      have hall := List.dropWhile_eq_nil_iff.mp hbehind last (List.mem_of_getLast? hlast)
      rw [endsAuthority, hslash] at hall
      cases hall
  | cons mark directories =>
      rw [hbehind] at hwhole hhead
      have hmem : ∀ c ∈ mark :: directories, c ≠ '?' ∧ c ≠ '#' := fun c hc =>
        hpath c (hwhole ▸ List.mem_append_right _ hc)
      obtain ⟨hmark, hdirectories⟩ := List.forall_mem_cons.mp hmem
      refine ⟨_, mark, directories, hwhole.symm, hzone, ?_, ?_, hdirectories⟩
      · simpa [endsAuthority, hmark.1, hmark.2] using hhead
      · rw [← hwhole, List.getLast?_append, List.getLast?_cons] at hlast
        cases hl : directories.getLast? with
        | none => rfl
        | some c =>
            obtain rfl : c = last := by simpa [hl] using hlast
            exact hslash

/-- What stands before the placeholder: a scheme, a host and directories. -/
lemma IsSegment.exists_location (h : IsSegment template before after) :
    ∃ scheme rest zone mark directories, takeScheme (opening before) = some (scheme, rest) ∧
      (scheme = "http" ∨ scheme = "https") ∧
      rest.dropWhile (isSlash true) = zone ++ mark :: directories ∧ Within zone ∧
      isSlash true mark = true ∧ directories.getLast?.all (isSlash true) = true ∧
      (∀ c ∈ directories, c ≠ '?' ∧ c ≠ '#') ∧
      partsBefore before = (split (isSlash true) directories).dropLast := by
  obtain ⟨⟨scheme, rest⟩, hfound, hscheme⟩ := (Option.any_eq_true _ _).mp h.scheme_eq
  have hlocation : location (opening before) = rest.dropWhile (isSlash true) := by
    rw [location, hfound]
    rfl
  obtain ⟨zone, mark, directories, heq, hzone, hmark, hlast, hpath⟩ :=
    exists_directories h.opened h.in_path
  refine ⟨scheme, rest, zone, mark, directories, hfound, by simpa using hscheme,
    hlocation.symm.trans heq, hzone, hmark, hlast, hpath, ?_⟩
  rw [partsBefore, heq, split_append_mark hmark,
    split_unmarked _ fun c hc => (inZone_of_within (hzone c hc)).1]
  rfl

lemma location_suffix (cs : List Char) : location cs <:+ cs := by
  rw [location]
  cases hfound : takeScheme cs with
  | none => exact List.nil_suffix
  | some found =>
      obtain ⟨name, heq, -⟩ := takeScheme_eq_some.mp hfound
      have hrest : ':' :: found.2 <:+ cs := heq ▸ List.suffix_append _ _
      exact (List.dropWhile_suffix _).trans ((List.suffix_cons _ _).trans hrest)

/-- Blanks do not stand before the placeholder. -/
lemma IsSegment.visible (h : IsSegment template before after) :
    (opening before).getLast?.any (!isOuter ·) = true := by
  obtain ⟨last, hlast, hslash⟩ := (Option.any_eq_true _ _).mp h.opened
  obtain ⟨front, hfront⟩ := location_suffix (opening before)
  have hvisible : isOuter last = false := by
    rw [isSlash, Bool.true_and, Bool.or_eq_true, beq_iff_eq, beq_iff_eq] at hslash
    rcases hslash with rfl | rfl <;> decide
  rw [← hfront, List.getLast?_append, hlast]
  simp [hvisible]

lemma IsSegment.names (h : IsSegment template before after) :
    (∀ name ∈ (partsBefore before).map written, isDots name = false) ∧
      ∀ name ∈ (partsAfter after).map written, isDots name = false := by
  constructor <;> intro name hname <;> obtain ⟨part, hpart, rfl⟩ := List.mem_map.mp hname
  · exact isDots_path (h.undotted part (List.mem_append_left _ hpart))
  · exact isDots_path (h.undotted part (List.mem_append_right _ hpart))

/-- A path in which a segment is put at the place of the placeholder. -/
def placedAt (before after : List Char) (segment : String) : UrlPath :=
  .segments (placed ((partsBefore before).map written) ((partsAfter after).map written) segment)

/-- **What stands around the placeholder is read alike**, whatever stands in its place. -/
lemma IsSegment.exists_read (h : IsSegment template before after) :
    (∃ fault, ∀ part, Within part → (∀ c ∈ part, isOuter c = false) →
      parse naming (String.ofList (before ++ part ++ after)) = .error fault) ∨
    ∃ v : Url, v.isHttp = true ∧ v.host.isSome = true ∧
      ∀ part, Within part → (∀ c ∈ part, isOuter c = false) →
        parse naming (String.ofList (before ++ part ++ after))
          = .ok { v with path := placedAt before after (written part) } := by
  obtain ⟨scheme, rest, zone, mark, directories, hfound, hscheme, hrest, hzone, hmark, hlast, hpath,
    hparts⟩ := h.exists_location
  have hspecial : isSpecial scheme = true ∧ scheme ≠ "file" := by
    rcases hscheme with rfl | rfl <;> decide
  have hparse : ∀ part, (∀ c ∈ part, isOuter c = false) →
      parse naming (String.ofList (before ++ part ++ after))
        = readScheme naming scheme (rest ++ part ++ closing after) := by
    intro part hpart
    rw [parse, String.toList_ofList, stripped_around h.visible hpart, List.append_assoc,
      takeScheme_append hfound, ← List.append_assoc]
  rcases readScheme_between hspecial.1 hspecial.2 hrest hzone hmark hlast hpath h.closed with
    ⟨fault, hfault⟩ | ⟨v, rfl, hhost, hall⟩
  · exact .inl ⟨fault, fun part hpart houter => by rw [hparse part houter, hfault part hpart]⟩
  · refine .inr ⟨v, ?_, hhost, fun part hpart houter => ?_⟩
    · rcases hscheme with hv | hv <;> simp [isHttp, hv]
    · rw [hparse part houter, hall part hpart, placedAt, ← hparts, ← partsAfter, List.map_append,
        List.map_cons, follow_placed _ _ _ h.names.1 h.names.2]

/-- A request as it stands in an address. -/
def encoded (request : String) : String := String.ofList (Form.encode request.toList)

/-- **Every request is read at the place of the placeholder**, and the rest is read as it is in the
template. -/
lemma IsSegment.parse_fill (h : IsSegment template before after)
    (hu : parse naming template = .ok u) :
    u.isHttp = true ∧ u.host.isSome = true ∧ u.path = placedAt before after "%7B%7D" ∧
      ∀ request, parse naming (fill template request)
        = .ok { u with path := placedAt before after (encoded request) } := by
  obtain ⟨htext, hfill⟩ := fillWith_of_cut h.cut_eq
  have hbraces : ∀ c ∈ ['\x7b', '\x7d'], endsAuthority true c = false ∧ isOuter c = false := by
    intro c hc
    simp only [List.mem_cons, List.not_mem_nil, or_false] at hc
    rcases hc with rfl | rfl <;> decide
  have hwithin : Within ['\x7b', '\x7d'] := fun c hc => (hbraces c hc).1
  have houter : ∀ c ∈ ['\x7b', '\x7d'], isOuter c = false := fun c hc => (hbraces c hc).2
  have hwritten : written ['\x7b', '\x7d'] = "%7B%7D" := by decide
  have htemplate : parse naming (String.ofList (before ++ ['\x7b', '\x7d'] ++ after)) = .ok u := by
    rw [← htext, String.ofList_toList, hu]
  rcases h.exists_read with ⟨fault, hfault⟩ | ⟨v, hhttp, hhost, hall⟩
  · rw [hfault _ hwithin houter] at htemplate
    cases htemplate
  · rw [hall _ hwithin houter, hwritten, Except.ok.injEq] at htemplate
    subst htemplate
    refine ⟨hhttp, hhost, rfl, fun request => ?_⟩
    have hread := hall (Form.encode request.toList)
      (fun c hc => Form.not_endsAuthority_of_isWritten (Form.isWritten_of_mem_encode hc))
      (fun c hc => by
        have := Form.not_blank_of_isWritten (Form.isWritten_of_mem_encode hc)
        simpa [isOuter] using this)
    rw [fill, hfill, hread, written, Form.encode_written]
    rfl

/-! ## Different requests -/

/-- A segment that is no dots stays where it is. -/
lemma placedAt_name {segment : String} (h : isDots segment = false) :
    placedAt before after segment = .segments
      ((partsBefore before).map written ++ segment :: (partsAfter after).map written) := by
  rw [isDots, Bool.or_eq_false_iff] at h
  simp [placedAt, placed, h.1, h.2]

/-- Only a dot and two dots are not encoded as a name. -/
lemma isDots_encoded {request : String} (hsingle : request ≠ ".") (hdouble : request ≠ "..") :
    isDots (encoded request) = false := by
  have hne : ∀ cs, request ≠ String.ofList cs → request.toList ≠ cs := by
    rintro cs hne rfl
    exact hne (String.ofList_toList).symm
  rw [isDots, Bool.or_eq_false_iff]
  constructor
  · rw [Bool.eq_false_iff]
    exact fun h => hne ['.'] hsingle (isSingleDot_encode.mp h)
  · rw [Bool.eq_false_iff]
    exact fun h => hne ['.', '.'] hdouble (isDoubleDot_encode.mp h)

lemma encoded_injective : Function.Injective encoded := fun _ _ h =>
  String.toList_inj.mp (Form.encode_injective (String.ofList_injective h))

/-- **Addresses that differ in one segment differ.** -/
lemma asked_injective (hhost : u.host.isSome = true) (names names' : List String)
    {segment segment' : String}
    (h : asked { u with path := .segments (names ++ segment :: names') }
      = asked { u with path := .segments (names ++ segment' :: names') }) :
    segment = segment' := by
  obtain ⟨host, hhost⟩ := Option.isSome_iff_exists.mp hhost
  -- what stands before the segment and what stands behind it is the same on both sides
  simpa [asked, withoutCredentials, text, authority, hhost, UrlPath.text,
    credentials, String.join_append, String.join_cons, String.append_assoc] using h

end Template

end Url

/-! ## What a session asks for -/

namespace Session

open Url Url.Template

variable {naming : Naming} {template : String} {before after : List Char} {u : Url}

/-- The call of a session's crawl function asks for the address of its request. -/
lemma fetchFor_eq (s : Session) (network : Network) (hn : network.naming = naming)
    (earlier : List String) {request : String} {url : Url}
    (hu : parse naming (fill template request) = .ok url) :
    s.fetchFor network template earlier request
      = (network.send s.allowed (earlier.map (fill template)) url).fetched
        (fill template request) := by
  subst hn
  rw [fetchFor, fetch, hu]

/-- It does so first, and follows redirects then. -/
lemma asked_hitsOf (s : Session) (web : Web) (earlier : List String) {request : String} {url : Url}
    (hu : parse naming (fill template request) = .ok url) (hw : url.isHttp = true) :
    url.asked :: s.hitsOf (.following naming web) template earlier
      <:+ s.hitsOf (.following naming web) template (request :: earlier) := by
  obtain ⟨later, hlater⟩ := View.asked_follow (web (earlier.map (fill template))) s.allowed
    redirectLimit [] 0 hw
  have hhits : (s.fetchFor (.following naming web) template earlier request).hits
      = later ++ [url.asked] := by
    rw [fetchFor_eq s (.following naming web) rfl earlier hu]
    exact hlater.symm
  rw [hitsOf, hhits, List.append_assoc, List.singleton_append]
  exact List.suffix_append _ _

/-- **What a template makes of requests**, when its placeholder is a segment of the path between the
given names. -/
structure Fills (naming : Naming) (template : String) (u : Url) (names names' : List String) :
    Prop where
  path_eq : u.path = .segments (names ++ "%7B%7D" :: names')
  /-- A request is a segment in the place of the placeholder, and all else is as in the template. -/
  parse_eq : ∀ request, request ≠ "." → request ≠ ".." → parse naming (fill template request)
    = .ok { u with path := .segments (names ++ encoded request :: names') }
  /-- A dot is taken out of the path, and two dots are with the name before them. -/
  parse_dot : parse naming (fill template ".")
    = .ok { u with path := .segments (names ++ if names'.isEmpty then [""] else names') }
  parse_dots : parse naming (fill template "..")
    = .ok { u with path := .segments (names.dropLast ++ if names'.isEmpty then [""] else names') }
  /-- Different requests that are names have different addresses. -/
  asked_ne : ∀ request request' url url', request ∉ [".", ".."] → request' ∉ [".", ".."] →
    request ≠ request' → parse naming (fill template request) = .ok url →
    parse naming (fill template request') = .ok url' → url.asked ≠ url'.asked

lemma fills_of_isSegment (h : IsSegment template before after)
    (hu : parse naming template = .ok u) :
    Fills naming template u ((partsBefore before).map written)
      ((partsAfter after).map written) := by
  obtain ⟨-, hhost, hpath, hall⟩ := h.parse_fill hu
  have hname : ∀ request, request ≠ "." → request ≠ ".." → parse naming (fill template request)
      = .ok { u with path := .segments ((partsBefore before).map written ++
          encoded request :: (partsAfter after).map written) } := by
    intro request hsingle hdouble
    rw [hall, placedAt_name (isDots_encoded hsingle hdouble)]
  refine ⟨?_, hname, hall ".", hall "..", ?_⟩
  · rw [hpath, placedAt_name (by decide)]
  · intro request request' url url' hr hr' hne hurl hurl'
    simp only [List.mem_cons, List.not_mem_nil, or_false, not_or] at hr hr'
    rw [hname request hr.1 hr.2, Except.ok.injEq] at hurl
    rw [hname request' hr'.1 hr'.2, Except.ok.injEq] at hurl'
    rw [← hurl, ← hurl']
    exact fun hsame => hne (encoded_injective (asked_injective hhost _ _ hsame))

/-- **A request stays in its segment, unless it is a dot or two.**

Let the first placeholder of a template be a segment of its path, and no other segment dots, and let
the template be an address.  Then every request other than `.` and `..` becomes a segment of the
same path, encoded, and the address has the same scheme, host, port, query and fragment as the
template. Different requests have different addresses.  The call for a request asks the network for
its address and for nothing else, and a client that follows redirects reaches this address first. -/
theorem request_stays_in_its_segment (h : IsSegment template before after)
    (hu : parse naming template = .ok u) :
    Fills naming template u ((partsBefore before).map written)
      ((partsAfter after).map written) ∧
    ∀ (s : Session) (earlier : List String) (request : String),
      ∃ url, parse naming (fill template request) = .ok url ∧
        (∀ network : Network, network.naming = naming →
          s.fetchFor network template earlier request
            = (network.send s.allowed (earlier.map (fill template)) url).fetched
              (fill template request)) ∧
        ∀ web, url.asked :: s.hitsOf (.following naming web) template earlier
          <:+ s.hitsOf (.following naming web) template (request :: earlier) := by
  refine ⟨fills_of_isSegment h hu, fun s earlier request => ?_⟩
  obtain ⟨hhttp, -, -, hall⟩ := h.parse_fill hu
  have hurl := hall request
  exact ⟨_, hurl, fun network hn => s.fetchFor_eq network hn earlier hurl,
    fun web => s.asked_hitsOf web earlier hurl hhttp⟩

/-- A template with a name, a query and a second pair of braces, for a request with slashes. -/
theorem request_stays_in_its_segment_slashes :
    let naming : Naming := Url.Domain.toAscii
    let template := "http://me@Portal.test:80/case//\x7b\x7d/page?of=\x7b\x7d#end"
    let before := "http://me@Portal.test:80/case//".toList
    let after := "/page?of=\x7b\x7d#end".toList
    let u : Url := {
      scheme := "http", username := "me", host := some (.name "portal.test"),
      path := .segments ["case", "", "%7B%7D", "page"],
      query := some "of=\x7b\x7d", fragment := some "end" }
    IsSegment template before after ∧ parse naming template = .ok u ∧
    parse naming (fill template "../?")
      = .ok { u with path := .segments ["case", "", "..%2F%3F", "page"] } ∧
    parse naming (fill template "..") = .ok { u with path := .segments ["case", "page"] } := by
  intro naming template before after u
  have hparse : parse naming template = .ok u := by decide +kernel
  have hpath : (location (opening before)).all (fun c => c != '?' && c != '#') = true := by
    decide +kernel
  have hsegment : IsSegment template before after := {
    cut_eq := by decide +kernel
    scheme_eq := by decide +kernel
    opened := by decide +kernel
    in_path := by simpa using hpath
    closed := by decide +kernel
    undotted := by decide +kernel }
  obtain ⟨hfills, -⟩ := request_stays_in_its_segment hsegment hparse
  have hparts : (partsBefore before).map written = ["case", ""] ∧
      (partsAfter after).map written = ["page"] := by
    decide +kernel
  rw [hparts.1, hparts.2] at hfills
  have hname := hfills.parse_eq "../?" (by decide) (by decide)
  have hencoded : encoded "../?" = "..%2F%3F" := by decide +kernel
  rw [hencoded] at hname
  exact ⟨hsegment, hparse, hname, hfills.parse_dots⟩

/-- **Dots leave their segment.**  For this template two dots lead out of the directory of the
cases, and a dot has the address of the request without any text. -/
theorem dots_leave_their_segment :
    let naming : Naming := Url.Domain.toAscii
    let template := "http://portal.test/case/\x7b\x7d"
    let u : Url := {
      scheme := "http", host := some (.name "portal.test"),
      path := .segments ["case", "%7B%7D"] }
    IsSegment template "http://portal.test/case/".toList [] ∧ parse naming template = .ok u ∧
    parse naming (fill template "..") = .ok { u with path := .segments [""] } ∧
    parse naming (fill template ".") = .ok { u with path := .segments ["case", ""] } ∧
    parse naming (fill template "") = .ok { u with path := .segments ["case", ""] } := by
  intro naming template u
  have hpath : (location (opening "http://portal.test/case/".toList)).all
      (fun c => c != '?' && c != '#') = true := by
    decide +kernel
  refine ⟨⟨by decide +kernel, by decide +kernel, by decide +kernel, by simpa using hpath,
    by decide +kernel, by decide +kernel⟩, by decide +kernel, by decide +kernel, by decide +kernel,
    by decide +kernel⟩

end Session

end PageCrawl
