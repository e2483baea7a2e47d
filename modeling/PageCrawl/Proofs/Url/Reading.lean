import PageCrawl.Proofs.Url.Written

/-!
# What the parts of an address depend on

An address is read from left to right, and each of its parts ends at the first character that does
not belong to it.  So what a part says does not depend on what comes behind that character.

**Scheme and host.**  A scheme is read up to its colon (`takeScheme_append`), and name, password,
host and port up to the slash behind them: `takeAuthority_before` states, for all that may follow
this slash at once, that they are read or cannot be read.

**Path.**  Slashes cut a path into segments, so a segment in the middle of a path is cut out of it
whatever it says (`split_between`).  Where it ends up is another matter: `placed` is the path with
the segment at its place, or without it if it says where to go (`follow_placed`).

**The address.**  Blanks at its ends and line breaks do not count, and those in front of a text and
behind it can be taken away before the text is put between them: `stripped_around`.  Then
`readScheme_between` puts the parts together: with another segment in the middle of its path an
address differs in its path only.
-/

namespace PageCrawl.Url

open Text

variable {naming : Naming} {s : Char} {cs zone : List Char} {scheme : String} {u : Url}

/-! ## Scheme and host -/

lemma takeWhile_stop {p : Char → Bool} (hs : p s = false) (tail : List Char) :
    ∀ cs : List Char, (cs ++ s :: tail).takeWhile p = cs.takeWhile p
  | [] => by simp [hs]
  | c :: cs => by
      rw [List.cons_append, List.takeWhile_cons, List.takeWhile_cons, takeWhile_stop hs tail cs]

lemma dropWhile_stop {p : Char → Bool} (hs : p s = false) (tail : List Char) :
    ∀ cs : List Char, (cs ++ s :: tail).dropWhile p = cs.dropWhile p ++ s :: tail
  | [] => by simp [hs]
  | c :: cs => by
      rw [List.cons_append, List.dropWhile_cons, List.dropWhile_cons, dropWhile_stop hs tail cs]
      split_ifs <;> rfl

/-- Whether a character can stand in a scheme. -/
def inScheme (c : Char) : Bool := c.isAlphanum || c == '+' || c == '-' || c == '.'

/-- What a scheme is: a letter and more, up to the colon. -/
lemma takeScheme_eq_some {rest : List Char} : takeScheme cs = some (scheme, rest) ↔
    ∃ name, cs = name ++ ':' :: rest ∧ (∀ c ∈ name, inScheme c = true) ∧
      name.head?.any Char.isAlpha = true ∧ scheme = String.ofList (name.map Char.toLower) := by
  have hpart : (fun c : Char => c.isAlphanum || c == '+' || c == '-' || c == '.') = inScheme := rfl
  simp only [takeScheme, hpart]
  constructor
  · intro h
    split at h
    · next colon hcolon =>
        split_ifs at h with hletter
        simp only [Option.some.injEq, Prod.mk.injEq] at h
        obtain ⟨rfl, rfl⟩ := h
        have hsplit := List.takeWhile_append_dropWhile (p := inScheme) (l := cs)
        rw [hcolon] at hsplit
        refine ⟨_, hsplit.symm, fun c hc => List.mem_takeWhile_imp hc, ?_, rfl⟩
        rw [← hsplit, List.head?_append] at hletter
        cases hname : cs.takeWhile inScheme with
        | nil =>
            rw [hname] at hletter
            simp at hletter
        | cons c name =>
            rw [hname] at hletter
            exact hletter
    · cases h
  · rintro ⟨name, rfl, hname, hletter, rfl⟩
    have hcolon : inScheme ':' = false := by decide
    have hhead : (name ++ ':' :: rest).head?.any Char.isAlpha = true := by
      cases name with
      | nil => cases hletter
      | cons c name => exact hletter
    rw [dropWhile_stop hcolon, takeWhile_stop hcolon, List.dropWhile_eq_nil_iff.mpr hname,
      List.takeWhile_eq_self_iff.mpr hname]
    exact if_pos hhead

lemma takeScheme_append {rest : List Char} (h : takeScheme cs = some (scheme, rest))
    (more : List Char) : takeScheme (cs ++ more) = some (scheme, rest ++ more) := by
  obtain ⟨name, rfl, hname, hletter, rfl⟩ := takeScheme_eq_some.mp h
  exact takeScheme_eq_some.mpr ⟨name, by simp, hname, hletter, rfl⟩

/-- A text that does not reach past the host. -/
def Within (zone : List Char) : Prop := ∀ c ∈ zone, endsAuthority true c = false

lemma takeWhile_within (hz : Within zone) (hs : endsAuthority true s = true) (tail : List Char) :
    (zone ++ s :: tail).takeWhile (fun c => !endsAuthority true c) = zone := by
  rw [takeWhile_stop (by simp [hs]), List.takeWhile_eq_self_iff]
  exact fun c hc => by simp [hz c hc]

lemma splitAtLast_within {mark : Char} {info after : List Char} (hz : Within zone)
    (h : splitAtLast mark zone = some (info, after)) : Within after := by
  unfold splitAtLast at h
  split_ifs at h
  simp only [Option.some.injEq, Prod.mk.injEq] at h
  obtain ⟨-, rfl⟩ := h
  intro c hc
  exact hz c (by simpa using List.takeWhile_subset _ (List.mem_reverse.mp hc))

/-- Name and password end before the host does. -/
lemma takeCredentials_before (hz : Within zone) (hs : endsAuthority true s = true) :
    (∃ fault, ∀ tail, takeCredentials true (zone ++ s :: tail) = .error fault) ∨
      ∃ name password host, Within host ∧ ∀ tail,
        takeCredentials true (zone ++ s :: tail) = .ok (name, password, host ++ s :: tail) := by
  unfold takeCredentials
  simp only [takeWhile_within hz hs, List.drop_left]
  cases hsplit : splitAtLast '@' zone with
  | none => exact .inr ⟨"", "", zone, hz, fun tail => rfl⟩
  | some cut =>
      obtain ⟨info, after⟩ := cut
      have hafter := splitAtLast_within hz hsplit
      by_cases hinfo : info.isEmpty = true
      · cases after with
        | nil => exact .inl ⟨.emptyHost, fun tail => by simp [hinfo, hs]⟩
        | cons c after =>
            have hc := hafter c List.mem_cons_self
            exact .inr ⟨"", "", c :: after, hafter, fun tail => by simp [hinfo, hc]⟩
      · exact .inr ⟨_, _, after, hafter, fun tail => if_neg hinfo⟩

/-- The host ends at its colon, if it does not end with the text. -/
lemma spanHost_before (hs : endsAuthority true s = true) : ∀ (host : List Char) (inside : Bool),
    Within host → ∃ text rest, Within rest ∧ (rest = [] ∨ ∃ port, rest = ':' :: port) ∧
      ∀ tail, spanHost true inside (host ++ s :: tail) = (text, rest ++ s :: tail)
  | [], inside, _ => ⟨[], [], by simp [Within], .inl rfl, fun tail => by simp [spanHost, hs]⟩
  | c :: host, inside, h => by
      have hc := h c List.mem_cons_self
      by_cases hcolon : (c == ':' && !inside) = true
      · have heq : c = ':' := by simpa using (Bool.and_eq_true_iff.mp hcolon).1
        refine ⟨[], c :: host, h, .inr ⟨host, by rw [heq]⟩, fun tail => ?_⟩
        rw [List.cons_append, spanHost, if_pos (by simp [hcolon])]
      · obtain ⟨text, rest, hrest, hport, hall⟩ := spanHost_before hs host
          (if c == '[' then true else if c == ']' then false else inside)
          fun d hd => h d (List.mem_cons_of_mem c hd)
        refine ⟨c :: text, rest, hrest, hport, fun tail => ?_⟩
        rw [List.cons_append, spanHost, if_neg (by simp [hcolon, hc])]
        simp only [hall]

lemma not_isDigit_of_endsAuthority (hs : endsAuthority true s = true) : s.isDigit = false := by
  simp only [endsAuthority, isSlash, Bool.or_eq_true, beq_iff_eq, Bool.true_and] at hs
  rcases hs with ((rfl | rfl) | rfl) | rfl <;> decide

/-- The port ends where the host does. -/
lemma takePort_before (scheme : String) {port : List Char} (hz : Within port)
    (hs : endsAuthority true s = true) :
    (∃ fault, ∀ tail, takePort scheme (port ++ s :: tail) = .error fault) ∨
      ∃ n, ∀ tail, takePort scheme (port ++ s :: tail) = .ok (n, s :: tail) := by
  have hdigit := not_isDigit_of_endsAuthority hs
  simp only [takePort, takeWhile_stop hdigit, dropWhile_stop hdigit]
  cases portNumber 0 (port.takeWhile Char.isDigit) with
  | error fault => exact .inl ⟨fault, fun tail => rfl⟩
  | ok n =>
      cases hrest : port.dropWhile Char.isDigit with
      | nil => exact .inr ⟨_, fun tail => by simp [hs, Bind.bind, Except.bind]; rfl⟩
      | cons c rest =>
          -- something that is no digit stands behind the colon
          have hc : endsAuthority true c = false :=
            hz c ((List.dropWhile_suffix _).subset (hrest ▸ List.mem_cons_self))
          exact .inl ⟨.badPort, fun tail => by simp [hc, Bind.bind, Except.bind]; rfl⟩

/-- **What stands before the slash behind the host does not depend on what follows it.** -/
lemma takeAuthority_before (u : Url) (hu : isSpecial u.scheme = true) (hz : Within zone)
    (hs : endsAuthority true s = true) :
    (∃ fault, ∀ tail, takeAuthority naming u (zone ++ s :: tail) = .error fault) ∨
      ∃ v : Url, v.scheme = u.scheme ∧ v.host.isSome = true ∧
        ∀ tail, takeAuthority naming u (zone ++ s :: tail) = .ok (v, s :: tail) := by
  simp only [takeAuthority, hu]
  rcases takeCredentials_before hz hs with ⟨fault, hfault⟩ | ⟨name, password, host, hhost, hall⟩
  · exact .inl ⟨fault, fun tail => by rw [hfault]; rfl⟩
  simp only [hall]
  obtain ⟨text, rest, hrest, hport, hspan⟩ := spanHost_before hs host false hhost
  simp only [Bind.bind, Except.bind, hspan, Bool.true_and]
  have hcolon : s ≠ ':' := by
    rintro rfl
    exact absurd hs (by decide)
  cases htext : text.isEmpty with
  | true => exact .inl ⟨.emptyHost, fun tail => rfl⟩
  | false =>
      cases hread : Host.read naming text with
      | error fault => exact .inl ⟨fault, fun tail => rfl⟩
      | ok h =>
          rcases hport with rfl | ⟨port, rfl⟩
          · by_cases hempty : h = .name "" ∧ (¬name = "" ∨ ¬password = "")
            · exact .inl ⟨.emptyHost, fun tail => by simp [pure, Except.pure, hcolon, hempty]; rfl⟩
            · refine .inr ⟨{ u with username := name, password, host := some h, port := none }, rfl,
                rfl, fun tail => ?_⟩
              simp [pure, Except.pure, hcolon, hempty]
          · have hport : Within port := fun c hc => hrest c (List.mem_cons_of_mem _ hc)
            by_cases hname : h = .name ""
            · exact .inl ⟨.emptyHost, fun tail => by simp [hname]; rfl⟩
            rcases takePort_before u.scheme hport hs with ⟨fault, hfault⟩ | ⟨n, hn⟩
            · exact .inl ⟨fault, fun tail => by simp [hname, hfault]⟩
            · refine .inr ⟨{ u with username := name, password, host := some h, port := n }, rfl,
                rfl, fun tail => ?_⟩
              simp [pure, Except.pure, hname, hn]

/-! ## Segments -/

lemma split_unmarked {isMark : Char → Bool} : ∀ cs : List Char, (∀ c ∈ cs, isMark c = false) →
    split isMark cs = [cs]
  | [], _ => rfl
  | c :: cs, h => by
      obtain ⟨hc, hcs⟩ := List.forall_mem_cons.mp h
      simp [split, hc, split_unmarked cs hcs]

/-- A mark cuts a text in two. -/
lemma split_append_mark {isMark : Char → Bool} (hs : isMark s = true) (rest : List Char) :
    ∀ cs : List Char, split isMark (cs ++ s :: rest) = split isMark cs ++ split isMark rest
  | [] => by simp [split, hs]
  | c :: cs => by
      have ih := split_append_mark hs rest cs
      obtain ⟨part, parts, hparts⟩ := List.exists_cons_of_ne_nil (split_ne_nil isMark cs)
      rw [List.cons_append, split, split, ih, hparts]
      split_ifs <;> rfl

/-- **A part between marks is cut out of a text.** -/
lemma split_between {isMark : Char → Bool} {before part after : List Char}
    (hbefore : before.getLast?.all isMark = true) (hpart : ∀ c ∈ part, isMark c = false)
    (hafter : after.head?.all isMark = true) :
    split isMark (before ++ part ++ after)
      = (split isMark before).dropLast ++ part :: (split isMark after).tail := by
  have hbehind : split isMark (part ++ after) = part :: (split isMark after).tail := by
    cases after with
    | nil => rw [List.append_nil, split_unmarked part hpart]; rfl
    | cons c after =>
        have hc : isMark c = true := hafter
        rw [split_append_mark hc, split_unmarked part hpart, split, if_pos hc]
        rfl
  rcases List.eq_nil_or_concat' before with rfl | ⟨front, c, rfl⟩
  · exact hbehind
  · have hc : isMark c = true := by simpa using hbefore
    have hfront : split isMark (front ++ [c]) = split isMark front ++ [[]] :=
      split_append_mark hc [] front
    rw [List.append_assoc, List.append_assoc, List.singleton_append, split_append_mark hc, hbehind,
      hfront, List.dropLast_concat]

/-! ## Path -/

lemma follow_name {name : String} (h : isDots name = false) (before rest : List String) :
    follow false before (name :: rest) = follow false (before ++ [name]) rest := by
  rw [isDots, Bool.or_eq_false_iff] at h
  simp [follow, h.1, h.2]

lemma follow_append (before after : List String) : ∀ names : List String,
    (∀ name ∈ names, isDots name = false) →
      follow false before (names ++ after) = follow false (before ++ names) after := by
  intro names
  induction names generalizing before with
  | nil => simp
  | cons name names ih =>
      intro h
      obtain ⟨hname, hnames⟩ := List.forall_mem_cons.mp h
      rw [List.cons_append, follow_name hname, ih _ hnames, List.append_assoc]
      rfl

/-- Names are put one behind the other. -/
lemma follow_names (before names : List String) (h : ∀ name ∈ names, isDots name = false) :
    follow false before names = before ++ names := by
  have happend := follow_append before [] names h
  rwa [List.append_nil, follow] at happend

/-- **What a segment makes of a path** in which it stands between names: it stays where it is, or
it is taken out, with the name before it if it says so.  At the end an empty segment remains. -/
def placed (before after : List String) (segment : String) : List String :=
  let after' := if after.isEmpty then [""] else after
  if isDoubleDot segment then before.dropLast ++ after'
  else if isSingleDot segment then before ++ after'
  else before ++ segment :: after

lemma shortened_eq (names : List String) : shortened false names = names.dropLast := by
  unfold shortened
  split <;> simp

lemma follow_placed (before after : List String) (segment : String)
    (hbefore : ∀ name ∈ before, isDots name = false)
    (hafter : ∀ name ∈ after, isDots name = false) :
    follow false [] (before ++ segment :: after) = placed before after segment := by
  rw [follow_append _ _ _ hbefore, List.nil_append, placed]
  by_cases hdouble : isDoubleDot segment = true
  · rw [follow, if_pos hdouble, if_pos hdouble, follow_names _ _ hafter, shortened_eq]
    cases after with
    | nil => simp
    | cons name after => simp
  by_cases hsingle : isSingleDot segment = true
  · rw [follow, if_neg hdouble, if_neg hdouble, if_pos hsingle, if_pos hsingle,
      follow_names _ _ hafter]
    cases after with
    | nil => simp
    | cons name after => simp
  · have hname : isDots segment = false := by simp [isDots, hdouble, hsingle]
    rw [if_neg hdouble, if_neg hsingle, follow_name hname, follow_names _ _ hafter,
      List.append_assoc]
    rfl

/-- A segment as it stands in an address. -/
def written (part : List Char) : String := String.ofList (Percent.encode Percent.inPath part)

lemma readTail_path (u : Url) (path : UrlPath) (cs : List Char) :
    readTail { u with path } cs = { readTail u cs with path } := by
  unfold readTail
  split
  rfl

lemma readTail_host (u : Url) (cs : List Char) :
    (readTail u cs).scheme = u.scheme ∧ (readTail u cs).host = u.host := by
  unfold readTail
  split
  exact ⟨rfl, rfl⟩

lemma inZone_of_within {c : Char} (h : endsAuthority true c = false) :
    isSlash true c = false ∧ (!(c == '?' || c == '#')) = true := by
  rw [endsAuthority, Bool.or_assoc, Bool.or_eq_false_iff] at h
  exact ⟨h.1, by simp [h.2]⟩

/-- What follows the host and is part of the path begins with a slash. -/
lemma pathZone_marked {after : List Char} (h : after.head?.all (endsAuthority true) = true) :
    (pathZone after).head?.all (isSlash true) = true := by
  cases after with
  | nil => rfl
  | cons c after =>
      have hc : endsAuthority true c = true := h
      rw [endsAuthority, Bool.or_assoc, Bool.or_eq_true] at hc
      rw [pathZone, List.takeWhile_cons]
      rcases hc with hslash | hmark
      · split_ifs
        · exact hslash
        · rfl
      · rw [if_neg (by simp [hmark])]
        rfl

/-- **A segment in the middle of a path**, read with what stands before it and after it. -/
lemma readRest_between {before part after : List Char} (hu : isSpecial u.scheme = true)
    (hfile : u.scheme ≠ "file") (hs : isSlash true s = true)
    (hbefore : before.getLast?.all (isSlash true) = true)
    (hzone : ∀ c ∈ before, c ≠ '?' ∧ c ≠ '#') (hpart : Within part)
    (hafter : after.head?.all (endsAuthority true) = true) :
    readRest u (s :: (before ++ part ++ after)) =
      { readTail u (afterPath after) with
        path := .segments (follow false []
          (((split (isSlash true) before).dropLast ++
            part :: (split (isSlash true) (pathZone after)).tail).map written)) } := by
  have hfront : ∀ c ∈ s :: (before ++ part), (!(c == '?' || c == '#')) = true := by
    intro c hc
    rcases List.mem_cons.mp hc with rfl | hc
    · rw [isSlash, Bool.or_eq_true, beq_iff_eq] at hs
      rcases hs with rfl | hs
      · decide
      · rw [beq_iff_eq.mp (Bool.and_eq_true_iff.mp hs).2]
        decide
    · rcases List.mem_append.mp hc with hc | hc
      · simpa using hzone c hc
      · exact (inZone_of_within (hpart c hc)).2
  have hpath : pathZone (s :: (before ++ part ++ after))
      = s :: (before ++ part ++ pathZone after) := by
    rw [pathZone, ← List.cons_append, List.takeWhile_append_of_pos hfront, pathZone]
    rfl
  have htail : afterPath (s :: (before ++ part ++ after)) = afterPath after := by
    rw [afterPath, ← List.cons_append, List.dropWhile_append_of_pos hfront, afterPath]
  have hnotfile : (u.scheme == "file") = false := beq_eq_false_iff_ne.mpr hfile
  have hsplit := split_between hbefore (fun c hc => (inZone_of_within (hpart c hc)).1)
    (pathZone_marked hafter)
  simp only [readRest, hpath, htail, hu, List.isEmpty_cons, List.head?_cons, Option.any_some, hs,
    List.drop_one, List.tail_cons, ↓reduceIte, Bool.false_eq_true, readTail_path, readSegments,
    hnotfile, Bool.false_and, hsplit]
  rfl

/-! ## Blanks -/

/-- Blanks and controls, which do not count around an address. -/
def isOuter (c : Char) : Bool := c.toNat ≤ 0x20

/-- Whether a character counts in an address. -/
def inLine (c : Char) : Bool := !(c == '\t' || c == '\n' || c == '\r')

/-- What is read of the front of a text. -/
def opening (cs : List Char) : List Char := (cs.dropWhile isOuter).filter inLine

/-- What is read of the end of a text. -/
def closing (cs : List Char) : List Char := (cs.rdropWhile isOuter).filter inLine

lemma inLine_of_not_outer {c : Char} (h : isOuter c = false) : inLine c = true := by
  rw [inLine, Bool.not_eq_true', Bool.or_eq_false_iff, Bool.or_eq_false_iff]
  refine ⟨⟨?_, ?_⟩, ?_⟩ <;> (rw [beq_eq_false_iff_ne]; rintro rfl; exact absurd h (by decide))

/-- What does not count at the end does not count in the text either. -/
lemma closing_eq {cs : List Char} (h : (cs.filter inLine).getLast?.all (!isOuter ·) = true) :
    closing cs = cs.filter inLine := by
  induction cs using List.reverseRecOn with
  | nil => rfl
  | append_singleton cs c ih =>
      rw [closing, List.rdropWhile_concat]
      split_ifs with hc
      · -- a blank that counts would be the last character that counts
        cases hline : inLine c with
        | true => simp [hline, hc] at h
        | false =>
            have hsame : (cs ++ [c]).filter inLine = cs.filter inLine := by simp [hline]
            rw [hsame] at h ⊢
            exact ih h
      · rfl

lemma rdropWhile_append (p : Char → Bool) (cs cs' : List Char) : (cs ++ cs').rdropWhile p =
    if (cs'.rdropWhile p).isEmpty then cs.rdropWhile p else cs ++ cs'.rdropWhile p := by
  simp only [List.rdropWhile, List.reverse_append, List.dropWhile_append, List.isEmpty_reverse]
  split_ifs with h
  · rfl
  · simp

/-- **A text that is put between two others is read as it is**, if blanks neither begin nor end it
and do not stand before it. -/
lemma stripped_around {before part after : List Char}
    (hbefore : (opening before).getLast?.any (!isOuter ·) = true)
    (hpart : ∀ c ∈ part, isOuter c = false) :
    stripped (before ++ part ++ after) = opening before ++ part ++ closing after := by
  have hfilter : part.filter inLine = part :=
    List.filter_eq_self.mpr fun c hc => inLine_of_not_outer (hpart c hc)
  have hne : (before.dropWhile isOuter).isEmpty = false := by
    cases hdrop : before.dropWhile isOuter with
    | nil => simp [opening, hdrop] at hbefore
    | cons c cs => rfl
  have hfront : (before ++ part ++ after).dropWhile isOuter
      = before.dropWhile isOuter ++ part ++ after := by
    rw [List.append_assoc, List.dropWhile_append, hne, List.append_assoc]
    rfl
  have hstripped : stripped (before ++ part ++ after)
      = closing (before.dropWhile isOuter ++ part ++ after) := by
    rw [← hfront]
    rfl
  have hvisible : ((before.dropWhile isOuter ++ part).filter inLine).getLast?.all (!isOuter ·)
      = true := by
    rw [List.filter_append, hfilter, List.getLast?_append]
    cases hlast : part.getLast? with
    | some c => simp [hpart c (List.mem_of_getLast? hlast)]
    | none =>
        rw [opening] at hbefore
        cases hopen : ((before.dropWhile isOuter).filter inLine).getLast? with
        | none => rfl
        | some c => simpa [hopen] using hbefore
  rw [hstripped, closing, rdropWhile_append]
  split_ifs with hafter
  · rw [← closing, closing_eq hvisible, List.filter_append, hfilter, closing,
      List.isEmpty_iff.mp hafter, List.filter_nil, List.append_nil]
    rfl
  · rw [List.filter_append, List.filter_append, hfilter]
    rfl

/-! ## The address -/

/-- **An address with a segment in the middle of its path.**  Whether it can be read, and what its
other parts say, does not depend on the segment. -/
lemma readScheme_between {rest before after : List Char} (hspecial : isSpecial scheme = true)
    (hfile : scheme ≠ "file") (hrest : rest.dropWhile (isSlash true) = zone ++ s :: before)
    (hzone : Within zone) (hs : isSlash true s = true)
    (hbefore : before.getLast?.all (isSlash true) = true)
    (hpath : ∀ c ∈ before, c ≠ '?' ∧ c ≠ '#')
    (hafter : after.head?.all (endsAuthority true) = true) :
    (∃ fault, ∀ part, Within part →
      readScheme naming scheme (rest ++ part ++ after) = .error fault) ∨
      ∃ v : Url, v.scheme = scheme ∧ v.host.isSome = true ∧ ∀ part, Within part →
        readScheme naming scheme (rest ++ part ++ after) = .ok { v with
          path := .segments (follow false []
            (((split (isSlash true) before).dropLast ++
              part :: (split (isSlash true) (pathZone after)).tail).map written)) } := by
  have hends : endsAuthority true s = true := by
    rw [endsAuthority, hs]
    rfl
  have hdrop : ∀ part, (rest ++ part ++ after).dropWhile (isSlash true)
      = zone ++ s :: (before ++ part ++ after) := by
    intro part
    rw [List.append_assoc, List.dropWhile_append, hrest]
    simp
  have hread : ∀ part, readScheme naming scheme (rest ++ part ++ after)
      = (takeAuthority naming { scheme } (zone ++ s :: (before ++ part ++ after))).bind
        fun found => .ok (readRest found.1 found.2) := by
    intro part
    rw [readScheme.eq_def, if_neg (by simpa using hfile), if_pos hspecial, hdrop]
    rfl
  simp only [hread]
  rcases takeAuthority_before { scheme } hspecial hzone hends with
    ⟨fault, hfault⟩ | ⟨v, hv, hhost, hall⟩
  · exact .inl ⟨fault, fun part _ => by rw [hfault]; rfl⟩
  · subst hv
    obtain ⟨htail, hhost'⟩ := readTail_host v (afterPath after)
    refine .inr ⟨readTail v (afterPath after), htail, by rw [hhost', hhost], fun part hpart => ?_⟩
    · rw [hall]
      exact congrArg _ (readRest_between hspecial hfile hs hbefore hpath hpart hafter)

end PageCrawl.Url
