import Mathlib
import PageCrawl.Proofs.Html.Late

/-!
# Up to the body

Before the body a page has few elements open, all of them plain, and how many is told by the mode
(`Early`).  From the end of the head on the outermost element has a child, the head (`Filled`), so
that the body when it is made stands behind an older node, and is anchored: `steady_startBody`.

A step from an early page leads to an early one, to a steady one in a late mode, or to one in which
a frameset is barred (`Early.step`).
-/

namespace PageCrawl.Html.Build

-- rules are long sequences, and every step of one counts
set_option synthInstance.maxSize 4096

variable {b b' : Builder} {n : NodeId} {k : Nat} {α : Type} {x : Build α}

/-- An element of HTML that is neither a body nor a template. -/
def Plain (t : Tree) (n : NodeId) : Prop :=
  ∃ name, t.label? n = some (.html, name) ∧ name ≠ "body" ∧ name ≠ "template"

/-- Before the body: so many elements are open, and nothing else is remembered. -/
structure Leading (b : Builder) (k : Nat) : Prop where
  inPlace : b.fostering = false
  formatting : b.formatting = []
  opened : b.opened.length = k
  plain : ∀ n ∈ b.opened, Plain b.tree n
  head : ∀ n, b.head = some n → Plain b.tree n

/-- The outermost element has a child. -/
def Filled (b : Builder) : Prop := ∀ n, b.opened.getLast? = some n → (b.tree.firstChild? n).isSome

lemma Plain.lt_size {t : Tree} (h : Plain t n) : n < t.nodes.size := by
  obtain ⟨name, hname, -⟩ := h
  exact Tree.lt_size_of_label? hname

lemma Plain.grow {t t' : Tree} (h : Plain t n) (hgrown : t.Grown t') : Plain t' n := by
  have hlt := h.lt_size
  obtain ⟨name, hname, hne⟩ := h
  exact ⟨name, (hgrown.label n hlt).trans hname, hne⟩

lemma Plain.noBody {t : Tree} (h : Plain t n) : t.label? n ≠ some (.html, "body") := by
  obtain ⟨name, hname, hne, -⟩ := h
  rw [hname]
  exact fun heq => hne (congrArg Prod.snd (Option.some.inj heq))

lemma Plain.noTemplate {t : Tree} (h : Plain t n) : t.label? n ≠ some (.html, "template") := by
  obtain ⟨name, hname, -, hne⟩ := h
  rw [hname]
  exact fun heq => hne (congrArg Prod.snd (Option.some.inj heq))

/-- Without a body among the open elements and without formatting a page is steady. -/
lemma Leading.steady (h : Leading b k) : Steady b := by
  refine ⟨h.inPlace, fun n hn => (h.plain n hn).lt_size, fun n hn => (h.plain n hn).noTemplate,
    List.pairwise_of_forall_mem_list fun m hm n hn hor => ?_, fun g hg => ?_, fun n tag hn => ?_⟩
  · exact (hor.elim (h.plain m hm).noBody (h.plain n hn).noBody).elim
  · exact absurd hg.2 (h.plain g hg.1).noBody
  · rw [h.formatting] at hn
    cases hn

/-! ## Actions before the body -/

lemma Leading.add (h : Leading b k) (hadded : Added b b') : Leading b' k := by
  rw [hadded.rest]
  exact ⟨h.inPlace, h.formatting, h.opened, fun n hn => (h.plain n hn).grow hadded.grown,
    fun n hn => (h.head n hn).grow hadded.grown⟩

lemma Filled.add (h : Filled b) (hadded : Added b b') : Filled b' := by
  intro n hn
  refine hadded.children n (h n ?_)
  rw [hadded.rest] at hn
  exact hn

lemma Leading.push (h : Leading b k) (hn : Plain b.tree n) :
    Leading { b with opened := n :: b.opened } (k + 1) :=
  ⟨h.inPlace, h.formatting, congrArg (· + 1) h.opened, List.forall_mem_cons.mpr ⟨hn, h.plain⟩,
    h.head⟩

/-- Neither the mode nor the layout of tables plays a part in this. -/
lemma Leading.anew (h : Leading b k) (m m' : Mode) (legacy : Bool) :
    Leading { b with mode := m, returnMode := m', legacyTables := legacy } k :=
  ⟨h.inPlace, h.formatting, h.opened, h.plain, h.head⟩

/-- The current element is closed. -/
lemma Leading.pop (h : Leading b (k + 1)) {m : NodeId} (hpop : pop b = some (m, b')) :
    Leading b' k ∧ b'.mode = b.mode ∧ b'.returnMode = b.returnMode ∧ b'.tree = b.tree ∧
      b'.opened = b.opened.tail := by
  obtain ⟨c, b₁, hget, h'⟩ := bind_eq_some hpop
  cases hget
  cases hopened : b.opened with
  | nil =>
      have := h.opened
      rw [hopened] at this
      cases this
  | cons n rest =>
      rw [hopened] at h'
      cases h'
      have hlength := h.opened
      have hplain := h.plain
      rw [hopened] at hlength hplain
      have hrest := (List.forall_mem_cons.mp hplain).2
      exact ⟨⟨h.inPlace, h.formatting, Nat.succ.inj hlength, hrest, h.head⟩, rfl, rfl, rfl, rfl⟩

/-- The outermost element stays open when another one is closed. -/
lemma Filled.pop (h : Filled b) (htree : b'.tree = b.tree)
    (hopened : b'.opened = b.opened.tail) : Filled b' := by
  intro n hn
  rw [htree]
  refine h n ?_
  rw [hopened] at hn
  cases hb : b.opened with
  | nil => rw [hb] at hn; cases hn
  | cons m rest =>
      rw [hb] at hn
      cases rest with
      | nil => cases hn
      | cons => exact hn

/-- What is inserted is appended to the current element. -/
lemma Leading.append_eq {e : Element} {c : NodeId} {rest : List NodeId} (h : Leading b k)
    (hopened : b.opened = c :: rest) (he : e.isHtml "template" = false)
    (hinsert : insert e b = some (n, b')) :
    ∃ t, (b.tree.add (.element e)).1.append c b.tree.nodes.size = some t ∧
      b' = { b with tree := t } := by
  obtain ⟨m, b₁, hnew, h'⟩ := bind_eq_some hinsert
  obtain ⟨place, b₂, hplaced, h'⟩ := bind_eq_some h'
  obtain ⟨u, b₃, hput, h'⟩ := bind_eq_some h'
  cases h'
  obtain rfl := placeFor_eq hplaced
  -- an element that is no template is made without content
  obtain ⟨m', b₃, hnode, hmade⟩ := bind_eq_some hnew
  rw [he] at hmade
  cases hmade
  have hadded := Added.newNode hnode
  have hlead := h.add hadded
  have hopened' := hadded.opened.trans hopened
  rw [placeFor_none hopened'] at hplaced
  obtain ⟨p, rfl, hp⟩ := placeFor_some hlead.inPlace hplaced
  obtain rfl := hp (hlead.plain c (hopened' ▸ List.mem_cons_self)).noTemplate
  obtain ⟨rfl, rfl⟩ := newNode_eq hnode
  obtain ⟨t, ht, rfl⟩ := changeTree_eq_some hput
  exact ⟨t, ht, rfl⟩

/-- What is inserted becomes a child of the current element. -/
lemma Leading.child {e : Element} {c : NodeId} {rest : List NodeId} (h : Leading b k)
    (hopened : b.opened = c :: rest) (he : e.isHtml "template" = false)
    (hinsert : insert e b = some (n, b')) : (b'.tree.firstChild? c).isSome := by
  obtain ⟨t, ht, rfl⟩ := h.append_eq hopened he hinsert
  have hlt := (h.plain c (hopened ▸ List.mem_cons_self)).lt_size
  have hnone := b.tree.parent?_add_self (.element e)
  exact (Tree.firstChild?_append hnone ht).1 (hlt.trans_le (Tree.Grown.add _ _).size)

/-- One more element is open before the body. -/
structure Led (b b' : Builder) (n : NodeId) (k : Nat) : Prop where
  leading : Leading b' (k + 2)
  plain : Plain b'.tree n
  opened : b'.opened = n :: b.opened
  mode : b'.mode = b.mode
  filled : k = 0 ∨ Filled b → Filled b'

lemma Leading.openElement {tag : Tag} [husual : Usual tag] (h : Leading b (k + 1))
    (hopen : openElement tag b = some (n, b')) : Led b b' n k := by
  obtain ⟨m, b₁, hinsert, h'⟩ := bind_eq_some hopen
  obtain ⟨u, b₂, hpush, h'⟩ := bind_eq_some h'
  cases h'
  cases hpush
  obtain ⟨-, -, helement, hadded⟩ := insert_eq h.inPlace hinsert
  have hlabel : b₁.tree.label? n = some (.html, tag.name) := by rw [Tree.label?, helement]; rfl
  have hplain : Plain b₁.tree n := ⟨tag.name, hlabel, husual.body, husual.template⟩
  refine ⟨(h.add hadded).push hplain, hplain, congrArg (n :: ·) hadded.opened, hadded.mode,
    fun hor last hlast => ?_⟩
  change (n :: b₁.opened).getLast? = some last at hlast
  change (b₁.tree.firstChild? last).isSome
  obtain ⟨c, rest, hopened⟩ := List.exists_cons_of_length_eq_add_one h.opened
  rw [hadded.opened, hopened, List.getLast?_cons_cons] at hlast
  rcases hor with rfl | hfilled
  -- the new element is the first child of the outermost one
  · have hlength := h.opened
    rw [hopened, List.length_cons] at hlength
    obtain rfl := List.length_eq_zero_iff.mp (Nat.succ.inj hlength)
    cases hlast
    refine h.child hopened ?_ hinsert
    simp [elementOf, Element.isHtml, husual.template]
  · exact hfilled.add hadded last (by rw [hadded.opened, hopened]; exact hlast)

/-- The outermost element is made. -/
lemma Leading.startHtml {tag : Tag} [husual : Usual tag] {u : Unit} (h : Leading b 0)
    (hstart : startHtml tag b = some (u, b')) : Leading b' 1 := by
  obtain ⟨n, b₁, hnew, h'⟩ := bind_eq_some hstart
  obtain ⟨v, b₂, hpush, happend⟩ := bind_eq_some h'
  cases hpush
  obtain ⟨t, ht, rfl⟩ := changeTree_eq_some happend
  obtain ⟨-, -, helement, hadded⟩ := newElement_eq hnew
  have hlabel : b₁.tree.label? n = some (.html, tag.name) := by rw [Tree.label?, helement]; rfl
  have hpushed := (h.add hadded).push ⟨tag.name, hlabel, husual.body, husual.template⟩
  have hgrown : b₁.tree.Grown t := .append ht
  exact ⟨hpushed.inPlace, hpushed.formatting, hpushed.opened,
    fun n hn => (hpushed.plain n hn).grow hgrown, fun n hn => (hpushed.head n hn).grow hgrown⟩

/-! ## The modes before the body -/

/-- A page that is read in a mode before the body, with as many open elements as that mode has. -/
inductive Early (b : Builder) : Prop
  | initial (mode : b.mode = .initial) (leading : Leading b 0)
  | beforeHtml (mode : b.mode = .beforeHtml) (leading : Leading b 0)
  | beforeHead (mode : b.mode = .beforeHead) (leading : Leading b 1)
  | inHead (mode : b.mode = .inHead) (leading : Leading b 2) (filled : Filled b)
  | afterHead (mode : b.mode = .afterHead) (leading : Leading b 1) (filled : Filled b)
  | headText (mode : b.mode = .text) (back : b.returnMode = .inHead) (leading : Leading b 3)
    (filled : Filled b)
  | afterHeadText (mode : b.mode = .text) (back : b.returnMode = .afterHead)
    (leading : Leading b 2) (filled : Filled b)

/-- As long as a frameset may replace the body, a page is read in a mode before the body or in a
late one. -/
def Onward (b : Builder) : Prop := b.framesetOk = true → Early b ∨ Steady b ∧ InLateMode b

lemma Early.onward (h : Early b) : Onward b := fun _ => .inl h

lemma Early.leading (h : Early b) : ∃ k, Leading b k := by
  cases h with
  | initial _ h | beforeHtml _ h | beforeHead _ h | inHead _ h | afterHead _ h | headText _ _ h
  | afterHeadText _ _ h => exact ⟨_, h⟩

/-- A page stays early when its mode stays, and what is asked of the open elements. -/
lemma Early.carry (h : Early b) (hmode : b'.mode = b.mode) (hback : b'.returnMode = b.returnMode)
    (hlead : ∀ k, Leading b k → Leading b' k) (hfilled : Filled b → Filled b') : Early b' := by
  cases h with
  | initial hm hl => exact .initial (hmode.trans hm) (hlead 0 hl)
  | beforeHtml hm hl => exact .beforeHtml (hmode.trans hm) (hlead 0 hl)
  | beforeHead hm hl => exact .beforeHead (hmode.trans hm) (hlead 1 hl)
  | inHead hm hl hf => exact .inHead (hmode.trans hm) (hlead 2 hl) (hfilled hf)
  | afterHead hm hl hf => exact .afterHead (hmode.trans hm) (hlead 1 hl) (hfilled hf)
  | headText hm hr hl hf =>
      exact .headText (hmode.trans hm) (hback.trans hr) (hlead 3 hl) (hfilled hf)
  | afterHeadText hm hr hl hf =>
      exact .afterHeadText (hmode.trans hm) (hback.trans hr) (hlead 2 hl) (hfilled hf)

/-- What only adds to the tree leaves a page where it was. -/
lemma Early.add (h : Early b) (hadded : Added b b') : Early b' :=
  h.carry hadded.mode hadded.returnMode (fun _ hl => hl.add hadded) fun hf => hf.add hadded

lemma onward_of_adds {a : α} (hx : Keeps Adds x) (he : Early b) (h : x b = some (a, b')) :
    Onward b' := by
  obtain ⟨k, hlead⟩ := he.leading
  exact (he.add (hx.keeps b a b' h hlead.inPlace)).onward

lemma onward_insertText {s : String} {o : Outcome} (he : Early b)
    (h : finish (insertText s) b = some (o, b')) : Onward b' :=
  onward_of_adds inferInstance he h

lemma onward_comment {s : String} {o : Outcome} (he : Early b)
    (h : finish (insertComment s) b = some (o, b')) : Onward b' :=
  onward_of_adds inferInstance he h

/-- A comment outside of the outermost element. -/
lemma onward_rootComment {s : String} {o : Outcome} (he : Early b) (h : (finish do
      let n ← newNode (.comment s)
      changeTree (·.append Tree.root n)) b = some (o, b')) : Onward b' :=
  onward_of_adds inferInstance he h

lemma onward_of_bars {a : α} (hx : Bars x) (h : x b = some (a, b')) : Onward b' := fun hok => by
  rw [hx.bars b a b' h] at hok
  cases hok

instance (tag : Tag) : Keeps Adds (startHtmlAgain tag) := by unfold startHtmlAgain; infer_instance

/-! ## The rules before the body -/

lemma onward_initial {t : Token} {o : Outcome} (hmode : b.mode = .initial) (hlead : Leading b 0)
    (h : initial t b = some (o, b')) : Onward b' := by
  have hgo : ∀ t, (do modify fun b => { b with legacyTables := true }; againIn .beforeHtml t :
      Build Outcome) b = some (o, b') → Onward b' := fun t h => by
    obtain ⟨u, b₁, hset, h⟩ := bind_eq_some h
    cases hset
    cases h
    refine Early.onward (.beforeHtml ?_ ?_)
    · rfl
    · exact hlead.anew .beforeHtml b.returnMode true
  cases t with
  | blanks s =>
      cases h
      exact (Early.initial hmode hlead).onward
  | comment s => exact onward_rootComment (.initial hmode hlead) h
  | words s | startTag tag | endTag name | nul | eof | doctype d | fault => exact hgo _ h

lemma onward_beforeHtml {t : Token} {o : Outcome} (hmode : b.mode = .beforeHtml)
    (hlead : Leading b 0) (h : beforeHtml t b = some (o, b')) : Onward b' := by
  have hnext : ∀ (tag : Tag) (r : Outcome), Usual tag → (do
      startHtml tag
      setMode .beforeHead
      return r : Build Outcome) b = some (o, b') → Onward b' := by
    intro tag r husual h
    obtain ⟨u, b₁, hstart, h⟩ := bind_eq_some h
    cases h
    refine Early.onward (.beforeHead ?_ ?_)
    · rfl
    · exact (hlead.startHtml hstart).anew .beforeHead b₁.returnMode b₁.legacyTables
  have hgo := hnext { name := "html" } (.again t) ⟨by decide, by decide⟩
  cases t with
  | blanks s =>
      cases h
      exact (Early.beforeHtml hmode hlead).onward
  | comment s => exact onward_rootComment (.beforeHtml hmode hlead) h
  | startTag tag =>
      simp only [beforeHtml] at h
      split at h
      · next hname => exact hnext tag .done (usual_of (· == "html") hname rfl rfl) h
      · exact hgo h
  | endTag name =>
      simp only [beforeHtml] at h
      split at h
      · exact hgo h
      · cases h
        exact (Early.beforeHtml hmode hlead).onward
  | words s | nul | eof | doctype d | fault => exact hgo h

lemma onward_beforeHead {t : Token} {o : Outcome} (hmode : b.mode = .beforeHead)
    (hlead : Leading b 1) (h : beforeHead t b = some (o, b')) : Onward b' := by
  have he : Early b := .beforeHead hmode hlead
  have hnext : ∀ (tag : Tag) (r : Outcome), Usual tag → ((do
      let n ← openElement tag
      modify fun b => { b with head := some n, mode := .inHead } : Build Unit) >>= fun _ =>
      return r : Build Outcome) b = some (o, b') → Onward b' := by
    intro tag r husual h
    obtain ⟨u, b₂, hbegin, hdone⟩ := bind_eq_some h
    obtain ⟨n, b₁, hopen, hset⟩ := bind_eq_some hbegin
    cases hdone
    cases hset
    have hled := hlead.openElement hopen
    have hlead₁ := hled.leading
    refine Early.onward (.inHead ?_ ?_ ?_)
    · rfl
    · exact ⟨hlead₁.inPlace, hlead₁.formatting, hlead₁.opened, hlead₁.plain, fun m hm => by
        cases hm
        exact hled.plain⟩
    · exact hled.filled (.inl rfl)
  have hgo := hnext { name := "head" } (.again t) ⟨by decide, by decide⟩
  cases t with
  | blanks s =>
      cases h
      exact he.onward
  | comment s => exact onward_comment he h
  | startTag tag =>
      simp only [beforeHead] at h
      split at h
      · exact onward_of_adds inferInstance he h
      split at h
      · next hname => exact hnext tag .done (usual_of (· == "head") hname rfl rfl) h
      · exact hgo h
  | endTag name =>
      simp only [beforeHead] at h
      split at h
      · exact hgo h
      · cases h
        exact he.onward
  | words s | nul | eof | doctype d | fault => exact hgo h

/-- The text of an element is read next. -/
structure TextLed (b b' : Builder) (k : Nat) : Prop where
  mode : b'.mode = .text
  returnMode : b'.returnMode = b.mode
  leading : Leading b' k
  filled : Filled b'
  opened : ∃ n, b'.opened = n :: b.opened

lemma Leading.startText {tag : Tag} {c : Content} {o : Outcome} [Usual tag] (h : Leading b (k + 2))
    (hfilled : Filled b) (hstart : startText tag c b = some (o, b')) : TextLed b b' (k + 3) := by
  obtain ⟨u, b₁, hopen, hset⟩ := bind_eq_some hstart
  cases hset
  obtain ⟨n, hopen⟩ := discard_eq_some hopen
  have hled := h.openElement hopen
  exact ⟨rfl, hled.mode, hled.leading.anew .text b₁.mode b₁.legacyTables,
    hled.filled (.inr hfilled), n, hled.opened⟩

/-- As long as a frameset may replace the body, what belongs into the head is added or is text. -/
def IntoHead (b b' : Builder) : Prop := ∀ k, Leading b (k + 2) → Filled b → b'.framesetOk = true →
  Added b b' ∨ TextLed b b' (k + 3)

lemma intoHead_text {tag : Tag} {name : String} (hname : tag.name = name) (hbody : name ≠ "body")
    (htemplate : name ≠ "template") (c : Content) : Keeps IntoHead (startText tag c) where
  keeps b o b' h k hlead hfilled _ := by
    have := usual_of_name hname hbody htemplate
    exact .inr (hlead.startText hfilled h)

instance intoHead_of_bars [hx : Bars x] : Keeps IntoHead x where
  keeps b a b' h k _ _ hok := by
    rw [hx.bars b a b' h] at hok
    cases hok

instance intoHead_of_adds [Keeps Adds x] : Keeps IntoHead x :=
  Keeps.mono (R := Adds) fun _ _ h _ hlead _ _ => .inl (h hlead.inPlace)

instance (tag : Tag) : Keeps IntoHead (startInHead tag) := by
  unfold startInHead
  split <;> first
    | infer_instance
    | exact intoHead_text ‹_› (by decide) (by decide) _

/-- Without an open template there is none to end. -/
lemma Leading.endTemplate {o : Outcome} (h : Leading b k) (hend : endTemplate b = some (o, b')) :
    b' = b := by
  obtain ⟨u, b₁, hact, hdone⟩ := bind_eq_some hend
  cases hdone
  obtain ⟨r, b₂, hopen, hrest⟩ := bind_eq_some hact
  obtain ⟨rfl, rfl⟩ := h.steady.isOpen_template hopen
  cases hrest
  rfl

/-- The head ends. -/
lemma onward_endHead {u : Unit} (hlead : Leading b 2) (hfilled : Filled b)
    (h : (do discard pop; setMode .afterHead : Build Unit) b = some (u, b')) : Onward b' := by
  obtain ⟨v, b₁, hdiscard, hset⟩ := bind_eq_some h
  cases hset
  obtain ⟨m, hpop⟩ := discard_eq_some hdiscard
  obtain ⟨hlead₁, -, -, htree, hopened⟩ := hlead.pop hpop
  refine Early.onward (.afterHead ?_ ?_ ?_)
  · rfl
  · exact hlead₁.anew .afterHead b₁.returnMode b₁.legacyTables
  · exact hfilled.pop htree hopened

lemma onward_inHead {t : Token} {o : Outcome} (hmode : b.mode = .inHead) (hlead : Leading b 2)
    (hfilled : Filled b) (h : inHead t b = some (o, b')) : Onward b' := by
  have he : Early b := .inHead hmode hlead hfilled
  have hgo : ((discard pop >>= fun _ => againIn .afterHead t : Build Outcome) b = some (o, b')) →
      Onward b' := fun h => by
    obtain ⟨u, b₁, hpop, hagain⟩ := bind_eq_some h
    obtain ⟨v, b₂, hset, hdone⟩ := bind_eq_some hagain
    cases hdone
    exact onward_endHead (u := v) hlead hfilled (by
      change (discard pop b).bind _ = _
      rw [hpop]
      exact hset)
  cases t with
  | blanks s => exact onward_insertText he h
  | comment s => exact onward_comment he h
  | startTag tag =>
      simp only [inHead] at h
      split at h
      · exact onward_of_adds inferInstance he h
      split at h
      · intro hok
        have hrule : Keeps IntoHead (startInHead tag) := inferInstance
        rcases hrule.keeps b o b' h 0 hlead hfilled hok with hadded | htext
        · exact .inl (he.add hadded)
        · have hback := htext.returnMode.trans hmode
          exact .inl (.headText htext.mode hback htext.leading htext.filled)
      split at h
      · cases h
        exact he.onward
      · exact hgo h
  | endTag name =>
      simp only [inHead] at h
      split at h
      · obtain ⟨u, b₁, hend, hdone⟩ := bind_eq_some h
        cases hdone
        exact onward_endHead hlead hfilled hend
      split at h
      · obtain rfl := hlead.endTemplate h
        exact he.onward
      split at h
      · exact hgo h
      · cases h
        exact he.onward
  | words s | nul | eof | doctype d | fault => exact hgo h

/-- **A body that stands behind the head is anchored.** -/
lemma steady_startBody {u : Unit} (hlinked : b.tree.Linked) (hlead : Leading b 1)
    (hfilled : Filled b) (h : startNamed "body" b = some (u, b')) : Steady b' := by
  obtain ⟨n, hopen⟩ := discard_eq_some h
  obtain ⟨m, b₁, hinsert, hopen⟩ := bind_eq_some hopen
  cases hopen
  obtain ⟨rfl, hlt, helement, hadded⟩ := insert_eq hlead.inPlace hinsert
  obtain ⟨html, hopened⟩ := List.length_eq_one_iff.mp hlead.opened
  have hlead₁ := hlead.add hadded
  have hbody : b₁.tree.label? b.tree.nodes.size = some (.html, "body") := by
    rw [Tree.label?, helement]
    rfl
  obtain ⟨t, ht, rfl⟩ := hlead.append_eq hopened rfl hinsert
  have hanchored := hlinked.anchored_append (hfilled html (by rw [hopened]; rfl)) ht
  have hhtml : Plain b.tree html := hlead.plain html (hopened ▸ List.mem_singleton_self html)
  have hhtml₁ : Plain t html := hhtml.grow hadded.grown
  have hall : ∀ {p : NodeId → Prop}, p b.tree.nodes.size → p html →
      ∀ n ∈ b.tree.nodes.size :: b.opened, p n := by
    intro p hn hp
    rw [hopened]
    exact List.forall_mem_cons.mpr ⟨hn, List.forall_mem_singleton.mpr hp⟩
  refine ⟨hlead.inPlace, hall hlt hhtml₁.lt_size, hall ?_ hhtml₁.noTemplate, ?_, fun g hg => ?_,
    fun n tag hn => ?_⟩
  · rw [hbody]
    decide
  · change (b.tree.nodes.size :: b.opened).Pairwise _
    rw [hopened]
    exact List.pairwise_pair.mpr fun _ => hhtml.lt_size
  · have : ∀ n ∈ b.tree.nodes.size :: b.opened, t.label? n = some (.html, "body") → t.Anchored n :=
      hall (fun _ => hanchored) fun hlabel => absurd hlabel hhtml₁.noBody
    exact this g hg.1 hg.2
  · change FormatEntry.element n tag ∈ b.formatting at hn
    rw [hlead.formatting] at hn
    cases hn

/-- The head is taken out of the open elements again. -/
lemma Leading.removeHead {more : List NodeId} {head html : NodeId} (h : Leading b (k + 1))
    (hfilled : Filled b) (hopened : b.opened = more ++ [head, html]) :
    Leading { b with opened := b.opened.erase head } k ∧
      Filled { b with opened := b.opened.erase head } := by
  have hmem : head ∈ b.opened := by simp [hopened]
  have hlast : (b.opened.erase head).getLast? = b.opened.getLast? := by
    rw [hopened, List.erase_append]
    split <;> simp
  refine ⟨⟨h.inPlace, h.formatting, ?_, fun n hn => h.plain n (List.erase_subset hn), h.head⟩,
    fun n hn => hfilled n (hlast ▸ hn)⟩
  exact (List.length_erase_of_mem hmem).trans (by rw [h.opened, Nat.add_sub_cancel])

/-- What belongs into the head still goes there behind it. -/
lemma onward_headAgain {tag : Tag} {o : Outcome} {head : NodeId} (hmode : b.mode = .afterHead)
    (hlead : Leading b 1) (hfilled : Filled b) (hhead : b.head = some head) (h : (do
      push head
      let outcome ← startInHead tag
      removeOpened head
      return outcome : Build Outcome) b = some (o, b')) : Onward b' := by
  intro hok
  obtain ⟨u, b₁, hpush, hrest⟩ := bind_eq_some h
  obtain ⟨r, b₂, hstart, hremove⟩ := bind_eq_some hrest
  cases hpush
  cases hremove
  obtain ⟨html, hopened⟩ := List.length_eq_one_iff.mp hlead.opened
  have hopened₁ : head :: b.opened = [head, html] := congrArg (head :: ·) hopened
  have hpushed := hlead.push (hlead.head head hhead)
  have hfilled₁ : Filled { b with opened := head :: b.opened } := fun n hn => by
    change (head :: b.opened).getLast? = some n at hn
    refine hfilled n ?_
    rw [hopened]
    rwa [hopened₁, List.getLast?_cons_cons] at hn
  have hrule : Keeps IntoHead (startInHead tag) := inferInstance
  rcases hrule.keeps _ _ b₂ hstart 0 hpushed hfilled₁ hok with hadded | htext
  · have hlead₂ := (hpushed.add hadded).removeHead (hfilled₁.add hadded)
      (hadded.opened.trans hopened₁ : b₂.opened = [] ++ [head, html])
    exact .inl (.afterHead (hadded.mode.trans hmode) hlead₂.1 hlead₂.2)
  · obtain ⟨n, hopened₂⟩ := htext.opened
    have hlead₂ := htext.leading.removeHead htext.filled
      (hopened₂.trans (congrArg (n :: ·) hopened₁) : b₂.opened = [n] ++ [head, html])
    exact .inl (.afterHeadText htext.mode (htext.returnMode.trans hmode) hlead₂.1 hlead₂.2)

lemma onward_afterHead {t : Token} {o : Outcome} (hlinked : b.tree.Linked)
    (hmode : b.mode = .afterHead) (hlead : Leading b 1) (hfilled : Filled b)
    (h : afterHead t b = some (o, b')) : Onward b' := by
  have he : Early b := .afterHead hmode hlead hfilled
  have hgo : (startNamed "body" >>= fun _ => againIn .inBody t : Build Outcome) b = some (o, b') →
      Onward b' := fun h _ => by
    obtain ⟨u, b₁, hstart, hagain⟩ := bind_eq_some h
    cases hagain
    have hsteady := steady_startBody hlinked hlead hfilled hstart
    exact .inr ⟨hsteady.setMode .inBody b₁.returnMode, .of_isLate .inBody rfl⟩
  cases t with
  | blanks s => exact onward_insertText he h
  | comment s => exact onward_comment he h
  | startTag tag =>
      simp only [afterHead] at h
      split at h
      · exact onward_of_adds inferInstance he h
      split at h
      · have hbars : Bars (finish do start tag; noFrameset; setMode .inBody) := inferInstance
        exact onward_of_bars hbars h
      split at h
      · next hname =>
          intro _
          have := usual_of (· == "frameset") hname rfl rfl
          obtain ⟨u, b₁, hact, hdone⟩ := bind_eq_some h
          obtain ⟨v, b₂, hstart, hset⟩ := bind_eq_some hact
          cases hdone
          cases hset
          obtain ⟨n, hopen⟩ := discard_eq_some hstart
          have hsteady := (hlead.openElement hopen).leading.steady
          exact .inr ⟨hsteady.setMode .inFrameset b₂.returnMode, .of_isLate .inFrameset rfl⟩
      split at h
      · obtain ⟨c, b₁, hget, hrest⟩ := bind_eq_some h
        cases hget
        cases hhead : b.head with
        | none =>
            rw [hhead] at hrest
            cases hrest
        | some head =>
            rw [hhead] at hrest
            exact onward_headAgain hmode hlead hfilled hhead hrest
      split at h
      · cases h
        exact he.onward
      · exact hgo h
  | endTag name =>
      simp only [afterHead] at h
      split at h
      · obtain rfl := hlead.endTemplate h
        exact he.onward
      split at h
      · exact hgo h
      · cases h
        exact he.onward
  | words s | nul | eof | doctype d | fault => exact hgo h

/-- After text the mode is the one that was left for it. -/
lemma onward_resume {u : Unit} (hback : b.returnMode = .inHead ∧ Leading b 3 ∨
      b.returnMode = .afterHead ∧ Leading b 2) (hfilled : Filled b)
    (h : (do discard pop; modify fun b => { b with mode := b.returnMode } : Build Unit) b =
      some (u, b')) : Early b' := by
  obtain ⟨v, b₁, hdiscard, hset⟩ := bind_eq_some h
  cases hset
  obtain ⟨m, hpop⟩ := discard_eq_some hdiscard
  rcases hback with ⟨hback, hlead⟩ | ⟨hback, hlead⟩
  all_goals
    obtain ⟨hlead₁, -, hreturn, htree, hopened⟩ := hlead.pop hpop
    have hfilled₁ := hfilled.pop htree hopened
    have hlead₂ := hlead₁.anew b₁.returnMode b₁.returnMode b₁.legacyTables
  · exact .inHead (hreturn.trans hback) hlead₂ hfilled₁
  · exact .afterHead (hreturn.trans hback) hlead₂ hfilled₁

lemma onward_text {t : Token} {o : Outcome} (he : Early b)
    (hback : b.returnMode = .inHead ∧ Leading b 3 ∨ b.returnMode = .afterHead ∧ Leading b 2)
    (hfilled : Filled b) (h : text t b = some (o, b')) : Onward b' := by
  cases t with
  | blanks s | words s => exact onward_insertText he h
  | endTag name =>
      obtain ⟨u, b₁, hresume, hdone⟩ := bind_eq_some h
      cases hdone
      exact (onward_resume hback hfilled hresume).onward
  | eof =>
      obtain ⟨u, b₁, hpop, hresume⟩ := bind_eq_some h
      obtain ⟨v, b₂, hset, hdone⟩ := bind_eq_some hresume
      cases hdone
      refine (onward_resume (u := v) hback hfilled ?_).onward
      change (discard pop b).bind _ = _
      rw [hpop]
      exact hset
  | startTag tag | comment s | nul | doctype d | fault => cases h

/-! ## A step before the body -/

/-- The current element of an early page is one of HTML, so the mode decides what a token does. -/
lemma Early.step_eq {t : Token} (he : Early b) : step t b = inMode t b := by
  obtain ⟨k, hlead⟩ := he.leading
  rw [Build.step, get_bind]
  cases hopened : b.opened with
  | nil => rfl
  | cons n rest =>
      obtain ⟨name, hname, -⟩ := hlead.plain n (hopened ▸ List.mem_cons_self)
      obtain ⟨e, he, hspace⟩ := Option.map_eq_some_iff.mp hname
      have hhtml : e.space = .html := congrArg Prod.fst hspace
      dsimp only
      rw [he]
      simp [isForeign, hhtml]

/-- **A step before the body leads to a linked page, which is read on.** -/
lemma Early.step {t : Token} {o : Outcome} (hlinked : b.tree.Linked) (he : Early b)
    (h : step t b = some (o, b')) : b'.tree.Linked ∧ Onward b' := by
  have hlinks : ∀ (act : Build Outcome), Keeps Firm act → act b = some (o, b') → b'.tree.Linked :=
    fun act hact h => (hact.keeps b o b' h).links hlinked
  rw [he.step_eq] at h
  obtain ⟨c, b₁, hget, hrule⟩ := bind_eq_some h
  cases hget
  cases he with
  | initial hmode hlead =>
      rw [hmode] at hrule
      exact ⟨hlinks _ inferInstance hrule, onward_initial hmode hlead hrule⟩
  | beforeHtml hmode hlead =>
      rw [hmode] at hrule
      exact ⟨hlinks _ inferInstance hrule, onward_beforeHtml hmode hlead hrule⟩
  | beforeHead hmode hlead =>
      rw [hmode] at hrule
      exact ⟨hlinks _ inferInstance hrule, onward_beforeHead hmode hlead hrule⟩
  | inHead hmode hlead hfilled =>
      rw [hmode] at hrule
      exact ⟨hlinks _ inferInstance hrule, onward_inHead hmode hlead hfilled hrule⟩
  | afterHead hmode hlead hfilled =>
      rw [hmode] at hrule
      exact ⟨hlinks _ inferInstance hrule, onward_afterHead hlinked hmode hlead hfilled hrule⟩
  | headText hmode hback hlead hfilled =>
      rw [hmode] at hrule
      exact ⟨hlinks _ inferInstance hrule,
        onward_text (.headText hmode hback hlead hfilled) (.inl ⟨hback, hlead⟩) hfilled hrule⟩
  | afterHeadText hmode hback hlead hfilled =>
      rw [hmode] at hrule
      exact ⟨hlinks _ inferInstance hrule,
        onward_text (.afterHeadText hmode hback hlead hfilled) (.inr ⟨hback, hlead⟩) hfilled hrule⟩

end PageCrawl.Html.Build
