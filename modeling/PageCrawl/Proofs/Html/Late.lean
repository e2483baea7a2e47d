import Mathlib
import PageCrawl.Proofs.Html.Formatting

/-!
# From the body to the end of the page

From the body on a page that may still lose it to a frameset is steady, and the rules are those of
few modes (`lateModes`): tables, choices and templates bar the frameset when they begin.  A rule
either keeps this or bars the frameset (`Lasting`).

The frameset itself is the one rule that detaches a node for good, and there the body is anchored:
`settled_detach`.  Hence a step in a late mode leaves the tree linked (`settled_step`).
-/

namespace PageCrawl.Html.Build

-- rules are long sequences, and every step of one counts
set_option synthInstance.maxSize 4096

variable {b b' : Builder} {n : NodeId} {α β : Type} {x y : Build α} {f : α → Build β}

/-- The modes from the body on, as long as there is no table, no choice and no template. -/
def lateModes : List Mode :=
  [.inBody, .text, .afterBody, .afterAfterBody, .inFrameset, .afterFrameset, .afterAfterFrameset]

/-- A page that is read in a late mode, and will be. -/
structure InLateMode (b : Builder) : Prop where
  mode : b.mode ∈ lateModes
  returnMode : b.mode = .text → b.returnMode ∈ lateModes

/-- A linked page which is steady, and read in a late mode, as long as a frameset may replace the
body. -/
structure Settled (b : Builder) : Prop where
  linked : b.tree.Linked
  late : b.framesetOk = true → Steady b ∧ InLateMode b

lemma Settled.close {opened : List NodeId} (h : Settled b) (hopened : opened.Sublist b.opened) :
    Settled { b with opened := opened } where
  linked := h.linked
  late hok := ⟨(h.late hok).1.shrink rfl rfl hopened fun _ _ => id, (h.late hok).2.mode,
    (h.late hok).2.returnMode⟩

/-- An action keeps a page settled. -/
def Lasting (b b' : Builder) : Prop := Settled b → Settled b'

instance : Std.Refl Lasting := ⟨fun _ => id⟩
instance : IsTrans Builder Lasting := ⟨fun _ _ _ h h' => h' ∘ h⟩

/-- After an action a frameset may not replace the body. -/
class Bars (act : Build α) : Prop where
  bars : ∀ b a b', act b = some (a, b') → b'.framesetOk = false

instance : Bars noFrameset where
  bars b a b' h := by
    cases h
    rfl

instance Bars.last [hf : ∀ a, Bars (f a)] : Bars (x >>= f) where
  bars b c b' h := by
    obtain ⟨a, m, -, hc⟩ := bind_eq_some h
    exact (hf a).bars m c b' hc

lemma Bars.before [hx : Bars x] (hf : ∀ a, Keeps Firm (f a)) : Bars (x >>= f) where
  bars b c b' h := by
    obtain ⟨a, m, ha, hc⟩ := bind_eq_some h
    exact ((hf a).keeps m c b' hc).frameset (hx.bars b a m ha)

instance Bars.first [Bars x] [hf : ∀ a, Keeps Firm (f a)] : Bars (x >>= f) := .before hf

instance Bars.finish {act : Build Unit} [Bars act] : Bars (finish act) := by
  unfold Build.finish; infer_instance

instance (priority := low) lasting_of_bars [hx : Keeps Firm x] [hbars : Bars x] :
    Keeps Lasting x where
  keeps b a b' h hb := by
    refine ⟨(hx.keeps b a b' h).links hb.linked, fun hok => ?_⟩
    rw [hbars.bars b a b' h] at hok
    cases hok

lemma Firm.framesetOk (h : Firm b b') (hok : b'.framesetOk = true) : b.framesetOk = true := by
  by_contra hne
  rw [h.frameset (Bool.eq_false_of_not_eq_true hne)] at hok
  cases hok

instance (priority := low) lasting_of_mild [hx : Keeps Firm x] [hmild : Keeps Mild x] :
    Keeps Lasting x where
  keeps b a b' h hb := by
    have hfirm := hx.keeps b a b' h
    refine ⟨hfirm.links hb.linked, fun hok => ?_⟩
    obtain ⟨hsteady, hlate⟩ := hb.late (hfirm.framesetOk hok)
    obtain ⟨hsteady', hmode, hreturn⟩ := hmild.keeps b a b' h hsteady
    exact ⟨hsteady', hmode ▸ hlate.mode, fun htext => hreturn ▸ hlate.returnMode (hmode ▸ htext)⟩

/-! ## Modes -/

/-- A late mode other than that of text. -/
class IsLate (m : Mode) : Prop where
  late : m ∈ lateModes
  ne : m ≠ .text

instance : IsLate .inBody := ⟨by decide, by decide⟩
instance : IsLate .afterBody := ⟨by decide, by decide⟩
instance : IsLate .afterAfterBody := ⟨by decide, by decide⟩
instance : IsLate .inFrameset := ⟨by decide, by decide⟩
instance : IsLate .afterFrameset := ⟨by decide, by decide⟩
instance : IsLate .afterAfterFrameset := ⟨by decide, by decide⟩

lemma InLateMode.of_isLate (m : Mode) [hm : IsLate m] (h : b.mode = m) : InLateMode b where
  mode := h ▸ hm.late
  returnMode htext := absurd (h.symm.trans htext) hm.ne

/-- A mode plays no part in whether a page is steady. -/
lemma Steady.setMode (h : Steady b) (m m' : Mode) :
    Steady { b with mode := m, returnMode := m' } :=
  h.shrink rfl rfl (List.Sublist.refl _) fun _ _ => id

instance (m : Mode) [hm : IsLate m] : Keeps Lasting (setMode m) where
  keeps b a b' h hb := by
    cases h
    refine ⟨hb.linked, fun hok => ?_⟩
    exact ⟨(hb.late hok).1.setMode m b.returnMode, .of_isLate m rfl⟩

instance (m : Mode) [IsLate m] (t : Token) : Keeps Lasting (againIn m t) := by
  unfold againIn; infer_instance

instance (tag : Tag) [Usual tag] (c : Content) : Keeps Lasting (startText tag c) where
  keeps b o b' h hb := by
    obtain ⟨u, b₁, hstart, h⟩ := bind_eq_some h
    obtain ⟨v, b₂, hmode, h⟩ := bind_eq_some h
    cases h
    cases hmode
    have hb₁ := (inferInstance : Keeps Lasting (start tag)).keeps b u b₁ hstart hb
    refine ⟨hb₁.linked, fun hok => ?_⟩
    obtain ⟨hsteady, hlate⟩ := hb₁.late hok
    exact ⟨hsteady.setMode .text b₁.mode, by simp [lateModes], fun _ => hlate.mode⟩

/-! ## Templates -/

/-- On a steady page no template is open. -/
lemma Steady.isOpen_template {r : Bool} (hs : Steady b) (h : isOpen "template" b = some (r, b')) :
    r = false ∧ b' = b := by
  cases h
  refine ⟨?_, rfl⟩
  rw [List.any_eq_false]
  intro n hn htemplate
  exact hs.template n hn (Tree.any_isHtml_iff.mp htemplate)

/-- What is done to an open template is not done while a frameset may replace the body. -/
lemma lasting_template [hx : Keeps Firm x] [hy : Keeps Lasting y] :
    Keeps Lasting (do if ← isOpen "template" then x else y) where
  keeps b a b' h hb := by
    obtain ⟨r, b₁, hopen, hrest⟩ := bind_eq_some h
    cases hok : b.framesetOk with
    | true =>
        obtain ⟨rfl, rfl⟩ := (hb.late hok).1.isOpen_template hopen
        exact hy.keeps b₁ a b' hrest hb
    | false =>
        cases hopen
        split at hrest
        · have hfirm := hx.keeps _ a b' hrest
          refine ⟨hfirm.links hb.linked, fun hok' => ?_⟩
          rw [hfirm.frameset hok] at hok'
          cases hok'
        · exact hy.keeps _ a b' hrest hb

instance : Keeps Lasting endTemplate := by
  unfold endTemplate
  exact Keeps.finish (h := lasting_template)

instance : Keeps Lasting endInTemplate := by
  unfold endInTemplate
  exact lasting_template

instance (tag : Tag) : Keeps Mild (startHtmlAgain tag) := by unfold startHtmlAgain; infer_instance

/-! ## The body -/

/-- A tag with a name for which a test holds that holds neither for bodies nor for templates. -/
lemma usual_of {tag : Tag} (p : String → Bool) (h : p tag.name = true) (hbody : p "body" = false)
    (htemplate : p "template" = false) : Usual tag where
  body heq := by rw [heq, hbody] at h; cases h
  template heq := by rw [heq, htemplate] at h; cases h

lemma usual_of_name {tag : Tag} {name : String} (h : tag.name = name) (hbody : name ≠ "body")
    (htemplate : name ≠ "template") : Usual tag :=
  ⟨h ▸ hbody, h ▸ htemplate⟩

instance (tag : Tag) : Keeps Lasting (startInHead tag) := by
  unfold startInHead
  split <;> first
    | infer_instance
    | next h =>
        have := usual_of_name h (by decide) (by decide)
        infer_instance

instance (tag : Tag) : Bars (startItem tag) := by
  unfold startItem
  refine Bars.before fun _ => Keeps.andThen fun b => ?_
  split <;> infer_instance

/-- Elements of drawings and formulas are neither bodies nor templates. -/
lemma mild_startForeign {space : Space} (hspace : space ≠ .html) (name : String) (tag : Tag) :
    Keeps Mild (startForeign space name tag) where
  keeps b u b' h hs := by
    obtain ⟨n, b₁, hinsert, hopen⟩ := bind_eq_some h
    have hadded := (insert_eq hs.inPlace hinsert).2.2.2
    have hmodes := And.intro hadded.mode hadded.returnMode
    split at hopen
    · cases hopen
      exact ⟨hadded.steady hs, hmodes⟩
    · cases hopen
      exact ⟨(hs.open hinsert (fun heq => hspace (congrArg Prod.fst heq))
        fun heq => hspace (congrArg Prod.fst heq)).1, hmodes⟩

instance (name : String) (tag : Tag) : Keeps Mild (startForeign .math name tag) :=
  mild_startForeign (by decide) name tag

instance (name : String) (tag : Tag) : Keeps Mild (startForeign .svg name tag) :=
  mild_startForeign (by decide) name tag

instance (tag : Tag) [Usual tag] : Keeps Mild (startOther tag) := by
  unfold startOther; infer_instance

instance (tag : Tag) : Keeps Mild (startEmbedded tag) := by unfold startEmbedded; infer_instance

instance (name : String) [Usual { name }] : Keeps Mild (startNamed name) := by
  unfold startNamed; infer_instance

/-! ## A frameset in place of the body -/

/-- The body, if it is asked for, stands second in the stack of open elements. -/
lemma bodyNode?_eq {found : Option NodeId} (h : bodyNode? b = some (found, b')) :
    b' = b ∧ ∀ g, found = some g → b.tree.label? g = some (.html, "body") ∧
      ∃ within html, b.opened = within ++ [g, html] := by
  obtain ⟨c, b₁, hget, h⟩ := bind_eq_some h
  cases hget
  cases hreverse : b.opened.reverse with
  | nil =>
      rw [hreverse] at h
      cases h
      exact ⟨rfl, nofun⟩
  | cons html rest =>
      rw [hreverse] at h
      cases rest with
      | nil =>
          cases h
          exact ⟨rfl, nofun⟩
      | cons g within =>
          dsimp only at h
          split at h
          · next hbody =>
              cases h
              refine ⟨rfl, ?_⟩
              rintro g' ⟨⟩
              refine ⟨Tree.any_isHtml_iff.mp hbody, within.reverse, html, ?_⟩
              rw [← List.reverse_reverse b.opened, hreverse]
              simp
          · cases h
            exact ⟨rfl, nofun⟩

/-- **The body is detached, and nobody leads to it.**  What stays open is the outermost element. -/
lemma settled_detach {g : NodeId} {t : Tree} (hb : Settled b) (hok : b.framesetOk = true)
    (hbody : b.tree.label? g = some (.html, "body")) {within : List NodeId} {html : NodeId}
    (hopened : b.opened = within ++ [g, html]) (ht : b.tree.detach g = some t) :
    Settled { b with tree := t, opened := b.opened.drop (b.opened.length - 1) } := by
  obtain ⟨hsteady, hlate⟩ := hb.late hok
  have hg : OpenBody b g := ⟨by simp [hopened], hbody⟩
  refine ⟨(hsteady.anchored g hg).detach_self hb.linked ht,
    fun _ => ⟨?_, hlate.mode, hlate.returnMode⟩⟩
  have hrest : b.opened.drop (b.opened.length - 1) = [html] := by simp [hopened]
  rw [hrest]
  have hout : Steady { b with opened := [html] } := by
    refine hsteady.shrink rfl rfl ?_ fun _ _ => id
    rw [hopened]
    exact ((List.Sublist.refl [html]).cons g).trans (List.sublist_append_right within _)
  refine hout.grow (.detach ht) fun g' hg' => ?_
  -- a body around the body was made before it
  obtain rfl : g' = html := List.mem_singleton.mp hg'.1
  have horder := hsteady.order
  rw [hopened, List.pairwise_append, List.pairwise_pair] at horder
  exact (hout.anchored g' hg').detach (horder.2.1 (.inl hbody)) ht

/-- A frameset takes the place of the body, if it may. -/
lemma lasting_replaceBody {rest : Build Unit} [hrest : Keeps Lasting rest] :
    Keeps Lasting (do
      if (← get).framesetOk then
        match ← bodyNode? with
        | none => return .done
        | some n => finish do
          changeTree (·.detach n)
          modify fun b => { b with opened := b.opened.drop (b.opened.length - 1) }
          rest
      else return .done : Build Outcome) where
  keeps b o b' h hb := by
    obtain ⟨c, b₁, hget, h⟩ := bind_eq_some h
    cases hget
    cases hok : b.framesetOk with
    | false =>
        rw [hok] at h
        cases h
        exact hb
    | true =>
        rw [hok, if_pos rfl] at h
        obtain ⟨found, b₁, hfound, h⟩ := bind_eq_some h
        obtain ⟨rfl, hbody⟩ := bodyNode?_eq hfound
        cases found with
        | none =>
            cases h
            exact hb
        | some g =>
            obtain ⟨hlabel, within, html, hopened⟩ := hbody g rfl
            obtain ⟨u, b₂, hall, hdone⟩ := bind_eq_some h
            cases hdone
            obtain ⟨v, b₃, hdetach, hall⟩ := bind_eq_some hall
            obtain ⟨w, b₄, hclose, hall⟩ := bind_eq_some hall
            obtain ⟨t, ht, rfl⟩ := changeTree_eq_some hdetach
            cases hclose
            have hsettled := settled_detach hb hok hlabel hopened ht
            exact hrest.keeps _ u _ hall hsettled

instance (tag : Tag) : Keeps Lasting (startInBody tag) := by
  unfold startInBody
  extract_lets tag name
  refine Keeps.choose (fun _ => inferInstance) fun _ => ?_
  refine Keeps.choose (fun _ => inferInstance) fun hhead => ?_
  refine Keeps.choose (fun _ => ?_) fun hbody => ?_
  · refine Keeps.finish (h := Keeps.andThen fun body => ?_)
    split <;> infer_instance
  -- all other tags make elements that may be open within a body
  have : Usual tag := {
    body heq := hbody (by simp only [name, heq, BEq.rfl])
    template heq := hhead (by simp only [name, heq]; decide) }
  refine Keeps.choose (fun _ => lasting_replaceBody) fun _ => ?_
  repeat refine Keeps.choose (fun _ => inferInstance) fun _ => ?_
  infer_instance

instance : Keeps Mild endForm := by
  unfold endForm
  refine Keeps.andThen fun template => ?_
  split
  · infer_instance
  · refine Keeps.andThen fun b => Keeps.andThen fun _ => ?_
    split <;> infer_instance

instance : Usual { name := "p" } := ⟨by decide, by decide⟩

instance (name : String) : Keeps Lasting (endInBody name) := by
  unfold endInBody
  infer_instance

instance (t : Token) : Keeps Lasting (inBody t) := by
  unfold inBody
  split <;> infer_instance

/-! ## After the body -/

instance (kind : NodeKind) : Keeps Adds (do
    let n ← newNode kind
    changeTree (·.append Tree.root n)) where
  keeps b u b' h _ := by
    obtain ⟨n, b₁, hnew, happend⟩ := bind_eq_some h
    obtain ⟨t, ht, rfl⟩ := changeTree_eq_some happend
    exact (Added.newNode hnew).append (newNode_eq hnew).1.ge (parent?_newNode hnew) ht

instance (kind : NodeKind) : Keeps Adds (do
    let n ← newNode kind
    let html ← htmlNode
    changeTree (·.append html n)) where
  keeps b u b' h _ := by
    obtain ⟨n, b₁, hnew, h⟩ := bind_eq_some h
    obtain ⟨html, b₂, hhtml, happend⟩ := bind_eq_some h
    obtain rfl : b₁ = b₂ := (inferInstance : Keeps (· = ·) htmlNode).keeps b₁ html b₂ hhtml
    obtain ⟨t, ht, rfl⟩ := changeTree_eq_some happend
    exact (Added.newNode hnew).append (newNode_eq hnew).1.ge (parent?_newNode hnew) ht

instance (t : Token) : Keeps Lasting (afterBody t) := by
  unfold afterBody
  split <;> infer_instance

instance (t : Token) : Keeps Lasting (afterAfterBody t) := by
  unfold afterAfterBody
  split <;> infer_instance

instance (t : Token) : Keeps Lasting (inFrameset t) := by
  unfold inFrameset
  split
  · infer_instance
  · infer_instance
  · refine Keeps.choose (fun _ => inferInstance) fun _ => ?_
    refine Keeps.choose (fun hname => ?_) fun _ => inferInstance
    have := usual_of (· == "frameset") hname rfl rfl
    infer_instance
  · infer_instance
  · infer_instance

instance (t : Token) : Keeps Lasting (afterFrameset t) := by
  unfold afterFrameset
  split <;> infer_instance

instance (t : Token) : Keeps Lasting (afterAfterFrameset t) := by
  unfold afterAfterFrameset
  split <;> infer_instance

/-! ## A step in a late mode -/

lemma settled_of_calm [hx : Keeps Calm x] {a : α} (hb : Settled b) (hok : b.framesetOk = false)
    (h : x b = some (a, b')) : Settled b' := by
  have hfirm := hx.keeps b a b' h hok
  refine ⟨hfirm.links hb.linked, fun hok' => ?_⟩
  rw [hfirm.frameset hok] at hok'
  cases hok'

/-- After text the mode is the one that was left for it. -/
lemma settled_resume {u : Unit} (hb : Settled b) (htext : b.mode = .text)
    (hpop : discard pop b = some (u, b')) : Settled { b' with mode := b'.returnMode } := by
  have hfirm := (inferInstance : Keeps Firm (discard pop)).keeps b u b' hpop
  refine ⟨hfirm.links hb.linked, fun hok => ?_⟩
  obtain ⟨hsteady, hlate⟩ := hb.late (hfirm.framesetOk hok)
  have hpops : Keeps Mild (discard pop) := inferInstance
  obtain ⟨hsteady', -, hreturn⟩ := hpops.keeps b u b' hpop hsteady
  have hmode : b'.returnMode ∈ lateModes := hreturn ▸ hlate.returnMode htext
  exact ⟨hsteady'.setMode b'.returnMode b'.returnMode, hmode, fun _ => hmode⟩

lemma settled_text {t : Token} {o : Outcome} (hb : Settled b) (htext : b.mode = .text)
    (h : text t b = some (o, b')) : Settled b' := by
  have hkeep : ∀ s, Keeps Lasting (finish (insertText s)) := fun s => inferInstance
  cases t with
  | blanks s => exact (hkeep s).keeps b o b' h hb
  | words s => exact (hkeep s).keeps b o b' h hb
  | endTag name =>
      obtain ⟨u, b₁, hresume, hdone⟩ := bind_eq_some h
      obtain ⟨v, b₂, hpop, hset⟩ := bind_eq_some hresume
      cases hdone
      cases hset
      exact settled_resume hb htext hpop
  | eof =>
      obtain ⟨u, b₁, hpop, hresume⟩ := bind_eq_some h
      obtain ⟨v, b₂, hset, hdone⟩ := bind_eq_some hresume
      cases hdone
      cases hset
      exact settled_resume hb htext hpop
  | startTag tag => cases h
  | comment s => cases h
  | nul => cases h
  | doctype d => cases h
  | fault => cases h

lemma settled_inMode {t : Token} {o : Outcome} (hb : Settled b) (h : inMode t b = some (o, b')) :
    Settled b' := by
  cases hok : b.framesetOk with
  | false => exact settled_of_calm hb hok h
  | true =>
      obtain ⟨-, hlate⟩ := hb.late hok
      obtain ⟨c, b₁, hget, hrule⟩ := bind_eq_some h
      cases hget
      have hmode := hlate.mode
      simp only [lateModes, List.mem_cons, List.not_mem_nil, or_false] at hmode
      rcases hmode with hm | hm | hm | hm | hm | hm | hm <;> rw [hm] at hrule
      · exact (inferInstance : Keeps Lasting (inBody t)).keeps b o b' hrule hb
      · exact settled_text hb hm hrule
      · exact (inferInstance : Keeps Lasting (afterBody t)).keeps b o b' hrule hb
      · exact (inferInstance : Keeps Lasting (afterAfterBody t)).keeps b o b' hrule hb
      · exact (inferInstance : Keeps Lasting (inFrameset t)).keeps b o b' hrule hb
      · exact (inferInstance : Keeps Lasting (afterFrameset t)).keeps b o b' hrule hb
      · exact (inferInstance : Keeps Lasting (afterAfterFrameset t)).keeps b o b' hrule hb

lemma settled_foreign {t : Token} {o : Outcome} {e : Element} {outer : List NodeId} (hb : Settled b)
    (hopened : b.opened = n :: outer) (he : b.tree.element? n = some e) (hspace : e.space ≠ .html)
    (h : foreign t b = some (o, b')) : Settled b' := by
  cases t with
  | nul => exact (inferInstance : Keeps Lasting (finish (insertText "\uFFFD"))).keeps b o b' h hb
  | blanks s => exact (inferInstance : Keeps Lasting (finish (insertText s))).keeps b o b' h hb
  | words s =>
      have hrule : Keeps Lasting (finish do noFrameset; insertText s) := inferInstance
      exact hrule.keeps b o b' h hb
  | comment s => exact (inferInstance : Keeps Lasting (finish (insertComment s))).keeps b o b' h hb
  | startTag tag =>
      simp only [foreign] at h
      split at h
      · have hrule : Keeps Lasting (do
            discard pop
            popWhile fun e => !(e.space == .html || e.isTextIntegration || e.isHtmlIntegration)
            return .again (.startTag tag) : Build Outcome) := inferInstance
        exact hrule.keeps b o b' h hb
      · obtain ⟨m, b₁, hcurrent, h⟩ := bind_eq_some h
        rw [current_eq hopened] at hcurrent
        cases hcurrent
        obtain ⟨found, b₂, hfound, h⟩ := bind_eq_some h
        cases hfound
        rw [he] at h
        have hstart := fun name => mild_startForeign hspace name tag
        have hrule : ∀ name, Keeps Lasting (finish (startForeign e.space name tag)) :=
          fun name => inferInstance
        exact (hrule _).keeps b o b' h hb
  | endTag name =>
      obtain ⟨c, b₁, hget, h⟩ := bind_eq_some h
      cases hget
      cases hend : foreignEnd? b.tree name true b.opened with
      | none =>
          rw [hend] at h
          exact settled_inMode hb h
      | some left =>
          rw [hend] at h
          cases left with
          | none =>
              cases h
              exact hb
          | some left =>
              obtain ⟨u, b₁, hclose, hdone⟩ := bind_eq_some h
              cases hdone
              cases hclose
              exact hb.close (List.drop_sublist _ _)
  | doctype d => cases h; exact hb
  | fault => cases h; exact hb
  | eof => cases h; exact hb

/-- **A step from a settled page leads to a settled page.** -/
lemma settled_step {t : Token} {o : Outcome} (hb : Settled b) (h : step t b = some (o, b')) :
    Settled b' := by
  obtain ⟨c, b₁, hget, h⟩ := bind_eq_some h
  cases hget
  cases hopened : b.opened with
  | nil =>
      rw [hopened] at h
      exact settled_inMode hb h
  | cons n outer =>
      rw [hopened] at h
      dsimp only at h
      cases he : b.tree.element? n with
      | none =>
          rw [he] at h
          exact settled_inMode hb h
      | some e =>
          rw [he] at h
          dsimp only at h
          split at h
          · next hforeign =>
              refine settled_foreign hb hopened he (fun hspace => ?_) h
              simp [isForeign, hspace] at hforeign
          · exact settled_inMode hb h

end PageCrawl.Html.Build
