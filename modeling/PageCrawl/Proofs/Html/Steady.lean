import Mathlib
import PageCrawl.Proofs.Html.Rules

/-!
# Pages whose body may still be replaced

A frameset detaches the body and puts nothing in its place.  For the tree to stay linked, nobody may
lead to the body afterwards, so it has to be anchored for as long as it may be replaced.

`Steady` is what carries this.  The body is anchored, and whatever may be moved was made after it:
the elements that are open within it, and the formatting elements.  No template is open and nothing
moves out of tables, for before either can happen a frameset is barred.

Most actions leave the mode and keep a page steady (`Mild`); those that only put new nodes into the
tree change nothing else at all (`Adds`).
-/

namespace PageCrawl.Html

namespace Tree

variable {t t' s : Tree} {c g n p : NodeId}

lemma firstChild?_append_add {kind : NodeKind}
    (h : (t.add kind).1.append p (t.add kind).2 = some t') {a : NodeId}
    (ha : (t.firstChild? a).isSome) : (t'.firstChild? a).isSome :=
  (firstChild?_append (t.parent?_add_self kind) h).2 a (t.firstChild?_add kind ha)

lemma firstChild?_appendText {text : String} (h : t.appendText p text = some t') {a : NodeId}
    (ha : (t.firstChild? a).isSome) : (t'.firstChild? a).isSome := by
  unfold Tree.appendText at h
  split at h
  · split at h
    · cases h
      rwa [Tree.extendText, firstChild?_modify fun y => by split <;> rfl]
    · exact firstChild?_append_add h ha
  · exact firstChild?_append_add h ha

/-- The space and the name of an element. -/
def label? (t : Tree) (n : NodeId) : Option (Space × String) :=
  (t.element? n).map fun e => (e.space, e.name)

lemma any_isHtml_iff {name : String} :
    (t.element? n).any (·.isHtml name) = true ↔ t.label? n = some (.html, name) := by
  cases h : t.element? n <;> simp [label?, h, Element.isHtml]

lemma lt_size_of_label? {l : Space × String} (h : t.label? n = some l) : n < t.nodes.size := by
  obtain ⟨e, he, -⟩ := Option.map_eq_some_iff.mp h
  rw [element?_eq] at he
  obtain ⟨y, hy, -⟩ := Option.bind_eq_some_iff.mp he
  exact lt_size_of_node? hy

/-- A tree that has more nodes than another, and the same elements among the nodes of that one. -/
structure Grown (t t' : Tree) : Prop where
  size : t.nodes.size ≤ t'.nodes.size
  label : ∀ n, n < t.nodes.size → t'.label? n = t.label? n

lemma Grown.refl (t : Tree) : t.Grown t := ⟨le_rfl, fun _ _ => rfl⟩

lemma Grown.trans (h : t.Grown s) (h' : s.Grown t') : t.Grown t' :=
  ⟨h.size.trans h'.size, fun n hn => (h'.label n (hn.trans_le h.size)).trans (h.label n hn)⟩

lemma Grown.of_element? (hsize : t'.nodes.size = t.nodes.size)
    (h : ∀ n, t'.element? n = t.element? n) : t.Grown t' :=
  ⟨hsize.ge, fun n _ => by rw [label?, label?, h]⟩

lemma Grown.append (h : t.append p c = some t') : t.Grown t' :=
  .of_element? (size_append h) (element?_append h)

lemma Grown.detach (h : t.detach c = some t') : t.Grown t' :=
  .of_element? (size_detach h) (element?_detach h)

lemma element?_add (kind : NodeKind) (hn : n < t.nodes.size) :
    (t.add kind).1.element? n = t.element? n := by
  rw [element?_eq, element?_eq, node?_add, if_neg hn.ne]

lemma Grown.add (t : Tree) (kind : NodeKind) : t.Grown (t.add kind).1 where
  size := by simp
  label n hn := by rw [label?, label?, element?_add kind hn]

/-- A change that leaves the space and the name of its node. -/
lemma Grown.modify {f : Node → Node} (h : ∀ y : Node, (elementIn (f y).kind).map
    (fun e => (e.space, e.name)) = (elementIn y.kind).map fun e => (e.space, e.name)) :
    t.Grown (t.modify c f) where
  size := (size_modify t c f).ge
  label n _ := by
    rw [label?, label?, element?_eq, element?_eq, node?_modify, Option.map_bind, Option.map_bind]
    split
    · cases t.node? n with
      | none => rfl
      | some y => exact h y
    · rfl

lemma Grown.moveChildren (t : Tree) (source target : NodeId) :
    t.Grown (t.moveChildren source target) :=
  .of_element? (size_moveChildren t source target) (element?_moveChildren t source target)

lemma Grown.extendText (t : Tree) (n : NodeId) (more : String) : t.Grown (t.extendText n more) :=
  .of_element? (size_modify t n _) (element?_extendText t n more)

lemma Grown.append_add {kind : NodeKind} (h : (t.add kind).1.append p (t.add kind).2 = some t') :
    t.Grown t' :=
  (Grown.add t kind).trans (.append h)

lemma Grown.appendText {text : String} (h : t.appendText p text = some t') : t.Grown t' := by
  unfold Tree.appendText at h
  split at h
  · split at h
    · cases h
      exact .extendText t _ text
    · exact .append_add h
  · exact .append_add h

lemma Anchored.extendText (h : t.Anchored g) (n : NodeId) (more : String) :
    (t.extendText n more).Anchored g := by
  refine h.modify_same (fun _ y => ?_) (fun y => ?_) fun y => ?_ <;> split
  all_goals first | rfl | exact id

lemma Anchored.append_add {kind : NodeKind} (h : t.Anchored g) (hlt : g < t.nodes.size)
    (ha : (t.add kind).1.append p (t.add kind).2 = some t') : t'.Anchored g :=
  (h.add hlt kind).append hlt ha

lemma Anchored.appendText {text : String} (h : t.Anchored g) (hlt : g < t.nodes.size)
    (ha : t.appendText p text = some t') : t'.Anchored g := by
  unfold Tree.appendText at ha
  split at ha
  · split at ha
    · cases ha
      exact h.extendText _ text
    · exact h.append_add hlt ha
  · exact h.append_add hlt ha

end Tree

namespace Build

variable {b b' : Builder} {n : NodeId} {α : Type}

/-- A tag that makes neither a body nor a template. -/
class Usual (tag : Tag) : Prop where
  body : tag.name ≠ "body"
  template : tag.name ≠ "template"

/-- A body among the open elements. -/
def OpenBody (b : Builder) (g : NodeId) : Prop :=
  g ∈ b.opened ∧ b.tree.label? g = some (.html, "body")

/-- A node that was made after every open body. -/
structure Younger (b : Builder) (n : NodeId) : Prop where
  inTree : n < b.tree.nodes.size
  body : ∀ g, OpenBody b g → g < n

/-- While a frameset may still replace the body, an open body is anchored, and all nodes that may be
moved were made after it: formatting elements and the elements that are open within it. -/
structure Steady (b : Builder) : Prop where
  inPlace : b.fostering = false
  inTree : ∀ n ∈ b.opened, n < b.tree.nodes.size
  template : ∀ n ∈ b.opened, b.tree.label? n ≠ some (.html, "template")
  order : b.opened.Pairwise fun m n =>
    b.tree.label? m = some (.html, "body") ∨ b.tree.label? n = some (.html, "body") → n < m
  anchored : ∀ g, OpenBody b g → b.tree.Anchored g
  formatting : ∀ n tag, .element n tag ∈ b.formatting → Younger b n ∧ Usual tag

/-- Fewer open elements and fewer formatting elements. -/
lemma Steady.shrink (h : Steady b) (htree : b'.tree = b.tree)
    (hfostering : b'.fostering = b.fostering) (hopened : b'.opened.Sublist b.opened)
    (hformatting : ∀ n tag, .element n tag ∈ b'.formatting → .element n tag ∈ b.formatting) :
    Steady b' := by
  have hbody : ∀ g, OpenBody b' g → OpenBody b g := fun g hg => ⟨hopened.subset hg.1, htree ▸ hg.2⟩
  refine ⟨hfostering.trans h.inPlace, fun n hn => ?_, fun n hn => ?_, ?_, fun g hg => ?_,
    fun n tag hn => ?_⟩
  · exact htree ▸ h.inTree n (hopened.subset hn)
  · exact htree ▸ h.template n (hopened.subset hn)
  · exact htree ▸ h.order.sublist hopened
  · exact htree ▸ h.anchored g (hbody g hg)
  · obtain ⟨hyoung, husual⟩ := h.formatting n tag (hformatting n tag hn)
    exact ⟨⟨htree ▸ hyoung.inTree, fun g hg => hyoung.body g (hbody g hg)⟩, husual⟩

/-- A tree that has grown. -/
lemma Steady.grow {t : Tree} (h : Steady b) (hgrown : b.tree.Grown t)
    (hanchored : ∀ g, OpenBody b g → t.Anchored g) : Steady { b with tree := t } := by
  have hlabel : ∀ n ∈ b.opened, t.label? n = b.tree.label? n :=
    fun n hn => hgrown.label n (h.inTree n hn)
  have hbody : ∀ g, OpenBody { b with tree := t } g → OpenBody b g :=
    fun g hg => ⟨hg.1, hlabel g hg.1 ▸ hg.2⟩
  refine ⟨h.inPlace, fun n hn => ?_, fun n hn => ?_, ?_, fun g hg => ?_, fun n tag hn => ?_⟩
  · exact (h.inTree n hn).trans_le hgrown.size
  · exact hlabel n hn ▸ h.template n hn
  · refine h.order.imp_of_mem fun {m n} hm hn hlt => ?_
    dsimp only
    rwa [hlabel m hm, hlabel n hn]
  · exact hanchored g (hbody g hg)
  · obtain ⟨hyoung, husual⟩ := h.formatting n tag hn
    exact ⟨⟨hyoung.inTree.trans_le hgrown.size, fun g hg => hyoung.body g (hbody g hg)⟩, husual⟩

/-- An element that may be open within a body. -/
structure Inner (b : Builder) (n : NodeId) : Prop extends Younger b n where
  noBody : b.tree.label? n ≠ some (.html, "body")
  noTemplate : b.tree.label? n ≠ some (.html, "template")

/-- Elements that may be open within a body, opened around what stays open. -/
lemma Steady.openWithin {inner outer : List NodeId} (h : Steady b) (hinner : ∀ n ∈ inner, Inner b n)
    (houter : outer.Sublist b.opened) : Steady { b with opened := inner ++ outer } := by
  have hold : ∀ g, OpenBody { b with opened := inner ++ outer } g → OpenBody b g := by
    rintro g ⟨hg, hlabel⟩
    rcases List.mem_append.mp hg with hg | hg
    · exact absurd hlabel (hinner g hg).noBody
    · exact ⟨houter.subset hg, hlabel⟩
  refine ⟨h.inPlace, ?_, ?_, List.pairwise_append.mpr ⟨?_, h.order.sublist houter, ?_⟩,
    fun g hg => h.anchored g (hold g hg), fun m tag hm => ?_⟩
  · exact List.forall_mem_append.mpr
      ⟨fun n hn => (hinner n hn).inTree, fun n hn => h.inTree n (houter.subset hn)⟩
  · exact List.forall_mem_append.mpr
      ⟨fun n hn => (hinner n hn).noTemplate, fun n hn => h.template n (houter.subset hn)⟩
  · refine List.pairwise_of_forall_mem_list fun m hm n hn hor => ?_
    exact (hor.elim (hinner m hm).noBody (hinner n hn).noBody).elim
  · intro m hm n hn hor
    exact (hinner m hm).body n ⟨houter.subset hn, hor.resolve_left (hinner m hm).noBody⟩
  · obtain ⟨hm, husual⟩ := h.formatting m tag hm
    exact ⟨⟨hm.inTree, fun g hg => hm.body g (hold g hg)⟩, husual⟩

/-- Formatting elements that were made after the open bodies. -/
def Remembers (b : Builder) (entries : List FormatEntry) : Prop :=
  ∀ n tag, .element n tag ∈ entries → Younger b n ∧ Usual tag

lemma Remembers.cons {tag : Tag} {entries : List FormatEntry} [husual : Usual tag]
    (h : Remembers b entries) (hn : Younger b n) : Remembers b (.element n tag :: entries) := by
  intro m tag' hm
  rcases List.mem_cons.mp hm with heq | hm
  · cases heq
    exact ⟨hn, husual⟩
  · exact h m tag' hm

/-- Another list of formatting elements. -/
lemma Steady.remember {entries : List FormatEntry} (h : Steady b) (hentries : Remembers b entries) :
    Steady { b with formatting := entries } :=
  ⟨h.inPlace, h.inTree, h.template, h.order, h.anchored, fun n tag hn =>
    ⟨⟨(hentries n tag hn).1.inTree, (hentries n tag hn).1.body⟩, (hentries n tag hn).2⟩⟩

/-! ## Actions that leave the mode -/

/-- On a steady page an action leaves the mode as it is, and the page steady. -/
def Mild (b b' : Builder) : Prop :=
  Steady b → Steady b' ∧ b'.mode = b.mode ∧ b'.returnMode = b.returnMode

instance : Std.Refl Mild := ⟨fun _ h => ⟨h, rfl, rfl⟩⟩

instance : IsTrans Builder Mild where
  trans _ _ _ h h' hs := by
    obtain ⟨hm, hmode, hreturn⟩ := h hs
    obtain ⟨hb, hmode', hreturn'⟩ := h' hm
    exact ⟨hb, hmode'.trans hmode, hreturn'.trans hreturn⟩

instance mild_modify (templates : Builder → List Mode) (pending : Builder → List (Bool × String))
    (legacy framesetOk drops : Builder → Bool) (head form : Builder → Option NodeId) :
    Keeps Mild (modify fun b => Builder.mk b.tree b.mode b.returnMode (templates b) (pending b)
      (legacy b) b.opened b.formatting (head b) (form b) (framesetOk b) (drops b) b.fostering :
        Build Unit) where
  keeps b a b' h := by
    cases h
    exact fun hs => ⟨hs.shrink rfl rfl (List.Sublist.refl _) fun _ _ => id, rfl, rfl⟩

instance : Keeps Mild noFrameset := by unfold noFrameset; infer_instance

/-- Closing elements. -/
lemma mild_close {f : Builder → List NodeId} (h : ∀ b, (f b).Sublist b.opened) :
    Keeps Mild (modify fun b => { b with opened := f b } : Build Unit) where
  keeps b a b' hb := by
    cases hb
    exact fun hs => ⟨hs.shrink rfl rfl (h b) fun _ _ => id, rfl, rfl⟩

/-- Forgetting formatting elements. -/
lemma mild_forget {f : Builder → List FormatEntry}
    (h : ∀ b n tag, .element n tag ∈ f b → .element n tag ∈ b.formatting) :
    Keeps Mild (modify fun b => { b with formatting := f b } : Build Unit) where
  keeps b a b' hb := by
    cases hb
    exact fun hs => ⟨hs.shrink rfl rfl (List.Sublist.refl _) (h b), rfl, rfl⟩

instance : Keeps Mild pop where
  keeps b a b' h := by
    obtain ⟨c, b₁, hget, hpop⟩ := bind_eq_some h
    cases hget
    cases hopened : b.opened with
    | nil =>
        rw [hopened] at hpop
        cases hpop
    | cons n rest =>
        rw [hopened] at hpop
        cases hpop
        have hrest : rest.Sublist b.opened := hopened ▸ List.sublist_cons_self _ rest
        exact fun hs => ⟨hs.shrink rfl rfl hrest fun _ _ => id, rfl, rfl⟩

instance (n : NodeId) : Keeps Mild (removeOpened n) := mild_close fun _ => List.erase_sublist
instance (p : Element → Bool) : Keeps Mild (popWhile p) := mild_close fun _ =>
  List.dropWhile_sublist _

instance (p : Element → Bool) : Keeps Mild (popThrough p) := by
  have hdrop : Keeps Mild (modify fun b => { b with opened := b.opened.drop 1 } : Build Unit) :=
    mild_close fun b => List.drop_sublist 1 b.opened
  unfold popThrough
  infer_instance

instance (name : String) : Keeps Mild (popThroughNamed name) := by
  unfold popThroughNamed; infer_instance
instance (name : String) : Keeps Mild (endImpliedExcept name) := by
  unfold endImpliedExcept; infer_instance
instance : Keeps Mild endImplied := by unfold endImplied; infer_instance
instance : Keeps Mild closeParagraph := by unfold closeParagraph; infer_instance

instance (n : NodeId) : Keeps Mild (forget n) :=
  mild_forget fun _ _ _ hm => List.mem_of_mem_eraseP hm

instance : Keeps Mild forgetToMarker :=
  mild_forget fun _ _ _ hm => List.mem_of_mem_drop hm |> (List.dropWhile_sublist _).subset

instance : Keeps Mild setMarker :=
  mild_forget fun _ _ _ hm => (List.mem_cons.mp hm).resolve_left nofun

instance (name : String) : Keeps Mild (closeOther name) := by
  unfold closeOther
  refine Keeps.andThen fun b => ?_
  split
  · infer_instance
  · next left _ =>
      have hdrop : Keeps Mild (modify fun b =>
          { b with opened := b.opened.drop (b.opened.length - left) } : Build Unit) :=
        mild_close fun b => List.drop_sublist _ b.opened
      infer_instance

/-! ## Actions that add to the tree -/

/-- A page to whose tree something was added, while all else stayed as it was. -/
structure Added (b b' : Builder) : Prop where
  rest : b' = { b with tree := b'.tree }
  grown : b.tree.Grown b'.tree
  anchored : ∀ g, g < b.tree.nodes.size → b.tree.Anchored g → b'.tree.Anchored g
  children : ∀ a, (b.tree.firstChild? a).isSome → (b'.tree.firstChild? a).isSome

lemma Added.refl (b : Builder) : Added b b := ⟨rfl, .refl b.tree, fun _ _ => id, fun _ => id⟩

lemma Added.trans {m : Builder} (h : Added b m) (h' : Added m b') : Added b b' where
  rest := by
    have hb' := h'.rest
    rw [h.rest] at hb'
    exact hb'
  grown := h.grown.trans h'.grown
  anchored g hlt hg := h'.anchored g (hlt.trans_le h.grown.size) (h.anchored g hlt hg)
  children a ha := h'.children a (h.children a ha)

lemma Added.mode (h : Added b b') : b'.mode = b.mode := by rw [h.rest]

lemma Added.returnMode (h : Added b b') : b'.returnMode = b.returnMode := by rw [h.rest]

lemma Added.opened (h : Added b b') : b'.opened = b.opened := by rw [h.rest]

lemma Added.steady (h : Added b b') (hs : Steady b) : Steady b' := by
  rw [h.rest]
  exact hs.grow h.grown fun g hg => h.anchored g (hs.inTree g hg.1) (hs.anchored g hg)

/-- An action only adds to the tree, as long as nothing is moved out of tables. -/
def Adds (b b' : Builder) : Prop := b.fostering = false → Added b b'

instance : Std.Refl Adds := ⟨fun b _ => .refl b⟩

instance : IsTrans Builder Adds where
  trans b m b' h h' hplace := by
    have hm := h hplace
    refine hm.trans (h' ?_)
    rw [hm.rest]
    exact hplace

instance mild_of_adds {x : Build α} [Keeps Adds x] : Keeps Mild x :=
  Keeps.mono (R := Adds) fun b b' h hs => by
    have hadded := h hs.inPlace
    exact ⟨hadded.steady hs, hadded.mode, hadded.returnMode⟩

lemma newNode_eq {kind : NodeKind} (h : newNode kind b = some (n, b')) :
    n = b.tree.nodes.size ∧ b' = { b with tree := (b.tree.add kind).1 } := by
  cases h
  exact ⟨rfl, rfl⟩

lemma Added.newNode {kind : NodeKind} (h : newNode kind b = some (n, b')) : Added b b' := by
  obtain ⟨-, rfl⟩ := newNode_eq h
  exact ⟨rfl, .add b.tree kind, fun g hlt hg => hg.add hlt kind,
    fun a ha => b.tree.firstChild?_add kind ha⟩

/-- A node that was made on the way is appended. -/
lemma Added.append {m : Builder} {p c : NodeId} {t : Tree} (h : Added b m)
    (hc : b.tree.nodes.size ≤ c) (hnone : m.tree.parent? c = none)
    (ht : m.tree.append p c = some t) : Added b { m with tree := t } where
  rest := by
    rw [h.rest]
  grown := h.grown.trans (.append ht)
  anchored g hlt hg := (h.anchored g hlt hg).append (hlt.trans_le hc) ht
  children a ha := (Tree.firstChild?_append hnone ht).2 a (h.children a ha)

/-- What a tag adds to an element leaves its space and its name. -/
instance (n : NodeId) (tag : Tag) : Keeps Adds (mergeAttrs n tag) where
  keeps b u b' h _ := by
    obtain ⟨t, ht, rfl⟩ := changeTree_eq_some h
    cases ht
    refine ⟨rfl, .modify fun y => ?_, fun g _ hg => hg.modify_same (fun _ y => ?_) (fun y => ?_)
      fun y => ?_, fun a ha => ?_⟩
    · obtain ⟨kind, _, _, _, _⟩ := y
      cases kind <;> rfl
    · split <;> rfl
    · split <;> exact id
    · split <;> rfl
    · rwa [Tree.firstChild?_modify fun y => by split <;> rfl]

/-- A new element has the next free place. -/
lemma newElement_eq {e : Element} (h : newElement e b = some (n, b')) :
    n = b.tree.nodes.size ∧ n < b'.tree.nodes.size ∧ b'.tree.element? n = some e ∧ Added b b' := by
  obtain ⟨m, b₁, hnew, hmade⟩ := bind_eq_some h
  have hadded := Added.newNode hnew
  obtain ⟨rfl, rfl⟩ := newNode_eq hnew
  have helement : (b.tree.add (.element e)).1.element? b.tree.nodes.size = some e := by
    rw [Tree.element?_eq, Tree.node?_add, if_pos rfl]
    rfl
  dsimp only at hmade
  split at hmade
  · obtain ⟨content, b₂, hcontent, hfilled⟩ := bind_eq_some hmade
    obtain ⟨u, b₃, happend, hfilled⟩ := bind_eq_some hfilled
    cases hfilled
    have hadded' := hadded.trans (.newNode hcontent)
    obtain ⟨rfl, rfl⟩ := newNode_eq hcontent
    obtain ⟨t, ht, rfl⟩ := changeTree_eq_some happend
    have hnone := (b.tree.add (.element e)).1.parent?_add_self .fragment
    refine ⟨rfl, ?_, ?_, hadded'.append (by simp) hnone ht⟩
    · simp [Tree.size_append ht]
    · rw [Tree.element?_append ht, Tree.element?_add .fragment (by simp), helement]
  · cases hmade
    exact ⟨rfl, by simp, helement, hadded⟩

lemma current_eq {rest : List NodeId} (h : b.opened = n :: rest) : current b = some (n, b) := by
  rw [current, get_bind, h]
  rfl

/-- Without a target a node goes into the current element. -/
lemma placeFor_none {rest : List NodeId} (h : b.opened = n :: rest) :
    placeFor none b = placeFor (some n) b := by
  change (current b).bind _ = _
  rw [current_eq h]
  rfl

/-- Where a node is put when nothing is moved out of tables. -/
lemma placeFor_some {place : Place} (hplace : b.fostering = false)
    (h : placeFor (some n) b = some (place, b')) :
    ∃ p, place = .lastIn p ∧ (b.tree.label? n ≠ some (.html, "template") → p = n) := by
  unfold placeFor at h
  obtain ⟨m, b₁, hpure, hplaced⟩ := bind_eq_some h
  cases hpure
  obtain ⟨c, b₂, hget, hplaced⟩ := bind_eq_some hplaced
  cases hget
  dsimp only at hplaced
  rw [hplace, Bool.false_and, if_neg Bool.false_ne_true] at hplaced
  by_cases htemplate : (b.tree.element? n).any (·.isHtml "template")
  · rw [if_pos htemplate] at hplaced
    cases hcontent : (templateContent b.tree n).map Place.lastIn with
    | none =>
        rw [hcontent] at hplaced
        cases hplaced
    | some q =>
        rw [hcontent] at hplaced
        cases hplaced
        obtain ⟨p, -, rfl⟩ := Option.map_eq_some_iff.mp hcontent
        exact ⟨p, rfl, fun hne => absurd (Tree.any_isHtml_iff.mp htemplate) hne⟩
  · rw [if_neg htemplate] at hplaced
    cases hplaced
    exact ⟨n, rfl, fun _ => rfl⟩

lemma placeFor_inPlace {target : Option NodeId} {place : Place} (hplace : b.fostering = false)
    (h : placeFor target b = some (place, b')) : ∃ p, place = .lastIn p := by
  cases target with
  | some n => exact (placeFor_some hplace h).imp fun _ hp => hp.1
  | none =>
      cases hopened : b.opened with
      | nil =>
          have hcurrent : current b = none := by
            rw [current, get_bind, hopened]
            rfl
          change (current b).bind _ = _ at h
          rw [hcurrent] at h
          cases h
      | cons n rest =>
          rw [placeFor_none hopened] at h
          exact (placeFor_some hplace h).imp fun _ hp => hp.1

instance (text : String) : Keeps Adds (insertText text) where
  keeps b u b' h hplace := by
    obtain ⟨place, b₁, hplaced, hput⟩ := bind_eq_some h
    obtain rfl := placeFor_eq hplaced
    obtain ⟨p, rfl⟩ := placeFor_inPlace hplace hplaced
    obtain ⟨t, ht, rfl⟩ := changeTree_eq_some hput
    exact ⟨rfl, .appendText ht, fun g hlt hg => hg.appendText hlt ht,
      fun a ha => Tree.firstChild?_appendText ht ha⟩

/-- A node that was made on the way is put into its place. -/
lemma Added.put {m : Builder} {target : Option NodeId} {place : Place} {u : Unit}
    (h : Added b m) (hplace : b.fostering = false) (hc : b.tree.nodes.size ≤ n)
    (hnone : m.tree.parent? n = none) (hplaced : placeFor target m = some (place, m))
    (hput : putNode place n m = some (u, b')) : Added b b' := by
  have hm : m.fostering = false := by rw [h.rest]; exact hplace
  obtain ⟨p, rfl⟩ := placeFor_inPlace hm hplaced
  obtain ⟨t, ht, rfl⟩ := changeTree_eq_some hput
  exact h.append hc hnone ht

instance (text : String) : Keeps Adds (insertComment text) where
  keeps b u b' h hplace := by
    obtain ⟨n, b₁, hnew, h⟩ := bind_eq_some h
    obtain ⟨place, b₂, hplaced, hput⟩ := bind_eq_some h
    obtain rfl := placeFor_eq hplaced
    exact (Added.newNode hnew).put hplace (newNode_eq hnew).1.ge (parent?_newNode hnew) hplaced hput

/-- An element that is inserted has the next free place. -/
lemma insert_eq {e : Element} (hplace : b.fostering = false) (h : insert e b = some (n, b')) :
    n = b.tree.nodes.size ∧ n < b'.tree.nodes.size ∧ b'.tree.element? n = some e ∧ Added b b' := by
  obtain ⟨m, b₁, hnew, hinsert⟩ := bind_eq_some h
  obtain ⟨place, b₂, hplaced, hinsert⟩ := bind_eq_some hinsert
  obtain ⟨u, b₃, hput, hlast⟩ := bind_eq_some hinsert
  cases hlast
  obtain rfl := placeFor_eq hplaced
  obtain ⟨hn, hlt, helement, hadded⟩ := newElement_eq hnew
  have hinserted := hadded.put hplace hn.ge (parent?_newElement hnew) hplaced hput
  obtain ⟨p, rfl⟩ := placeFor_inPlace (by rw [hadded.rest]; exact hplace) hplaced
  obtain ⟨t, ht, rfl⟩ := changeTree_eq_some hput
  exact ⟨hn, (Tree.size_append ht) ▸ hlt, (Tree.element?_append ht n).trans helement, hinserted⟩

instance (e : Element) : Keeps Adds (insert e) := ⟨fun _ _ _ h hplace => (insert_eq hplace h).2.2.2⟩
instance (tag : Tag) : Keeps Adds (startVoid tag) := by unfold startVoid; infer_instance

/-! ## Opening elements -/

/-- A node that a page has got since is younger than its open bodies. -/
lemma Added.younger (h : Added b b') (hs : Steady b) (hn : b.tree.nodes.size ≤ n)
    (hlt : n < b'.tree.nodes.size) : Younger b' n where
  inTree := hlt
  body g hg := by
    exact (hs.inTree g (h.opened ▸ hg.1)).trans_le hn

/-- A body that is open after something was added was open before. -/
lemma Added.openBody {g : NodeId} (h : Added b b') (hs : Steady b) (hg : OpenBody b' g) :
    OpenBody b g := by
  have hmem : g ∈ b.opened := h.opened ▸ hg.1
  exact ⟨hmem, h.grown.label g (hs.inTree g hmem) ▸ hg.2⟩

/-- An element that is neither a body nor a template may be inserted and opened. -/
lemma Steady.open {e : Element} (hs : Steady b) (h : insert e b = some (n, b'))
    (hbody : (e.space, e.name) ≠ (.html, "body"))
    (htemplate : (e.space, e.name) ≠ (.html, "template")) :
    Steady { b' with opened := n :: b'.opened } ∧
      (∀ g, OpenBody { b' with opened := n :: b'.opened } g → OpenBody b g) := by
  obtain ⟨hn, hlt, helement, hadded⟩ := insert_eq hs.inPlace h
  have hlabel : b'.tree.label? n = some (e.space, e.name) := by rw [Tree.label?, helement]; rfl
  have hne : b'.tree.label? n ≠ some (.html, "body") := by
    rw [hlabel]
    exact fun heq => hbody (Option.some.inj heq)
  have hinner : Inner b' n := ⟨hadded.younger hs hn.ge hlt, hne, by
    rw [hlabel]
    exact fun heq => htemplate (Option.some.inj heq)⟩
  have hsteady := hadded.steady hs
  refine ⟨hsteady.openWithin (List.forall_mem_singleton.mpr hinner) (List.Sublist.refl _),
    fun g hg => hadded.openBody hs ⟨?_, hg.2⟩⟩
  exact (List.mem_cons.mp hg.1).resolve_left fun heq => hne (heq ▸ hg.2)

/-- What opening an element of a tag does to a steady page. -/
structure Opened (b b' : Builder) (n : NodeId) : Prop where
  steady : Steady b'
  younger : Younger b' n
  still : ∀ m, Younger b m → Younger b' m
  mode : b'.mode = b.mode
  returnMode : b'.returnMode = b.returnMode

lemma opened_openElement {tag : Tag} [husual : Usual tag] (hs : Steady b)
    (h : openElement tag b = some (n, b')) : Opened b b' n := by
  obtain ⟨m, b₁, hinsert, hopen⟩ := bind_eq_some h
  obtain ⟨u, b₂, hpush, hlast⟩ := bind_eq_some hopen
  cases hlast
  cases hpush
  obtain ⟨hn, hlt, -, hadded⟩ := insert_eq hs.inPlace hinsert
  obtain ⟨hsteady, hbody⟩ := hs.open hinsert (fun heq => husual.body (congrArg Prod.snd heq))
    fun heq => husual.template (congrArg Prod.snd heq)
  refine ⟨hsteady, ⟨hlt, fun g hg => ?_⟩, fun m hm => ⟨?_, fun g hg => hm.body g (hbody g hg)⟩,
    hadded.mode, hadded.returnMode⟩
  · exact (hs.inTree g (hbody g hg).1).trans_le hn.ge
  · exact hm.inTree.trans_le hadded.grown.size

section Usual

variable (tag : Tag) [Usual tag]

instance : Keeps Mild (openElement tag) where
  keeps b n b' h hs := by
    have hopened := opened_openElement hs h
    exact ⟨hopened.steady, hopened.mode, hopened.returnMode⟩

instance : Keeps Mild (start tag) := by unfold start; infer_instance

end Usual

end Build

end PageCrawl.Html
