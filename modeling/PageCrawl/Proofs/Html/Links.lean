import Mathlib
import PageCrawl.Html.Tree

/-!
# Links that a walk follows

A walk enters the first child of a node and the neighbour after it, whatever these say of
themselves.  `Tree.Linked` says that each node entered in this way names a parent, and that the
links which only serve to place new nodes stay within the table.  The operations on a tree keep it,
on whatever nodes they are called: nodes named as a first child or as a neighbour lose their parent
only when they are detached, and then they are given another one at once.  In between the tree is
`LinkedBut` for the node that is moved.

A node that is detached and left aside needs more.  `Tree.Anchored` says of a node that nobody names
it as its first child, and that the only one who names it as its neighbour was made before it and is
known to it.  This is kept as long as none but later nodes are moved, and after the node itself is
detached nobody leads to it (`Anchored.detach_self`).
-/

namespace PageCrawl.Html.Tree

variable {t t' : Tree} {a c g n p : NodeId} {f : Node → Node} {x o : Option NodeId}

/-! ## Changing one node -/

@[simp] lemma node?_modify (t : Tree) (n : NodeId) (f : Node → Node) (a : NodeId) :
    (t.modify n f).node? a = if n = a then (t.node? a).map f else t.node? a := by
  simp [modify, node?, Array.getElem?_modify]

@[simp] lemma size_modify (t : Tree) (n : NodeId) (f : Node → Node) :
    (t.modify n f).nodes.size = t.nodes.size := by
  simp [modify]

@[simp] lemma size_modify? (t : Tree) (o : Option NodeId) (f : Node → Node) :
    (t.modify? o f).nodes.size = t.nodes.size := by
  cases o <;> simp [modify?]

/-- A node after a change, from what it was before. -/
lemma exists_of_node?_modify {y : Node} (h : (t.modify n f).node? a = some y) :
    ∃ z, t.node? a = some z ∧ (y = z ∨ n = a ∧ y = f z) := by
  rw [node?_modify] at h
  split at h
  · next heq =>
      obtain ⟨z, hz, rfl⟩ := Option.map_eq_some_iff.mp h
      exact ⟨z, hz, .inr ⟨heq, rfl⟩⟩
  · exact ⟨y, h, .inl rfl⟩

lemma parent?_modify (hf : ∀ y : Node, (f y).parent = y.parent) (a : NodeId) :
    (t.modify n f).parent? a = t.parent? a := by
  rw [parent?, parent?, node?_modify]
  split
  · cases hn : t.node? a with
    | none => rfl
    | some y => exact hf y
  · rfl

/-- The element that a kind of node is. -/
def elementIn : NodeKind → Option Element
  | .element e => some e
  | _ => none

lemma element?_eq (t : Tree) (a : NodeId) :
    t.element? a = (t.node? a).bind fun y => elementIn y.kind := by
  rw [element?]
  cases t.node? a with
  | none => rfl
  | some y =>
      obtain ⟨kind, _, _, _, _⟩ := y
      cases kind <;> rfl

lemma element?_modify (hf : ∀ y : Node, elementIn (f y).kind = elementIn y.kind) (a : NodeId) :
    (t.modify n f).element? a = t.element? a := by
  rw [element?_eq, element?_eq, node?_modify]
  split
  · cases t.node? a with
    | none => rfl
    | some y => exact hf y
  · rfl

lemma element?_modify? (hf : ∀ y : Node, elementIn (f y).kind = elementIn y.kind)
    (o : Option NodeId) (a : NodeId) : (t.modify? o f).element? a = t.element? a := by
  cases o with
  | none => rfl
  | some n => exact element?_modify hf a

lemma parent?_modify? (hf : ∀ y : Node, (f y).parent = y.parent) (o : Option NodeId) (a : NodeId) :
    (t.modify? o f).parent? a = t.parent? a := by
  cases o with
  | none => rfl
  | some n => exact parent?_modify hf a

lemma lt_size_of_parent? (h : t.parent? c = some p) : c < t.nodes.size := by
  rw [parent?, node?] at h
  by_contra hge
  rw [Array.getElem?_eq_none (Nat.not_lt.mp hge)] at h
  cases h

/-! ## Nodes that walks come to -/

/-- A node that names a parent, or that is being moved. -/
def Held (t : Tree) (x : Option NodeId) (c : NodeId) : Prop := x = some c ∨ (t.parent? c).isSome

/-- The links of one node: a walk goes on to nodes that are held, and the others are in the
table. -/
structure Sound (t : Tree) (x : Option NodeId) (y : Node) : Prop where
  children : ∀ ends, y.children = some ends → t.Held x ends.1 ∧ ends.2 < t.nodes.size
  next : ∀ c, y.next = some c → t.Held x c
  previous : ∀ c, y.previous = some c → c < t.nodes.size

/-- All links are sound but for the node that is being moved. -/
def LinkedBut (t : Tree) (x : Option NodeId) : Prop := ∀ a y, t.node? a = some y → t.Sound x y

/-- **Every node that a walk may come to names a parent.** -/
def Linked (t : Tree) : Prop := t.LinkedBut none

lemma linked_empty : Tree.empty.Linked := by
  intro a y hy
  rw [node?, empty, Array.getElem?_singleton] at hy
  -- the document is the only node, and it has no links
  split at hy
  · cases hy
    exact ⟨nofun, nofun, nofun⟩
  · cases hy

lemma Sound.mono {y : Node} (hsize : t.nodes.size ≤ t'.nodes.size)
    (hheld : ∀ c, t.Held x c → t'.Held x c) (h : t.Sound x y) : t'.Sound x y where
  children ends hends :=
    ⟨hheld _ (h.children ends hends).1, (h.children ends hends).2.trans_le hsize⟩
  next c hc := hheld c (h.next c hc)
  previous c hc := (h.previous c hc).trans_le hsize

lemma Linked.but (h : t.Linked) (x : Option NodeId) : t.LinkedBut x := by
  have hheld : ∀ c, t.Held none c → t.Held x c := fun c hc =>
    hc.elim (fun hnone => nomatch hnone) .inr
  intro a y hy
  obtain ⟨hchildren, hnext, hprevious⟩ := h a y hy
  exact ⟨fun ends hends => ⟨hheld _ (hchildren ends hends).1, (hchildren ends hends).2⟩,
    fun c hc => hheld c (hnext c hc), hprevious⟩

/-- The node that was being moved has arrived. -/
lemma LinkedBut.arrived (h : t.LinkedBut (some c)) (hc : (t.parent? c).isSome) : t.Linked := by
  have hheld : ∀ d, t.Held (some c) d → t.Held none d := by
    rintro d (heq | hd)
    · exact .inr (Option.some.inj heq ▸ hc)
    · exact .inr hd
  intro a y hy
  obtain ⟨hchildren, hnext, hprevious⟩ := h a y hy
  exact ⟨fun ends hends => ⟨hheld _ (hchildren ends hends).1, (hchildren ends hends).2⟩,
    fun d hd => hheld d (hnext d hd), hprevious⟩

/-- A change that leaves nodes held and the links of its node sound. -/
lemma LinkedBut.modify_held (h : t.LinkedBut x) (hheld : ∀ c, t.Held x c → (t.modify n f).Held x c)
    (hf : ∀ y, t.Sound x y → t.Sound x (f y)) : (t.modify n f).LinkedBut x := by
  intro a y hy
  refine Sound.mono (size_modify t n f).ge hheld ?_
  obtain ⟨z, hz, rfl | ⟨-, rfl⟩⟩ := exists_of_node?_modify hy
  · exact h a y hz
  · exact hf z (h a z hz)

lemma Held.modify (h : t.Held x c) (hparent : ∀ y : Node, y.parent.isSome → (f y).parent.isSome) :
    (t.modify n f).Held x c := by
  refine h.imp_right fun hc => ?_
  obtain ⟨p, hp⟩ := Option.isSome_iff_exists.mp hc
  obtain ⟨y, hy, hyp⟩ := Option.bind_eq_some_iff.mp hp
  rw [parent?, node?_modify, hy]
  split
  · exact hparent y (by rw [hyp]; rfl)
  · simp [hyp]

/-- A change that takes no parent away. -/
lemma LinkedBut.modify (h : t.LinkedBut x)
    (hparent : ∀ y : Node, y.parent.isSome → (f y).parent.isSome)
    (hf : ∀ y, t.Sound x y → t.Sound x (f y)) : (t.modify n f).LinkedBut x :=
  h.modify_held (fun _ hc => hc.modify hparent) hf

lemma LinkedBut.setNext (h : t.LinkedBut x) (ho : ∀ c, o = some c → t.Held x c) :
    (t.modify n fun y => { y with next := o }).LinkedBut x :=
  h.modify (fun _ => id) fun _ hy => ⟨hy.children, ho, hy.previous⟩

lemma LinkedBut.setPrevious (h : t.LinkedBut x) (ho : ∀ c, o = some c → c < t.nodes.size) :
    (t.modify n fun y => { y with previous := o }).LinkedBut x :=
  h.modify (fun _ => id) fun _ hy => ⟨hy.children, hy.next, ho⟩

lemma LinkedBut.setParent (h : t.LinkedBut x) :
    (t.modify n fun y => { y with parent := some p }).LinkedBut x :=
  h.modify (fun _ _ => rfl) fun _ hy => ⟨hy.children, hy.next, hy.previous⟩

lemma LinkedBut.setChildren {ends : Option (NodeId × NodeId)} (h : t.LinkedBut x)
    (hends : ∀ e, ends = some e → t.Held x e.1 ∧ e.2 < t.nodes.size) :
    (t.modify n fun y => { y with children := ends }).LinkedBut x :=
  h.modify (fun _ => id) fun _ hy => ⟨hends, hy.next, hy.previous⟩

/-! ## Detaching -/

/-- The tree in which a node has left its siblings; its parent is still to be told. -/
def loosen (t : Tree) (n : NodeId) (node : Node) : Tree :=
  ((t.modify n fun y => { y with parent := none, previous := none, next := none }).modify?
    node.previous fun y => { y with next := node.next }).modify?
      node.next fun y => { y with previous := node.previous }

/-- **What detaching a node does**: nothing if it stands nowhere; else it leaves its siblings, and
its parent may get other ends. -/
lemma detach_cases (h : t.detach n = some t') : (t.parent? n = none ∧ t' = t) ∨
    ∃ node, t.node? n = some node ∧ (t' = t.loosen n node ∨
      ∃ p first last ends, ((t.loosen n node).node? p).bind (·.children) = some (first, last) ∧
        t' = (t.loosen n node).modify p (fun y => { y with children := ends }) ∧
        ∀ e, ends = some e → (e.1 = first ∨ node.next = some e.1) ∧
          (e.2 = last ∨ node.previous = some e.2)) := by
  unfold detach at h
  obtain ⟨node, hnode, h⟩ := Option.bind_eq_some_iff.mp h
  cases hp : node.parent with
  | none =>
      simp only [hp, Option.some.injEq] at h
      exact .inl ⟨by simp [parent?, hnode, hp], h.symm⟩
  | some p =>
      simp only [hp] at h
      change (((t.loosen n node).node? p).bind fun y => y.children.bind _) = some t' at h
      obtain ⟨y, hy, h⟩ := Option.bind_eq_some_iff.mp h
      obtain ⟨⟨first, last⟩, hends, h⟩ := Option.bind_eq_some_iff.mp h
      refine .inr ⟨node, hnode, ?_⟩
      have hp : ((t.loosen n node).node? p).bind (·.children) = some (first, last) := by
        rw [hy]
        exact hends
      simp only [bind] at h
      split at h
      · exact .inr ⟨p, first, last, none, hp, (Option.some.inj h).symm, by simp⟩
      split at h
      · obtain ⟨c, hc, h⟩ := Option.bind_eq_some_iff.mp h
        refine .inr ⟨p, first, last, some (c, last), hp, (Option.some.inj h).symm, ?_⟩
        rintro e ⟨⟩
        exact ⟨.inr hc, .inl rfl⟩
      split at h
      · obtain ⟨c, hc, h⟩ := Option.bind_eq_some_iff.mp h
        refine .inr ⟨p, first, last, some (first, c), hp, (Option.some.inj h).symm, ?_⟩
        rintro e ⟨⟩
        exact ⟨.inl rfl, .inr hc⟩
      · exact .inl (Option.some.inj h).symm

lemma node?_of_modify? {y : Node} (h : (t.modify? o f).node? a = some y) :
    ∃ z, t.node? a = some z ∧ (y = z ∨ o = some a ∧ y = f z) := by
  cases o with
  | none => exact ⟨y, h, .inl rfl⟩
  | some n =>
      obtain ⟨z, hz, hy⟩ := exists_of_node?_modify h
      exact ⟨z, hz, hy.imp_right fun hy => ⟨congrArg some hy.1, hy.2⟩⟩

lemma parent?_loosen (node : Node) (a : NodeId) :
    (t.loosen n node).parent? a = if n = a then none else t.parent? a := by
  rw [loosen, parent?_modify? (by exact fun _ => rfl), parent?_modify? (by exact fun _ => rfl),
    parent?, node?_modify]
  split
  · cases t.node? a <;> rfl
  · rfl

lemma size_detach (h : t.detach n = some t') : t'.nodes.size = t.nodes.size := by
  rcases detach_cases h with ⟨-, rfl⟩ | ⟨node, -, rfl | ⟨p, first, last, ends, -, rfl, -⟩⟩ <;>
    simp [loosen]

lemma element?_detach (h : t.detach n = some t') (a : NodeId) :
    t'.element? a = t.element? a := by
  have hloosen : ∀ node, (t.loosen n node).element? a = t.element? a := fun node => by
    rw [loosen, element?_modify? (by exact fun _ => rfl), element?_modify? (by exact fun _ => rfl),
      element?_modify (by exact fun _ => rfl)]
  rcases detach_cases h with ⟨-, rfl⟩ | ⟨node, -, rfl | ⟨p, first, last, ends, -, rfl, -⟩⟩
  · rfl
  · exact hloosen node
  · rw [element?_modify (by exact fun _ => rfl), hloosen node]

/-- A node that is detached stands nowhere, and all others stand where they stood. -/
lemma parent?_detach (h : t.detach n = some t') (a : NodeId) :
    t'.parent? a = if n = a then none else t.parent? a := by
  rcases detach_cases h with ⟨hnone, rfl⟩ | ⟨node, -, rfl | ⟨p, first, last, ends, -, rfl, -⟩⟩
  · split
    · next heq => exact heq ▸ hnone
    · rfl
  · exact parent?_loosen node a
  · rw [parent?_modify (by exact fun _ => rfl), parent?_loosen node a]

lemma LinkedBut.modify? (h : t.LinkedBut x)
    (hparent : ∀ y : Node, y.parent.isSome → (f y).parent.isSome)
    (hf : ∀ y, t.Sound x y → t.Sound x (f y)) : (t.modify? o f).LinkedBut x := by
  cases o with
  | none => exact h
  | some n => exact h.modify hparent hf

lemma LinkedBut.loosen {node : Node} (h : t.LinkedBut (some n)) (hn : t.node? n = some node) :
    (t.loosen n node).LinkedBut (some n) := by
  let out : Tree := t.modify n fun y => { y with parent := none, previous := none, next := none }
  have hheld : ∀ c, t.Held (some n) c → out.Held (some n) c := by
    intro c hc
    by_cases heq : n = c
    · exact .inl (congrArg some heq)
    · refine hc.imp_right fun hc => ?_
      rwa [parent?, node?_modify, if_neg heq]
  have hout : out.LinkedBut (some n) :=
    h.modify_held hheld fun y hy => ⟨hy.children, by simp, by simp⟩
  -- the neighbours of the node become neighbours of each other
  have hsound := (h n node hn).mono (size_modify t n _).ge hheld
  have hbefore := hout.modify? (o := node.previous) (f := fun y => { y with next := node.next })
    (fun _ => id) fun y hy => ⟨hy.children, hsound.next, hy.previous⟩
  refine hbefore.modify? (fun _ => id) fun y hy => ⟨hy.children, hy.next, fun c hc => ?_⟩
  rw [size_modify?]
  exact hsound.previous c hc

/-- Detaching a node leaves all others held. -/
lemma LinkedBut.detach (h : t.LinkedBut (some n)) (hd : t.detach n = some t') :
    t'.LinkedBut (some n) := by
  rcases detach_cases hd with ⟨-, rfl⟩ | ⟨node, hn, rfl | ⟨p, first, last, ends, hp, rfl, hends⟩⟩
  · exact h
  · exact h.loosen hn
  · have hloosen := h.loosen hn
    have hheld : ∀ c, t.Held (some n) c → (t.loosen n node).Held (some n) c := by
      intro c hc
      by_cases heq : n = c
      · exact .inl (congrArg some heq)
      · refine hc.imp_right fun hc => ?_
        rwa [parent?_loosen, if_neg heq]
    have hsound := h n node hn
    obtain ⟨y, hy, hye⟩ := Option.bind_eq_some_iff.mp hp
    have hold := (hloosen p y hy).children _ hye
    refine hloosen.setChildren fun e he => ?_
    obtain ⟨hfirst, hlast⟩ := hends e he
    constructor
    · rcases hfirst with heq | hnext
      · exact heq ▸ hold.1
      · exact hheld _ (hsound.next _ hnext)
    · rcases hlast with heq | hprevious
      · exact heq ▸ hold.2
      · have hlt := hsound.previous _ hprevious
        simpa [Tree.loosen] using hlt

/-! ## Putting nodes in their place -/

lemma lt_size_of_node? {y : Node} (h : t.node? a = some y) : a < t.nodes.size := by
  by_contra hge
  rw [node?, Array.getElem?_eq_none (Nat.not_lt.mp hge)] at h
  cases h

lemma lt_size_of_detach (h : t.detach n = some t') : n < t.nodes.size := by
  obtain ⟨node, hnode, -⟩ := Option.bind_eq_some_iff.mp h
  exact lt_size_of_node? hnode

lemma LinkedBut.lastChild?_lt (h : t.LinkedBut x) (hc : t.lastChild? a = some c) :
    c < t.nodes.size := by
  obtain ⟨ends, hends, rfl⟩ := Option.map_eq_some_iff.mp hc
  obtain ⟨y, hy, hye⟩ := Option.bind_eq_some_iff.mp hends
  exact ((h a y hy).children ends hye).2

/-- **What appending a node does**: it is detached, and becomes the last child of its new parent. -/
lemma append_cases (h : t.append p c = some t') : ∃ s, t.detach c = some s ∧
    t' = ((s.modify c fun y => { y with parent := some p, previous := t.lastChild? p }).modify?
      (t.lastChild? p) fun y => { y with next := some c }).modify p
        fun y => { y with children := some ((y.children.map (·.1)).getD c, c) } := by
  obtain ⟨s, hs, h⟩ := Option.bind_eq_some_iff.mp h
  exact ⟨s, hs, (Option.some.inj h).symm⟩

lemma size_append (h : t.append p c = some t') : t'.nodes.size = t.nodes.size := by
  obtain ⟨s, hs, rfl⟩ := append_cases h
  simpa using size_detach hs

lemma element?_append (h : t.append p c = some t') (a : NodeId) :
    t'.element? a = t.element? a := by
  obtain ⟨s, hs, rfl⟩ := append_cases h
  rw [element?_modify (by exact fun _ => rfl), element?_modify? (by exact fun _ => rfl),
    element?_modify (by exact fun _ => rfl), element?_detach hs]

lemma firstChild?_modify (hf : ∀ y : Node, (f y).children = y.children) (a : NodeId) :
    (t.modify n f).firstChild? a = t.firstChild? a := by
  rw [firstChild?, firstChild?, node?_modify]
  split
  · cases t.node? a with
    | none => rfl
    | some y => exact congrArg (Option.map _) (hf y)
  · rfl

lemma firstChild?_modify? (hf : ∀ y : Node, (f y).children = y.children) (o : Option NodeId)
    (a : NodeId) : (t.modify? o f).firstChild? a = t.firstChild? a := by
  cases o with
  | none => rfl
  | some n => exact firstChild?_modify hf a

lemma parent?_placed {s : Tree} {y : Node} (hy : s.node? c = some y) (hf : (f y).parent = some p)
    (a : NodeId) : (s.modify c f).parent? a = if c = a then some p else s.parent? a := by
  rw [parent?, node?_modify]
  split
  · next heq =>
      subst heq
      rw [hy, Option.map_some, Option.bind_some, hf]
  · rfl

lemma parent?_append (h : t.append p c = some t') (a : NodeId) :
    t'.parent? a = if c = a then some p else t.parent? a := by
  obtain ⟨s, hs, rfl⟩ := append_cases h
  have hlt : c < s.nodes.size := (size_detach hs) ▸ lt_size_of_detach hs
  obtain ⟨y, hy⟩ : ∃ y, s.node? c = some y := ⟨_, Array.getElem?_eq_getElem hlt⟩
  rw [parent?_modify (by exact fun _ => rfl), parent?_modify? (by exact fun _ => rfl),
    parent?_placed (p := p) hy (by rfl), parent?_detach hs]
  split <;> rfl

/-- **A node that is appended is held again.** -/
lemma LinkedBut.append (h : t.LinkedBut (some c)) (ha : t.append p c = some t') : t'.Linked := by
  have hparent : (t'.parent? c).isSome := by simp [parent?_append ha]
  refine LinkedBut.arrived ?_ hparent
  obtain ⟨s, hs, rfl⟩ := append_cases ha
  have hsize := size_detach hs
  have hlast : ∀ l, t.lastChild? p = some l → l < s.nodes.size :=
    fun l hl => hsize ▸ h.lastChild?_lt hl
  have hplaced := (h.detach hs).modify (n := c)
    (f := fun y => { y with parent := some p, previous := t.lastChild? p }) (fun _ _ => rfl)
    fun y hy => ⟨hy.children, hy.next, hlast⟩
  have hnext := hplaced.modify? (o := t.lastChild? p) (f := fun y => { y with next := some c })
    (fun _ => id) fun y hy => ⟨hy.children, fun d hd => .inl hd, hy.previous⟩
  refine hnext.modify (fun _ => id) fun y hy => ⟨?_, hy.next, hy.previous⟩
  rintro e ⟨⟩
  refine ⟨?_, by simpa [hsize] using lt_size_of_detach hs⟩
  cases hends : y.children with
  | none => exact .inl rfl
  | some ends => simpa using (hy.children ends hends).1

/-- **What inserting a node before another does**: it is detached, and takes its place between the
other and the neighbour before. -/
lemma insertBefore_cases {sibling : NodeId} (h : t.insertBefore sibling c = some t') :
    ∃ node p s r, t.node? sibling = some node ∧ node.parent = some p ∧ t.detach c = some s ∧
      r = ((s.modify c fun y =>
        { y with parent := some p, previous := node.previous, next := some sibling }).modify?
          node.previous fun y => { y with next := some c }).modify sibling
            (fun y => { y with previous := some c }) ∧
      (t' = r ∨ ∃ first last, (r.node? p).bind (·.children) = some (first, last) ∧
        t' = r.modify p fun y => { y with children := some (c, last) }) := by
  obtain ⟨node, hnode, h⟩ := Option.bind_eq_some_iff.mp h
  obtain ⟨p, hp, h⟩ := Option.bind_eq_some_iff.mp h
  obtain ⟨s, hs, h⟩ := Option.bind_eq_some_iff.mp h
  obtain ⟨y, hy, h⟩ := Option.bind_eq_some_iff.mp h
  obtain ⟨⟨first, last⟩, hends, h⟩ := Option.bind_eq_some_iff.mp h
  refine ⟨node, p, s, _, hnode, hp, hs, rfl, ?_⟩
  simp only at h
  split at h
  · exact .inr ⟨first, last, by rw [hy]; exact hends, (Option.some.inj h).symm⟩
  · exact .inl (Option.some.inj h).symm

lemma parent?_insertBefore {sibling : NodeId} (h : t.insertBefore sibling c = some t')
    (a : NodeId) : t'.parent? a = if c = a then t.parent? sibling else t.parent? a := by
  obtain ⟨node, p, s, r, hnode, hp, hs, rfl, ht⟩ := insertBefore_cases h
  have hsibling : t.parent? sibling = some p := by rw [parent?, hnode, Option.bind_some, hp]
  have hlt : c < s.nodes.size := (size_detach hs) ▸ lt_size_of_detach hs
  obtain ⟨y, hy⟩ : ∃ y, s.node? c = some y := ⟨_, Array.getElem?_eq_getElem hlt⟩
  have hparent : t'.parent? a = if c = a then some p else s.parent? a := by
    rcases ht with rfl | ⟨first, last, -, rfl⟩
    · rw [parent?_modify (by exact fun _ => rfl), parent?_modify? (by exact fun _ => rfl),
        parent?_placed (p := p) hy (by rfl)]
    · rw [parent?_modify (by exact fun _ => rfl), parent?_modify (by exact fun _ => rfl),
        parent?_modify? (by exact fun _ => rfl), parent?_placed (p := p) hy (by rfl)]
  rw [hparent, parent?_detach hs, hsibling]
  split <;> rfl

/-- **A node that is inserted is held again.** -/
lemma LinkedBut.insertBefore {sibling : NodeId} (h : t.LinkedBut (some c))
    (hi : t.insertBefore sibling c = some t') : t'.Linked := by
  have hparent : (t'.parent? c).isSome := by
    obtain ⟨node, p, -, -, hnode, hp, -⟩ := insertBefore_cases hi
    rw [parent?_insertBefore hi, if_pos rfl, parent?, hnode, Option.bind_some, hp]
    rfl
  refine LinkedBut.arrived ?_ hparent
  obtain ⟨node, p, s, r, hnode, hp, hs, hr, ht⟩ := insertBefore_cases hi
  have hsize := size_detach hs
  have hnodes := h sibling node hnode
  have hprevious : ∀ d, node.previous = some d → d < s.nodes.size :=
    fun d hd => hsize ▸ hnodes.previous d hd
  have hsibling : s.Held (some c) sibling := by
    by_cases heq : c = sibling
    · exact .inl (congrArg some heq)
    · refine .inr ?_
      rw [parent?_detach hs, if_neg heq, parent?, hnode, Option.bind_some, hp]
      rfl
  have hplaced := (h.detach hs).modify (n := c) (f := fun y =>
      { y with parent := some p, previous := node.previous, next := some sibling })
    (fun _ _ => rfl) fun y hy => ⟨hy.children, by rintro d ⟨⟩; exact hsibling, hprevious⟩
  have hnext := hplaced.modify? (o := node.previous) (f := fun y => { y with next := some c })
    (fun _ => id) fun y hy => ⟨hy.children, fun d hd => .inl hd, hy.previous⟩
  have hlt := lt_size_of_detach hs
  have hbefore : r.LinkedBut (some c) := by
    rw [hr]
    refine hnext.setPrevious ?_
    rintro d ⟨⟩
    simpa [hsize] using hlt
  rcases ht with rfl | ⟨first, last, hends, rfl⟩
  · exact hbefore
  · obtain ⟨y, hy, hye⟩ := Option.bind_eq_some_iff.mp hends
    refine hbefore.setChildren ?_
    rintro e ⟨⟩
    exact ⟨.inl rfl, ((hbefore p y hy).children _ hye).2⟩

/-- Moving the children of a node takes no parent away. -/
lemma Linked.moveChildren (h : t.Linked) (source target : NodeId) :
    (t.moveChildren source target).Linked := by
  unfold Tree.moveChildren
  split
  · exact h
  · next first last hends =>
      obtain ⟨y, hy, hye⟩ := Option.bind_eq_some_iff.mp hends
      obtain ⟨hfirst, hlast⟩ := (h source y hy).children _ hye
      let emptied := t.modify source fun y => { y with children := none }
      have hempty : emptied.LinkedBut none := LinkedBut.setChildren h (by simp)
      let told := (emptied.modify first fun y => { y with parent := some target }).modify last
        fun y => { y with parent := some target }
      have htold : told.LinkedBut none := hempty.setParent.setParent
      have hheld : told.Held none first := by
        have hkept : emptied.Held none first := Held.modify hfirst (by exact fun _ h => h)
        exact Held.modify (Held.modify hkept (by exact fun _ _ => rfl)) (by exact fun _ _ => rfl)
      have hlt : last < told.nodes.size := by simpa [told, emptied] using hlast
      simp only
      split
      · refine htold.setChildren ?_
        rintro e ⟨⟩
        exact ⟨hheld, hlt⟩
      · next first' last' hends' =>
          obtain ⟨z, hz, hze⟩ := Option.bind_eq_some_iff.mp hends'
          obtain ⟨hfirst', hlast'⟩ := (htold target z hz).children _ hze
          have hjoined : ((told.modify last' fun y => { y with next := some first }).modify first
              fun y => { y with previous := some last' }).LinkedBut none := by
            refine (htold.setNext ?_).setPrevious ?_
            · rintro c ⟨⟩
              exact hheld
            · rintro c ⟨⟩
              simpa using hlast'
          refine hjoined.setChildren ?_
          rintro e ⟨⟩
          have hheld' := Held.modify (n := last') (f := fun y => { y with next := some first })
            hfirst' fun _ => id
          exact ⟨hheld'.modify fun _ => id, by simpa using hlt⟩

lemma size_moveChildren (t : Tree) (source target : NodeId) :
    (t.moveChildren source target).nodes.size = t.nodes.size := by
  unfold Tree.moveChildren
  dsimp only
  split
  · rfl
  · split <;> simp

lemma element?_moveChildren (t : Tree) (source target a : NodeId) :
    (t.moveChildren source target).element? a = t.element? a := by
  unfold Tree.moveChildren
  dsimp only
  split
  · rfl
  · split <;> repeat rw [element?_modify (by exact fun _ => rfl)]

lemma element?_extendText (t : Tree) (n : NodeId) (more : String) (a : NodeId) :
    (t.extendText n more).element? a = t.element? a := by
  refine element?_modify (fun y => ?_) a
  obtain ⟨kind, _, _, _, _⟩ := y
  cases kind <;> rfl

@[simp] lemma node?_add (t : Tree) (kind : NodeKind) (a : NodeId) :
    (t.add kind).1.node? a = if a = t.nodes.size then some { kind } else t.node? a := by
  simp [Tree.add, node?, Array.getElem?_push]

@[simp] lemma size_add (t : Tree) (kind : NodeKind) :
    (t.add kind).1.nodes.size = t.nodes.size + 1 := by
  simp [Tree.add]

lemma parent?_add (t : Tree) (kind : NodeKind) (a : NodeId) :
    (t.add kind).1.parent? a = t.parent? a := by
  rw [parent?, parent?, node?_add]
  split
  · next heq => simp [heq, node?]
  · rfl

/-- A new node stands nowhere. -/
lemma parent?_add_self (t : Tree) (kind : NodeKind) :
    (t.add kind).1.parent? t.nodes.size = none := by
  rw [parent?_add, parent?, node?, Array.getElem?_eq_none (Nat.le_refl _)]
  rfl

lemma firstChild?_add (t : Tree) (kind : NodeKind) (h : (t.firstChild? a).isSome) :
    ((t.add kind).1.firstChild? a).isSome := by
  obtain ⟨first, hfirst⟩ := Option.isSome_iff_exists.mp h
  obtain ⟨ends, hends, -⟩ := Option.map_eq_some_iff.mp hfirst
  obtain ⟨y, hy, -⟩ := Option.bind_eq_some_iff.mp hends
  rwa [firstChild?, node?_add, if_neg (lt_size_of_node? hy).ne]

/-- A node that is added has no links, and nobody has links to it. -/
lemma LinkedBut.add (h : t.LinkedBut x) (kind : NodeKind) : (t.add kind).1.LinkedBut x := by
  intro a y hy
  rw [node?_add] at hy
  split at hy
  · cases hy
    exact ⟨by simp, by simp, by simp⟩
  · refine (h a y hy).mono (by simp) fun c hc => hc.imp_right fun hc => ?_
    rwa [parent?_add]

lemma Linked.extendText (h : t.Linked) (more : String) : (t.extendText n more).Linked := by
  refine LinkedBut.modify h (fun y => ?_) fun y hy => ?_
  · split <;> exact id
  · split <;> exact ⟨hy.children, hy.next, hy.previous⟩

lemma Linked.append_add {kind : NodeKind} (h : t.Linked)
    (ha : (t.add kind).1.append p (t.add kind).2 = some t') : t'.Linked :=
  LinkedBut.append (Linked.but (LinkedBut.add h kind) _) ha

lemma Linked.appendText {text : String} (h : t.Linked) (ha : t.appendText p text = some t') :
    t'.Linked := by
  unfold Tree.appendText at ha
  split at ha
  · split at ha
    · cases ha
      exact h.extendText text
    · exact h.append_add ha
  · exact h.append_add ha

lemma Linked.insertTextBefore {sibling : NodeId} {text : String} (h : t.Linked)
    (hi : t.insertTextBefore sibling text = some t') : t'.Linked := by
  have hnew : ∀ t', (t.add (.text text)).1.insertBefore sibling (t.add (.text text)).2 = some t' →
      t'.Linked := fun t' hi =>
    LinkedBut.insertBefore (Linked.but (LinkedBut.add h (.text text)) _) hi
  unfold Tree.insertTextBefore at hi
  split at hi
  · cases hi
    exact h
  · split at hi
    · split at hi
      · cases hi
        exact h.extendText text
      · exact hnew t' hi
    · exact hnew t' hi

/-! ## Nodes that can be left aside -/

/-- **A node that nobody leads to once it is detached**: it is nobody's first child, and the only
one whose neighbour it is was made before it and is known to it. -/
def Anchored (t : Tree) (g : NodeId) : Prop := ∀ a y, t.node? a = some y →
  (y.next = some g → a < g ∧ t.previous? g = some a) ∧ ∀ ends, y.children = some ends → ends.1 ≠ g

lemma previous?_modify (h : n = a → ∀ y, (f y).previous = y.previous) :
    (t.modify n f).previous? a = t.previous? a := by
  rw [previous?, previous?, node?_modify]
  split
  · next heq =>
      cases t.node? a with
      | none => rfl
      | some y => exact h heq y
  · rfl

/-- A change that leads nobody to the node, and does not make it forget the neighbour before. -/
lemma Anchored.modify (h : t.Anchored g) (hprevious : n = g → ∀ y, (f y).previous = y.previous)
    (hnext : ∀ y, (f y).next = some g → y.next = some g)
    (hfirst : ∀ y, t.node? n = some y → ∀ ends, (f y).children = some ends →
      y.children.map (·.1) = some ends.1 ∨ ends.1 ≠ g) : (t.modify n f).Anchored g := by
  intro a y hy
  rw [previous?_modify hprevious]
  obtain ⟨z, hz, rfl | ⟨rfl, rfl⟩⟩ := exists_of_node?_modify hy
  · exact h a y hz
  · refine ⟨fun hg => (h n z hz).1 (hnext z hg), fun ends hends => ?_⟩
    rcases hfirst z hz ends hends with hold | hne
    · obtain ⟨old, hold, heq⟩ := Option.map_eq_some_iff.mp hold
      exact heq ▸ (h n z hz).2 old hold
    · exact hne

/-- A change that leaves the children of its node as they are. -/
lemma Anchored.modify_same (h : t.Anchored g)
    (hprevious : n = g → ∀ y, (f y).previous = y.previous)
    (hnext : ∀ y, (f y).next = some g → y.next = some g)
    (hchildren : ∀ y, (f y).children = y.children) : (t.modify n f).Anchored g :=
  h.modify hprevious hnext fun y _ ends hends => .inl (by rw [← hchildren y, hends]; rfl)

/-- The neighbour before is told of the node. -/
lemma Anchored.setNext (h : t.Anchored g) (hlt : n < g) (hprevious : t.previous? g = some n) :
    (t.modify n fun y => { y with next := some g }).Anchored g := by
  intro a y hy
  rw [previous?_modify (by exact fun _ _ => rfl), hprevious]
  obtain ⟨z, hz, rfl | ⟨rfl, rfl⟩⟩ := exists_of_node?_modify hy
  · exact ⟨fun hg => hprevious ▸ (h a y hz).1 hg, (h a y hz).2⟩
  · exact ⟨fun _ => ⟨hlt, rfl⟩, (h n z hz).2⟩

lemma Anchored.modify?_same (h : t.Anchored g)
    (hprevious : o = some g → ∀ y, (f y).previous = y.previous)
    (hnext : ∀ y, (f y).next = some g → y.next = some g)
    (hchildren : ∀ y, (f y).children = y.children) : (t.modify? o f).Anchored g := by
  cases o with
  | none => exact h
  | some n => exact h.modify_same (fun heq => hprevious (congrArg some heq)) hnext hchildren

lemma Anchored.setParent (h : t.Anchored g) (n : NodeId) (parent : Option NodeId) :
    (t.modify n fun y => { y with parent }).Anchored g :=
  h.modify_same (fun _ _ => rfl) (fun _ => id) fun _ => rfl

lemma Anchored.setChildren {ends : Option (NodeId × NodeId)} (h : t.Anchored g)
    (hends : ∀ e, ends = some e → e.1 ≠ g) :
    (t.modify n fun y => { y with children := ends }).Anchored g :=
  h.modify (fun _ _ => rfl) (fun _ => id) fun _ _ e he => .inr (hends e he)

/-- A later node is not before the one that is left aside. -/
lemma Anchored.next_ne {y : Node} (h : t.Anchored g) (hlt : g < n) (hn : t.node? n = some y) :
    y.next ≠ some g := fun hg => Nat.lt_asymm hlt ((h n y hn).1 hg).1

lemma Anchored.detach (h : t.Anchored g) (hlt : g < n) (hd : t.detach n = some t') :
    t'.Anchored g := by
  have hloosen : ∀ node, t.node? n = some node → (t.loosen n node).Anchored g := by
    intro node hn
    have hne := h.next_ne hlt hn
    have hout := h.modify_same (n := n)
      (f := fun y => { y with parent := none, previous := none, next := none })
      (fun heq => absurd heq hlt.ne') (fun _ hnone => nomatch hnone) fun _ => rfl
    have hbefore := hout.modify?_same (o := node.previous)
      (f := fun y => { y with next := node.next }) (fun _ _ => rfl) (fun _ hg => absurd hg hne)
      fun _ => rfl
    exact hbefore.modify?_same (fun hg => absurd hg hne) (fun _ => id) fun _ => rfl
  rcases detach_cases hd with ⟨-, rfl⟩ | ⟨node, hn, rfl | ⟨p, first, last, ends, hp, rfl, hends⟩⟩
  · exact h
  · exact hloosen node hn
  · refine (hloosen node hn).setChildren fun e he => ?_
    rcases (hends e he).1 with heq | hnext
    · obtain ⟨y, hy, hye⟩ := Option.bind_eq_some_iff.mp hp
      exact heq ▸ (hloosen node hn p y hy).2 _ hye
    · exact fun hg => h.next_ne hlt hn (hg ▸ hnext)

lemma Anchored.append (h : t.Anchored g) (hlt : g < c) (ha : t.append p c = some t') :
    t'.Anchored g := by
  obtain ⟨s, hs, rfl⟩ := append_cases ha
  have hplaced := (h.detach hlt hs).modify_same (n := c)
    (f := fun y => { y with parent := some p, previous := t.lastChild? p })
    (fun heq => absurd heq hlt.ne') (fun _ => id) fun _ => rfl
  have hnext := hplaced.modify?_same (o := t.lastChild? p) (f := fun y => { y with next := some c })
    (fun _ _ => rfl) (fun _ hg => absurd (Option.some.inj hg) hlt.ne') fun _ => rfl
  refine hnext.modify (fun _ _ => rfl) (fun _ => id) ?_
  rintro y - e ⟨⟩
  cases hy : y.children with
  | none => exact .inr hlt.ne'
  | some ends => exact .inl (by simp)

lemma Anchored.moveChildren (h : t.Anchored g) (source target : NodeId) :
    (t.moveChildren source target).Anchored g := by
  unfold Tree.moveChildren
  split
  · exact h
  · next first last hends =>
      obtain ⟨y, hy, hye⟩ := Option.bind_eq_some_iff.mp hends
      have hfirst : first ≠ g := (h source y hy).2 _ hye
      have hempty : (t.modify source fun y => { y with children := none }).Anchored g :=
        h.setChildren (by simp)
      have htold := (hempty.setParent first (some target)).setParent last (some target)
      simp only
      split
      · refine htold.setChildren ?_
        rintro e ⟨⟩
        exact hfirst
      · next first' last' hends' =>
          obtain ⟨z, hz, hze⟩ := Option.bind_eq_some_iff.mp hends'
          have hnext := htold.modify_same (n := last') (f := fun y => { y with next := some first })
            (fun _ _ => rfl) (fun _ hg => absurd (Option.some.inj hg) hfirst) fun _ => rfl
          have hjoined := hnext.modify_same (n := first)
            (f := fun y => { y with previous := some last' }) (fun heq => absurd heq hfirst)
            (fun _ => id) fun _ => rfl
          refine hjoined.setChildren ?_
          rintro e ⟨⟩
          exact (htold target z hz).2 (first', last') hze

lemma Anchored.add (h : t.Anchored g) (hlt : g < t.nodes.size) (kind : NodeKind) :
    (t.add kind).1.Anchored g := by
  have hprevious : (t.add kind).1.previous? g = t.previous? g := by
    rw [previous?, previous?, node?_add, if_neg hlt.ne]
  intro a y hy
  rw [hprevious]
  rw [node?_add] at hy
  split at hy
  · cases hy
    exact ⟨by simp, by simp⟩
  · exact h a y hy

lemma Held.lt_size (h : t.Held none c) : c < t.nodes.size := by
  rcases h with hnone | hc
  · cases hnone
  · obtain ⟨p, hp⟩ := Option.isSome_iff_exists.mp hc
    exact lt_size_of_parent? hp

lemma eq_of_detach (hparent : t.parent? n = none) (h : t.detach n = some t') : t' = t := by
  obtain ⟨node, hnode, h⟩ := Option.bind_eq_some_iff.mp h
  rw [parent?, hnode, Option.bind_some] at hparent
  simp only [hparent, Option.some.injEq] at h
  exact h.symm

/-- A node that stood nowhere is appended: its parent has a child now, and the others have the
children they had. -/
lemma firstChild?_append (hnone : t.parent? c = none) (h : t.append p c = some t') :
    (p < t.nodes.size → (t'.firstChild? p).isSome) ∧
      ∀ a, (t.firstChild? a).isSome → (t'.firstChild? a).isSome := by
  obtain ⟨s, hs, rfl⟩ := append_cases h
  obtain rfl := eq_of_detach hnone hs
  let joined := (s.modify c fun y =>
    { y with parent := some p, previous := s.lastChild? p }).modify? (s.lastChild? p) fun y =>
      { y with next := some c }
  have hold : ∀ a, joined.firstChild? a = s.firstChild? a := fun a => by
    rw [firstChild?_modify? (by exact fun _ => rfl), firstChild?_modify (by exact fun _ => rfl)]
  have hset : ∀ u : Tree, p < u.nodes.size → ((u.modify p fun y =>
      { y with children := some ((y.children.map (·.1)).getD c, c) }).firstChild? p).isSome := by
    intro u hlt
    rw [firstChild?, node?_modify, if_pos rfl, node?, Array.getElem?_eq_getElem hlt]
    rfl
  have hlt : p < s.nodes.size → p < joined.nodes.size := fun hp => by simpa [joined] using hp
  refine ⟨fun hp => hset joined (hlt hp), fun a ha => ?_⟩
  by_cases heq : p = a
  · obtain ⟨first, hfirst⟩ := Option.isSome_iff_exists.mp ha
    obtain ⟨ends, hends, -⟩ := Option.map_eq_some_iff.mp hfirst
    obtain ⟨y, hy, -⟩ := Option.bind_eq_some_iff.mp hends
    subst heq
    exact hset joined (hlt (lt_size_of_node? hy))
  · rw [firstChild?, node?_modify, if_neg heq]
    exact (congrArg Option.isSome (hold a)).trans ha

/-- **A new node behind others is anchored.** -/
lemma Linked.anchored_append {kind : NodeKind} (h : t.Linked) (hp : (t.firstChild? p).isSome)
    (ha : (t.add kind).1.append p t.nodes.size = some t') : t'.Anchored t.nodes.size := by
  obtain ⟨s, hs, rfl⟩ := append_cases ha
  obtain rfl := eq_of_detach (t.parent?_add_self kind) hs
  -- the new node stands behind a node that is older
  obtain ⟨first, hfirst⟩ := Option.isSome_iff_exists.mp hp
  obtain ⟨ends, hends, -⟩ := Option.map_eq_some_iff.mp hfirst
  obtain ⟨y, hy, hye⟩ := Option.bind_eq_some_iff.mp hends
  have hlast : (t.add kind).1.lastChild? p = some ends.2 := by
    rw [lastChild?, node?_add, if_neg (lt_size_of_node? hy).ne, hy, Option.bind_some, hye]
    rfl
  have hold : ends.2 < t.nodes.size := ((h p y hy).children ends hye).2
  -- before that, nobody leads to it
  have hnew : ∀ a z, (t.add kind).1.node? a = some z →
      z.next ≠ some t.nodes.size ∧ ∀ e, z.children = some e → e.1 ≠ t.nodes.size := by
    intro a z hz
    rw [node?_add] at hz
    split at hz
    · cases hz
      exact ⟨by simp, by simp⟩
    · exact ⟨fun hg => absurd rfl ((h a z hz).next _ hg).lt_size.ne,
        fun e he => ((h a z hz).children e he).1.lt_size.ne⟩
  let placed := (t.add kind).1.modify t.nodes.size fun y =>
    { y with parent := some p, previous := some ends.2 }
  have hplaced : placed.Anchored t.nodes.size := by
    intro a z hz
    obtain ⟨w, hw, hzw⟩ := exists_of_node?_modify hz
    obtain ⟨hnext, hfirst⟩ := hnew a w hw
    rcases hzw with rfl | ⟨-, rfl⟩ <;> exact ⟨fun hg => absurd hg hnext, hfirst⟩
  have hprevious : placed.previous? t.nodes.size = some ends.2 := by
    simp [placed, previous?]
  rw [hlast]
  refine (hplaced.setNext hold hprevious).modify (fun _ _ => rfl) (fun _ => id) ?_
  rintro z hz e ⟨⟩
  have hze : z.children = some ends := by
    obtain ⟨v, hv, hzv⟩ := exists_of_node?_modify hz
    obtain ⟨w, hw, hvw⟩ := exists_of_node?_modify hv
    rw [node?_add, if_neg (lt_size_of_node? hy).ne, hy] at hw
    cases hw
    rcases hzv with rfl | ⟨-, rfl⟩ <;> rcases hvw with rfl | ⟨-, rfl⟩ <;> exact hye
  exact .inl (by simp [hze])

/-- **Nobody leads to an anchored node when it is detached.** -/
lemma Anchored.detach_self (hg : t.Anchored g) (h : t.Linked) (hd : t.detach g = some t') :
    t'.Linked := by
  have hlinked := (h.but (some g)).detach hd
  suffices hnobody : ∀ a y, t'.node? a = some y →
      y.next ≠ some g ∧ ∀ ends, y.children = some ends → ends.1 ≠ g by
    have hheld : ∀ c, c ≠ g → t'.Held (some g) c → t'.Held none c := fun c hne hc =>
      .inr (hc.resolve_left fun heq => hne (Option.some.inj heq).symm)
    intro a y hy
    obtain ⟨hchildren, hnext, hprevious⟩ := hlinked a y hy
    obtain ⟨hnone, hfirst⟩ := hnobody a y hy
    exact ⟨fun ends hends => ⟨hheld _ (hfirst ends hends) (hchildren ends hends).1,
      (hchildren ends hends).2⟩, fun c hc => hheld c (fun heq => hnone (heq ▸ hc)) (hnext c hc),
      hprevious⟩
  have hself : ∀ node, t.node? g = some node → node.next ≠ some g := fun node hn heq =>
    Nat.lt_irrefl g ((hg g node hn).1 heq).1
  have hloosen : ∀ node, t.node? g = some node → ∀ a y, (t.loosen g node).node? a = some y →
      y.next ≠ some g ∧ ∀ ends, y.children = some ends → ends.1 ≠ g := by
    intro node hn a y hy
    have hprevious : t.previous? g = node.previous := by rw [previous?, hn, Option.bind_some]
    obtain ⟨z, hz, hyz⟩ := node?_of_modify? hy
    obtain ⟨w, hw, hzw⟩ := node?_of_modify? hz
    obtain ⟨v, hv, hwv⟩ := exists_of_node?_modify hw
    have hchildren : y.children = v.children := by
      rcases hyz with rfl | ⟨-, rfl⟩ <;> rcases hzw with rfl | ⟨-, rfl⟩ <;>
        rcases hwv with rfl | ⟨-, rfl⟩ <;> rfl
    refine ⟨fun hnext => ?_, fun e he => (hg a v hv).2 e (hchildren ▸ he)⟩
    have hz' : z.next = some g := by rcases hyz with rfl | ⟨-, rfl⟩ <;> exact hnext
    -- the neighbour before was told of the one after, and no other knew the node
    by_cases hbefore : node.previous = some a
    · rw [hbefore, Tree.modify?, node?_modify, if_pos rfl, hw, Option.map_some] at hz
      cases hz
      exact hself node hn hz'
    · obtain rfl : z = w := hzw.resolve_right fun hwa => hbefore hwa.1
      rcases hwv with rfl | ⟨-, rfl⟩
      · exact hbefore (hprevious ▸ ((hg a z hv).1 hz').2)
      · cases hz'
  rcases detach_cases hd with
    ⟨hnone, rfl⟩ | ⟨node, hn, rfl | ⟨p, first, last, ends, hp, rfl, hends⟩⟩
  · have hheld : ¬ t'.Held none g := by simp [Held, hnone]
    exact fun a y hy => ⟨fun hnext => hheld ((h a y hy).next g hnext),
      fun e he heq => hheld (heq ▸ ((h a y hy).children e he).1)⟩
  · exact hloosen node hn
  · intro a y hy
    obtain ⟨z, hz, rfl | ⟨-, rfl⟩⟩ := exists_of_node?_modify hy
    · exact hloosen node hn a y hz
    · refine ⟨(hloosen node hn a z hz).1, fun e he => ?_⟩
      rcases (hends e he).1 with heq | hnext
      · obtain ⟨w, hw, hwe⟩ := Option.bind_eq_some_iff.mp hp
        exact heq ▸ (hloosen node hn p w hw).2 _ hwe
      · exact fun heq => hself node hn (heq ▸ hnext)

end PageCrawl.Html.Tree
