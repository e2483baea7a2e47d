import Mathlib
import PageCrawl.Html.Document
import PageCrawl.Proofs.Html.Links

/-!
# What a walk enters

A walk goes down by first children and on by the neighbours after, and so does the reading of a list
of children.  Whatever it enters after its start has therefore been led to by such a link
(`LedTo`), and on a tree whose links are sound it names a parent.
-/

namespace PageCrawl.Html

namespace Tree

variable {t : Tree} {n start : NodeId}

/-- A node that another one leads to, as its first child or as its neighbour. -/
def LedTo (t : Tree) (n : NodeId) : Prop :=
  ∃ a, t.firstChild? a = some n ∨ t.next? a = some n

/-- On a linked tree a node that is led to has a parent. -/
lemma Linked.parent?_isSome (h : t.Linked) (hn : t.LedTo n) : (t.parent? n).isSome := by
  have hheld : t.Held none n := by
    obtain ⟨a, hfirst | hnext⟩ := hn
    · obtain ⟨ends, hends, rfl⟩ := Option.map_eq_some_iff.mp hfirst
      obtain ⟨y, hy, hye⟩ := Option.bind_eq_some_iff.mp hends
      exact ((h a y hy).children ends hye).1
    · obtain ⟨y, hy, hyn⟩ := Option.bind_eq_some_iff.mp hnext
      exact (h a y hy).next n hyn
  exact hheld.resolve_left nofun

/-! ## Children -/

lemma ledTo_of_mem_siblingsFrom {k : Nat} {o : Option NodeId} (h : n ∈ t.siblingsFrom k o) :
    o = some n ∨ t.LedTo n := by
  induction k generalizing o with
  | zero => cases h
  | succ k ih =>
      cases o with
      | none => cases h
      | some c =>
          rcases List.mem_cons.mp h with rfl | hrest
          · exact .inl rfl
          · exact .inr ((ih hrest).elim (fun hnext => ⟨c, .inr hnext⟩) id)

lemma ledTo_of_mem_childrenOf {p : NodeId} (h : n ∈ t.childrenOf p) : t.LedTo n :=
  (ledTo_of_mem_siblingsFrom h).elim (fun hfirst => ⟨p, .inl hfirst⟩) id

/-! ## Walks -/

lemma walkFrom_acc (t : Tree) (start : NodeId) (k : Nat) (e : Edge) (acc : List Edge) :
    t.walkFrom start k e acc = acc.reverse ++ t.walkFrom start k e [] := by
  induction k generalizing e acc with
  | zero => simp [walkFrom]
  | succ k ih =>
      simp only [walkFrom]
      split
      · next e' _ => rw [ih e' (e :: acc), ih e' [e]]; simp
      · simp

/-- The edges of a walk are its first edge and those of the walk from the next one. -/
lemma walkFrom_succ (t : Tree) (start : NodeId) (k : Nat) (e : Edge) :
    t.walkFrom start (k + 1) e [] =
      e :: ((t.nextEdge start e).map fun e' => t.walkFrom start k e' []).getD [] := by
  rw [walkFrom]
  cases t.nextEdge start e with
  | none => rfl
  | some e' => exact walkFrom_acc t start k e' [e]

/-- The edge after another enters nodes that are led to. -/
lemma ledTo_of_nextEdge {e : Edge} (h : t.nextEdge start e = some (.enter n)) : t.LedTo n := by
  cases e with
  | enter m =>
      simp only [nextEdge, Option.some.injEq] at h
      split at h
      · next c hc =>
          cases h
          exact ⟨m, .inl hc⟩
      · cases h
  | leave m =>
      simp only [nextEdge] at h
      split at h
      · cases h
      · split at h
        · next c hc =>
            cases h
            exact ⟨m, .inr hc⟩
        · simp at h

lemma ledTo_of_mem_walkFrom {k : Nat} {e : Edge} (h : .enter n ∈ t.walkFrom start k e []) :
    e = .enter n ∨ t.LedTo n := by
  induction k generalizing e with
  | zero => cases h
  | succ k ih =>
      rw [walkFrom_succ] at h
      rcases List.mem_cons.mp h with rfl | hrest
      · exact .inl rfl
      · cases hnext : t.nextEdge start e with
        | none => simp [hnext] at hrest
        | some e' =>
            rw [hnext, Option.map_some, Option.getD_some] at hrest
            exact .inr ((ih hrest).elim (fun heq => ledTo_of_nextEdge (heq ▸ hnext)) id)

lemma ledTo_of_mem_descendants (h : n ∈ t.descendants start) : t.LedTo n := by
  obtain ⟨e, he, hen⟩ := List.mem_filterMap.mp h
  cases e with
  | leave m => cases hen
  | enter m =>
      obtain rfl : m = n := Option.some.inj hen
      -- the first edge enters the start, and the walk has room for it
      cases hsize : 2 * t.nodes.size with
      | zero =>
          rw [walk, hsize] at he
          cases he
      | succ k =>
          rw [walk, hsize, walkFrom_succ, List.tail_cons] at he
          cases hnext : t.nextEdge start (.enter start) with
          | none => simp [hnext] at he
          | some e' =>
              rw [hnext, Option.map_some, Option.getD_some] at he
              exact (ledTo_of_mem_walkFrom he).elim (fun heq => ledTo_of_nextEdge (heq ▸ hnext)) id

end Tree

namespace Document

variable {d : Document} {n start : NodeId}

lemma ledTo_of_rootElement? (h : d.rootElement? = some n) : d.tree.LedTo n :=
  Tree.ledTo_of_mem_childrenOf (List.mem_of_find?_eq_some h)

lemma mem_elements : n ∈ d.elements ↔
    (d.tree.element? n).isSome ∧ (d.tree.parent? n).isSome := by
  rw [elements, List.mem_filter, List.mem_range, Bool.and_eq_true, and_iff_right_iff_imp]
  rintro ⟨-, hparent⟩
  obtain ⟨p, hp⟩ := Option.isSome_iff_exists.mp hparent
  exact Tree.lt_size_of_parent? hp

lemma mem_elementsBelow : n ∈ d.elementsBelow start ↔
    n ∈ d.tree.descendants start ∧ (d.tree.element? n).isSome :=
  List.mem_filter

/-- On a linked tree an element that is met below a node stands somewhere. -/
lemma mem_elements_of_below (h : d.tree.Linked) (hn : n ∈ d.elementsBelow start) :
    n ∈ d.elements := by
  obtain ⟨hbelow, helement⟩ := mem_elementsBelow.mp hn
  exact mem_elements.mpr ⟨helement, h.parent?_isSome (Tree.ledTo_of_mem_descendants hbelow)⟩

end Document

end PageCrawl.Html
