import Mathlib
import PageCrawl.Proofs.Extract.First
import PageCrawl.Proofs.Extract.Rendered
import PageCrawl.Proofs.Html.Tour

/-!
# Lookups below a node

Whatever is looked up below a node, the search is the same walk, and text and attributes are read
from the first element that it finds (`LookupsAgree`).  What it finds should be what a search of the
whole page finds below that node.  For every selector this says that the walk through the node meets
just those elements of the page that lie below it (`Document.StaysBelow`).

It does on a page whose links are those of a tree below its root (`Document.staysBelow_of_whole`),
and else it may not: the walk goes back up by the parent that the last of some children names, and
when children were moved only the first and the last of them were told of their new parent.  A
search may then leave its node, and what it finds there stands behind the node on the page.  It
never goes back to what stands before the node (`Document.elementsBelow_comparable`).
-/

namespace PageCrawl

open Html Selector

namespace Html.Document

variable {d : Document} {root n : NodeId}

open scoped Classical in
/-- A search below a node looks at just those elements below the root that lie below the node, in
their order. -/
def StaysBelow (d : Document) (root n : NodeId) : Prop :=
  d.elementsBelow n = (d.elementsBelow root).filter fun m => d.tree.Below n m

lemma lt_size_of_rootElement? (h : d.rootElement? = some root) : root < d.tree.nodes.size := by
  have helement := List.find?_some (p := fun n => (d.tree.element? n).isSome) h
  obtain ⟨e, he⟩ := Option.isSome_iff_exists.mp helement
  rw [Tree.element?_eq] at he
  obtain ⟨y, hy, -⟩ := Option.bind_eq_some_iff.mp he
  exact Tree.lt_size_of_node? hy

lemma staysBelow_of_whole (h : d.tree.Whole root) (hroot : root < d.tree.nodes.size)
    (hn : n = root ∨ n ∈ d.elementsBelow root) : d.StaysBelow root n := by
  have hmet : n = root ∨ n ∈ d.tree.descendants root :=
    hn.imp_right fun hn => (mem_elementsBelow.mp hn).1
  rw [StaysBelow, elementsBelow, ← h.filter_descendants hroot hmet, elementsBelow,
    List.filter_comm]

/-- From a node on, the search below it and that below the root look at the same elements until one
of them ends. -/
lemma elementsBelow_comparable (hn : n ∈ d.elementsBelow root) : ∃ before after,
    d.elementsBelow root = before ++ n :: after ∧
      (d.elementsBelow n <+: after ∨ after <+: d.elementsBelow n) := by
  obtain ⟨hmet, helement⟩ := mem_elementsBelow.mp hn
  obtain ⟨before, after, heq, hsame⟩ := Tree.descendants_comparable hmet
  refine ⟨before.filter fun m => (d.tree.element? m).isSome,
    after.filter fun m => (d.tree.element? m).isSome, ?_, hsame.imp (·.filter _) (·.filter _)⟩
  rw [elementsBelow, heq, List.filter_append, List.filter_cons_of_pos (by exact helement)]

end Html.Document

namespace Extract

variable {d : Document} {root n : NodeId} {expression : String} {list : List Selector}

/-- **What the lookups at one node say of one selector.**  They fail for the selector just if it
cannot be read.  Text and attributes are those of the first element that is found, and fail as the
search for it does. -/
structure LookupsAgree (d : Document) (start : NodeId) (expression : String) : Prop where
  invalid : ∀ fault, selector expression = .error (.invalidSelector expression fault) ↔
    nodes d start expression = .error (.invalidSelector expression fault)
  text_invalid : ∀ fault dirt, selector expression = .error (.invalidSelector expression fault) ↔
    text d start expression dirt = .error (.invalidSelector expression fault)
  attr_invalid : ∀ fault name, selector expression = .error (.invalidSelector expression fault) ↔
    attr d start expression name = .error (.invalidSelector expression fault)
  text_first : ∀ n ns dirt, nodes d start expression = .ok (n :: ns) →
    text d start expression dirt =
      .ok (String.ofList (cleaned (d.tree.textOf n).toList dirt.toList))
  attr_first : ∀ n ns name, nodes d start expression = .ok (n :: ns) →
    attr d start expression name =
      ((d.tree.element? n).bind (·.attr? name)).elim (.error (.missingAttribute name expression))
        .ok
  fails : ∀ err, nodes d start expression = .error err → ∀ x,
    text d start expression x = .error err ∧ attr d start expression x = .error err

lemma lookupsAgree (d : Document) (start : NodeId) (expression : String) :
    LookupsAgree d start expression where
  invalid _ := nodes_eq_invalidSelector_iff.symm
  text_invalid _ dirt :=
    ((text_eq_invalidSelector_iff dirt).trans nodes_eq_invalidSelector_iff).symm
  attr_invalid _ name :=
    ((attr_eq_invalidSelector_iff name).trans nodes_eq_invalidSelector_iff).symm
  text_first _ _ dirt h := text_of_nodes h dirt
  attr_first _ _ name h := attr_of_nodes h name
  fails _ h x := ⟨text_of_error h x, attr_of_error h x⟩

/-- Without `:scope` a search looks for the same elements wherever it starts. -/
lemma matchingBelow_eq (hscope : anyAsksScope list = false) (start : NodeId) :
    matchingBelow d start list = (d.elementsBelow start).filter (anyMatches d none none list) :=
  List.filter_congr fun n _ => anyMatches_scope d (some start) none none n list hscope

lemma mem_elementsBelow_of_nodes {ns : List NodeId} (h : nodes d root expression = .ok ns)
    (hn : n ∈ ns) : n ∈ d.elementsBelow root := by
  obtain ⟨list, -, rfl, -⟩ := nodes_eq_ok_iff.mp h
  exact (List.mem_filter.mp hn).1

lemma found_inj {ns ms : List NodeId} : found expression ns = found expression ms ↔ ns = ms := by
  cases ns <;> cases ms <;> simp [found]

open scoped Classical in
/-- Searches stay below a node, whatever they are for, just if the one for all elements does. -/
lemma nodes_local_iff : (∀ expression list, Selector.parse expression = .ok list →
      anyAsksScope list = false → nodes d n expression =
        found expression ((matchingBelow d root list).filter fun m => d.tree.Below n m)) ↔
      d.StaysBelow root n := by
  constructor
  · intro h
    have hall : ∀ start, matchingBelow d start [.compound [.any]] = d.elementsBelow start := by
      intro start
      refine List.filter_eq_self.mpr fun m _ => ?_
      simp [anyMatches, Selector.verdict, allHold, Condition.holds]
    have hstar := h "*" _ parse_star rfl
    rwa [nodes_of_parse parse_star, found_inj, hall, hall] at hstar
  · intro h expression list hlist hscope
    rw [nodes_of_parse hlist, matchingBelow_eq hscope, matchingBelow_eq hscope, h,
      List.filter_comm]

open scoped Classical in
/-- **Lookups below a node are local where the page is linked as a tree.**

Let the node be the root of a page or an element found below the root.  The lookups at this node
agree about every selector.  The search below it looks at elements of the page that follow the node,
in their order, until it ends or that of the page does.  For every selector without `:scope` it
finds exactly those elements that are found below the root and lie below the node, in the same
order, just if it stays below the node.  It does so for every such node of a page that is whole
below its root. -/
theorem lookups_are_local (hroot : d.rootElement? = some root)
    (hn : n = root ∨ ∃ expression ns, nodes d root expression = .ok ns ∧ n ∈ ns) :
    (∀ expression, LookupsAgree d n expression) ∧
    (n = root ∨ ∃ before after, d.elementsBelow root = before ++ n :: after ∧
      (d.elementsBelow n <+: after ∨ after <+: d.elementsBelow n)) ∧
    ((∀ expression list, Selector.parse expression = .ok list → anyAsksScope list = false →
        nodes d n expression =
          found expression ((matchingBelow d root list).filter fun m => d.tree.Below n m)) ↔
      d.StaysBelow root n) ∧
    (d.tree.Whole root → d.StaysBelow root n) := by
  have hmet : n = root ∨ n ∈ d.elementsBelow root := by
    refine hn.imp_right ?_
    rintro ⟨expression, ns, hns, hmem⟩
    exact mem_elementsBelow_of_nodes hns hmem
  exact ⟨lookupsAgree d n, hmet.imp_right Document.elementsBelow_comparable, nodes_local_iff,
    fun h => Document.staysBelow_of_whole h (Document.lt_size_of_rootElement? hroot) hmet⟩

/-- A list with two items, each with a `b` in it. -/
def listPage : Document := ⟨⟨#[⟨.document, none, none, none, some (1, 1)⟩,
  plainNode "html" (some 0) none none (some (2, 3)),
  plainNode "head" (some 1) none (some 3) none,
  plainNode "body" (some 1) (some 2) none (some (4, 4)),
  plainNode "ul" (some 3) none none (some (5, 7)),
  plainNode "li" (some 4) none (some 7) (some (6, 6)),
  plainNode "b" (some 5) none none none,
  plainNode "li" (some 4) (some 5) none (some (8, 8)),
  plainNode "b" (some 7) none none none]⟩⟩

lemma searches_listPage : Document.parse? "<ul><li><b></b><li><b></b></ul>" = some listPage ∧
    listPage.rootElement? = some 1 ∧ nodes listPage 1 "li" = .ok [5, 7] ∧
    nodes listPage 1 "b" = .ok [6, 8] ∧ nodes listPage 7 "b" = .ok [8] ∧
    (listPage.tree.tour? 8 1 (listPage.tree.firstChild? 1)).isSome := by
  decide +kernel

theorem lookups_are_local_list :
    Document.parse? "<ul><li><b></b><li><b></b></ul>" = some listPage ∧
      listPage.rootElement? = some 1 ∧ nodes listPage 1 "li" = .ok [5, 7] ∧
      listPage.tree.Whole 1 ∧ listPage.StaysBelow 1 7 ∧ LookupsAgree listPage 7 "b" ∧
      nodes listPage 1 "b" = .ok [6, 8] ∧ nodes listPage 7 "b" = .ok [8] := by
  obtain ⟨hparse, hroot, hitems, hall, hbelow, htour⟩ := searches_listPage
  have hwhole : listPage.tree.Whole 1 := Tree.whole_of_tour? htour
  obtain ⟨hagree, -, -, hstays⟩ := lookups_are_local (n := 7) hroot
    (.inr ⟨"li", [5, 7], hitems, by simp⟩)
  exact ⟨hparse, hroot, hitems, hwhole, hstays hwhole, hagree "b", hall, hbelow⟩

/-- A page with a `b` that is closed within a `p` in a `div`.  A second `b` takes over what stands
in the `div`, and then the `p` leaves it again.  Now the `i` is its last child, and still names the
`div`. -/
def torn : Document := ⟨⟨#[⟨.document, none, none, none, some (1, 1)⟩,
  plainNode "html" (some 0) none none (some (2, 3)),
  plainNode "head" (some 1) none (some 3) none,
  plainNode "body" (some 1) (some 2) none (some (4, 11)),
  plainNode "b" (some 3) none (some 5) none,
  plainNode "div" (some 3) (some 4) (some 11) (some (9, 8)),
  ⟨.text "1", some 9, none, some 7, none⟩,
  plainNode "i" (some 5) (some 6) none none,
  plainNode "p" (some 5) (some 9) none (some (10, 10)),
  plainNode "b" (some 5) none (some 8) (some (6, 7)),
  plainNode "b" (some 8) none none none,
  plainNode "u" (some 3) (some 5) none none]⟩⟩

lemma searches_torn :
    Document.parse? "<b><div>1<i></i><p></b></div><u></u>" = some torn ∧
      torn.rootElement? = some 1 ∧ nodes torn 1 "b" = .ok [4, 9] ∧
      nodes torn 1 "u" = .ok [11] ∧ nodes torn 9 "u" = .ok [11] ∧
      torn.ancestors 11 = [3, 1] := by
  decide +kernel

/-- **A lookup leaves its node.**  The search below the second `b` finds the `u`, which stands in
the body behind the `div` that holds the `b`; the `b` is none of its ancestors, and it is not met on
the way down from the `b`. -/
theorem lookup_leaves_its_node :
    Document.parse? "<b><div>1<i></i><p></b></div><u></u>" = some torn ∧
      torn.rootElement? = some 1 ∧ nodes torn 1 "b" = .ok [4, 9] ∧
      nodes torn 1 "u" = .ok [11] ∧ nodes torn 9 "u" = .ok [11] ∧ torn.ancestors 11 = [3, 1] ∧
      ¬ torn.tree.Below 9 11 := by
  obtain ⟨hparse, hroot, hbs, hu, hleft, hancestors⟩ := searches_torn
  refine ⟨hparse, hroot, hbs, hu, hleft, hancestors, fun h => ?_⟩
  -- below the `b` are the text and the `i` alone
  have hbelow : ∀ m, torn.tree.Below 9 m → m = 6 ∨ m = 7 := by
    intro m hm
    induction hm with
    | child hc => exact .inl (Option.some.inj hc).symm
    | next _ hs ih =>
        rcases ih with rfl | rfl
        · exact .inr (Option.some.inj hs).symm
        · cases hs
    | down _ hc ih => rcases ih with rfl | rfl <;> cases hc
  rcases hbelow 11 h with heq | heq <;> cases heq

end Extract

end PageCrawl
