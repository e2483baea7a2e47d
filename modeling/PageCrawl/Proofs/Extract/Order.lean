import Mathlib
import PageCrawl.Extract
import PageCrawl.Proofs.Html.Parsed
import PageCrawl.Proofs.Html.Walk

/-!
# The order of rows

Rows are taken from the table of nodes, which keeps the order in which nodes were made; a walk
through the root meets them in the order of the page.  Rules for misplaced tags make the two differ.

Rows stand in the order of making, whatever the page (`pairwise_table`, `mem_table`).  They stand in
the order of the page for every selector exactly if the walk meets no element before an older one
(`Document.MadeInOrder`): then for any table (`inPageOrder_table`), and else the table of all
elements shows it (`madeInOrder_of_inPageOrder`).
-/

namespace PageCrawl

open Html Selector

namespace Html.Document

variable {d : Document} {root : NodeId}

/-- On the walk through the root one element comes before another. -/
def Precedes (d : Document) (root a b : NodeId) : Prop := [a, b].Sublist (d.elementsBelow root)

/-- Of any two elements of a list that lie below the root, the one that the walk meets first comes
first. -/
def InPageOrder (d : Document) (root : NodeId) (rows : List NodeId) : Prop :=
  ∀ a ∈ rows, ∀ b ∈ rows, a ≠ b → d.Precedes root a b → [a, b].Sublist rows

/-- The walk through the root meets no element before one that was made earlier. -/
def MadeInOrder (d : Document) (root : NodeId) : Prop := (d.elementsBelow root).Pairwise (· ≤ ·)

lemma Precedes.le {a b : NodeId} (h : d.MadeInOrder root) (hab : d.Precedes root a b) : a ≤ b :=
  List.pairwise_iff_forall_sublist.mp h hab

end Html.Document

namespace Extract

variable {d : Document} {expression : String} {rows : List NodeId} {start : NodeId}

lemma selector_eq_ok_iff {list : List Selector} :
    selector expression = .ok list ↔ Selector.parse expression = .ok list := by
  unfold selector
  split <;> simp_all

lemma found_eq_ok_iff {ns : List NodeId} :
    found expression ns = .ok rows ↔ ns = rows ∧ rows ≠ [] := by
  cases ns with
  | nil =>
      constructor
      · nofun
      · rintro ⟨rfl, hne⟩
        exact absurd rfl hne
  | cons n ns =>
      constructor
      · rintro ⟨⟩
        exact ⟨rfl, List.cons_ne_nil n ns⟩
      · rintro ⟨rfl, -⟩
        rfl

/-- A lookup succeeds if its selector can be read and something is found with it. -/
lemma lookup_eq_ok_iff (f : List Selector → List NodeId) :
    (do found expression (f (← selector expression)) : Except ExtractError (List NodeId)) =
        .ok rows ↔
      ∃ list, Selector.parse expression = .ok list ∧ f list = rows ∧ rows ≠ [] := by
  cases hs : selector expression with
  | error e =>
      constructor
      · nofun
      · rintro ⟨list, hlist, -⟩
        rw [selector_eq_ok_iff.mpr hlist] at hs
        cases hs
  | ok list =>
      have hlist := selector_eq_ok_iff.mp hs
      constructor
      · exact fun h => ⟨list, hlist, found_eq_ok_iff.mp h⟩
      · rintro ⟨list', hlist', h⟩
        obtain rfl : list = list' := Except.ok.inj (hlist.symm.trans hlist')
        exact found_eq_ok_iff.mpr h

lemma table_eq_ok_iff : table d expression = .ok rows ↔
    ∃ list, Selector.parse expression = .ok list ∧ allMatching d list = rows ∧ rows ≠ [] :=
  lookup_eq_ok_iff (allMatching d)

lemma nodes_eq_ok_iff : nodes d start expression = .ok rows ↔
    ∃ list, Selector.parse expression = .ok list ∧ matchingBelow d start list = rows ∧ rows ≠ [] :=
  lookup_eq_ok_iff (matchingBelow d start)

lemma pairwise_table (h : table d expression = .ok rows) : rows.Pairwise (· < ·) := by
  obtain ⟨list, -, rfl, -⟩ := table_eq_ok_iff.mp h
  exact (List.pairwise_lt_range.filter _).filter _

lemma mem_table (h : table d expression = .ok rows) (n : NodeId) :
    n ∈ rows ↔ n ∈ d.elements ∧
      ∃ list, Selector.parse expression = .ok list ∧ anyMatches d none none list n := by
  obtain ⟨list, hlist, rfl, -⟩ := table_eq_ok_iff.mp h
  rw [allMatching, List.mem_filter]
  refine and_congr_right fun _ => ⟨fun hn => ⟨list, hlist, hn⟩, ?_⟩
  rintro ⟨list', hlist', hn⟩
  obtain rfl : list = list' := Except.ok.inj (hlist.symm.trans hlist')
  exact hn

/-- In a list that increases, the lesser of two members comes first. -/
lemma pair_sublist {a b : NodeId} (h : rows.Pairwise (· < ·)) (ha : a ∈ rows) (hb : b ∈ rows)
    (hlt : a < b) : [a, b].Sublist rows := by
  refine List.sublist_of_subperm_of_pairwise (r := (· < ·)) ?_ (by simpa using hlt) h
  exact List.subperm_of_subset (by simp [hlt.ne]) (by simp [ha, hb])

lemma parse_star : Selector.parse "*" = .ok [.compound [.any]] := rfl

lemma allMatching_star (d : Document) : allMatching d [.compound [.any]] = d.elements :=
  List.filter_eq_self.mpr fun n _ => by
    simp [anyMatches, Selector.verdict, allHold, Condition.holds]

variable {root : NodeId}

lemma inPageOrder_table (hmade : d.MadeInOrder root) (h : table d expression = .ok rows) :
    d.InPageOrder root rows := fun _ ha _ hb hne hab =>
  pair_sublist (pairwise_table h) ha hb (lt_of_le_of_ne (hab.le hmade) hne)

/-- On a linked tree every element that the walk meets is a row of the table for all elements, so
that table shows whether any of them was made out of order. -/
lemma madeInOrder_of_inPageOrder (hlinked : d.tree.Linked)
    (h : ∀ rows, table d "*" = .ok rows → d.InPageOrder root rows) : d.MadeInOrder root := by
  refine List.pairwise_iff_forall_sublist.mpr fun {a b} hab => ?_
  by_contra hlt
  have ha : a ∈ d.elements := Document.mem_elements_of_below hlinked (hab.subset (by simp))
  have hb : b ∈ d.elements := Document.mem_elements_of_below hlinked (hab.subset (by simp))
  have htable : table d "*" = .ok d.elements := table_eq_ok_iff.mpr
    ⟨_, parse_star, allMatching_star d, List.ne_nil_of_mem ha⟩
  have hrows := h _ htable a ha b hb (fun heq => hlt heq.le) hab
  exact hlt (List.pairwise_iff_forall_sublist.mp (pairwise_table htable) hrows).le

/-- **Rows stand in the order of making, which is the order of the page only if the walk meets no
element before an older one.**  The rows of a table are exactly the matching elements that have a
parent, the oldest first, whatever the page is.  They stand in the order of the page for every
selector just if that is the order of making, and then they agree with what is found below the
root. -/
theorem rows_in_order_of_making {page : String} (hpage : Document.parse? page = some d)
    (root : NodeId) :
    (∀ expression rows, table d expression = .ok rows → rows.Pairwise (· < ·) ∧
      ∀ n, n ∈ rows ↔ n ∈ d.elements ∧
        ∃ list, Selector.parse expression = .ok list ∧ anyMatches d none none list n) ∧
    ((∀ expression rows, table d expression = .ok rows → d.InPageOrder root rows) ↔
      d.MadeInOrder root) ∧
    (d.MadeInOrder root → ∀ expression rows below, table d expression = .ok rows →
      nodes d root expression = .ok below → ∀ a ∈ rows, ∀ b ∈ rows, a ≠ b →
        [a, b].Sublist below → [a, b].Sublist rows) := by
  refine ⟨fun expression rows h => ⟨pairwise_table h, mem_table h⟩, ⟨fun h => ?_, fun h => ?_⟩, ?_⟩
  · exact madeInOrder_of_inPageOrder (Document.linked_of_parse? hpage) fun rows => h "*" rows
  · exact fun expression rows hrows => inPageOrder_table h hrows
  · intro h expression rows below hrows hbelow a ha b hb hne hab
    obtain ⟨list, -, rfl, -⟩ := nodes_eq_ok_iff.mp hbelow
    exact inPageOrder_table h hrows a ha b hb hne (hab.trans List.filter_sublist)

/-- An element without attributes. -/
def plainNode (name : String) (parent previous next : Option NodeId)
    (children : Option (NodeId × NodeId)) : Node :=
  ⟨.element ⟨.html, name, []⟩, parent, previous, next, children⟩

/-- A page with one `b` in a cell of a table and one that stands in the table itself, from where it
is moved before the table. -/
def crowdedTable : Document := ⟨⟨#[⟨.document, none, none, none, some (1, 1)⟩,
  plainNode "html" (some 0) none none (some (2, 3)),
  plainNode "head" (some 1) none (some 3) none,
  plainNode "body" (some 1) (some 2) none (some (10, 4)),
  plainNode "table" (some 3) (some 10) none (some (5, 5)),
  plainNode "tbody" (some 4) none none (some (6, 6)),
  plainNode "tr" (some 5) none none (some (7, 7)),
  plainNode "td" (some 6) none none (some (8, 8)),
  plainNode "b" (some 7) none none (some (9, 9)),
  ⟨.text "1", some 8, none, none, none⟩,
  plainNode "b" (some 3) none (some 4) (some (11, 11)),
  ⟨.text "2", some 10, none, none, none⟩]⟩⟩

lemma parse_crowdedTable :
    Document.parse? "<table><tr><td><b>1</b></td></tr><b>2</b></table>" = some crowdedTable := by
  decide +kernel

theorem rows_in_order_of_making_crowdedTable :
    Document.parse? "<table><tr><td><b>1</b></td></tr><b>2</b></table>" = some crowdedTable ∧
      table crowdedTable "b" = .ok [8, 10] ∧ [8, 10].Pairwise (· < ·) ∧
        ((∀ expression rows, table crowdedTable expression = .ok rows →
          crowdedTable.InPageOrder 1 rows) ↔ crowdedTable.MadeInOrder 1) := by
  have hrows : table crowdedTable "b" = .ok [8, 10] := by decide +kernel
  obtain ⟨hmade, hpage, -⟩ := rows_in_order_of_making parse_crowdedTable 1
  exact ⟨parse_crowdedTable, hrows, (hmade "b" [8, 10] hrows).1, hpage⟩

/-- **Rows leave the order of the page.**  Of two elements that both ways of looking find, the one
that the walk meets first was made last. -/
theorem rows_leave_page_order :
    Document.parse? "<table><tr><td><b>1</b></td></tr><b>2</b></table>" = some crowdedTable ∧
      crowdedTable.rootElement? = some 1 ∧ table crowdedTable "b" = .ok [8, 10] ∧
        nodes crowdedTable 1 "b" = .ok [10, 8] ∧ ¬ crowdedTable.InPageOrder 1 [8, 10] := by
  refine ⟨parse_crowdedTable, by decide +kernel, by decide +kernel, by decide +kernel, fun h => ?_⟩
  have hwalk : crowdedTable.Precedes 1 10 8 := by
    rw [Document.Precedes, show crowdedTable.elementsBelow 1 = [2, 3, 10, 4, 5, 6, 7, 8] by
      decide +kernel]
    decide
  have hrows := h 10 (by simp) 8 (by simp) (by decide) hwalk
  exact absurd hrows (by decide)

end Extract

end PageCrawl
