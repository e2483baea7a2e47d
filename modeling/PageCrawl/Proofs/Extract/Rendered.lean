import Mathlib
import PageCrawl.Proofs.Extract.Order
import PageCrawl.Proofs.Selector.Scope

/-!
# What counts as rendered

Whether a page is rendered is asked of all elements that have a parent, wherever that parent is;
what is taken out of the page later is searched for below its root.

Whatever can be found below the root makes the page count as rendered, as does the root itself: the
tree of a parsed page is linked, so each element that the walk meets names a parent.  The converse
holds but for elements that have a parent and are not met by that walk.  They are there on pages of
which a part was detached, since the elements within that part keep their parents.
-/

namespace PageCrawl.Extract

open Html Selector

variable {d : Document} {expression page : String} {list : List Selector} {root : NodeId}

lemma hasSelector_eq_true_iff (hpage : Document.parse? page = some d) :
    hasSelector page list = true ↔ ∃ n ∈ d.elements, anyMatches d none none list n = true := by
  rw [hasSelector, hpage]
  exact List.any_eq_true

lemma exists_table_iff (hlist : Selector.parse expression = .ok list) :
    (∃ rows, table d expression = .ok rows) ↔
      ∃ n ∈ d.elements, anyMatches d none none list n = true := by
  constructor
  · rintro ⟨rows, hrows⟩
    obtain ⟨list', hlist', rfl, hne⟩ := table_eq_ok_iff.mp hrows
    obtain rfl : list = list' := Except.ok.inj (hlist.symm.trans hlist')
    obtain ⟨n, hn⟩ := List.exists_mem_of_ne_nil _ hne
    exact ⟨n, List.mem_filter.mp hn⟩
  · rintro ⟨n, hn⟩
    exact ⟨_, table_eq_ok_iff.mpr
      ⟨list, hlist, rfl, List.ne_nil_of_mem (List.mem_filter.mpr hn)⟩⟩

/-- Without `:scope`, what is found below an element are the elements below it that match in a
search of the whole page. -/
lemma exists_nodes_iff (hlist : Selector.parse expression = .ok list)
    (hscope : anyAsksScope list = false) : (∃ below, nodes d root expression = .ok below) ↔
      ∃ n ∈ d.elementsBelow root, anyMatches d none none list n = true := by
  have hmatch : ∀ n, anyMatches d (some root) none list n = anyMatches d none none list n :=
    fun n => anyMatches_scope d (some root) none none n list hscope
  constructor
  · rintro ⟨below, hbelow⟩
    obtain ⟨list', hlist', rfl, hne⟩ := nodes_eq_ok_iff.mp hbelow
    obtain rfl : list = list' := Except.ok.inj (hlist.symm.trans hlist')
    obtain ⟨n, hn⟩ := List.exists_mem_of_ne_nil _ hne
    obtain ⟨hmem, hn⟩ := List.mem_filter.mp hn
    exact ⟨n, hmem, hmatch n ▸ hn⟩
  · rintro ⟨n, hmem, hn⟩
    exact ⟨_, nodes_eq_ok_iff.mpr
      ⟨list, hlist, rfl, List.ne_nil_of_mem (List.mem_filter.mpr ⟨hmem, (hmatch n).trans hn⟩)⟩⟩

/-- What is found below the root is among the rows of the table. -/
lemma mem_table_of_mem_nodes {rows below : List NodeId} (hlinked : d.tree.Linked)
    (hlist : Selector.parse expression = .ok list) (hscope : anyAsksScope list = false)
    (hrows : table d expression = .ok rows) (hbelow : nodes d root expression = .ok below) :
    ∀ n ∈ below, n ∈ rows := by
  intro n hn
  obtain ⟨list', hlist', rfl, -⟩ := nodes_eq_ok_iff.mp hbelow
  obtain rfl : list = list' := Except.ok.inj (hlist.symm.trans hlist')
  obtain ⟨hmem, hmatch⟩ := List.mem_filter.mp hn
  rw [anyMatches_scope d (some root) none none n list hscope] at hmatch
  exact (mem_table hrows n).mpr
    ⟨Document.mem_elements_of_below hlinked hmem, list, hlist, hmatch⟩

/-- **A page counts as rendered just if a table is found, and just if the root matches, something is
found below it, or an element matches that has a parent but is not met by the walk through the
root.**  What is found below the root is always among the rows of the table. -/
theorem rendered_iff_found (hpage : Document.parse? page = some d)
    (hroot : d.rootElement? = some root) (hlist : Selector.parse expression = .ok list)
    (hscope : anyAsksScope list = false) :
    ((∃ rows, table d expression = .ok rows) ↔ hasSelector page list = true) ∧
    (hasSelector page list = true ↔
      anyMatches d none none list root = true ∨ (∃ below, nodes d root expression = .ok below) ∨
        ∃ n ∈ d.elements, n ≠ root ∧ n ∉ d.elementsBelow root ∧
          anyMatches d none none list n = true) ∧
    ∀ rows below, table d expression = .ok rows → nodes d root expression = .ok below →
      ∀ n ∈ below, n ∈ rows := by
  have hlinked := Document.linked_of_parse? hpage
  rw [hasSelector_eq_true_iff hpage, exists_table_iff hlist, exists_nodes_iff hlist hscope]
  have helement : (d.tree.element? root).isSome :=
    List.find?_some (p := fun n => (d.tree.element? n).isSome) hroot
  refine ⟨Iff.rfl, ⟨?_, ?_⟩, fun rows below => mem_table_of_mem_nodes hlinked hlist hscope⟩
  · rintro ⟨n, hn, hmatch⟩
    by_cases heq : n = root
    · exact .inl (heq ▸ hmatch)
    by_cases hbelow : n ∈ d.elementsBelow root
    · exact .inr (.inl ⟨n, hbelow, hmatch⟩)
    · exact .inr (.inr ⟨n, hn, heq, hbelow, hmatch⟩)
  · rintro (hmatch | ⟨n, hbelow, hmatch⟩ | ⟨n, hn, -, -, hmatch⟩)
    · have hparent := hlinked.parent?_isSome (Document.ledTo_of_rootElement? hroot)
      exact ⟨root, Document.mem_elements.mpr ⟨helement, hparent⟩, hmatch⟩
    · exact ⟨n, Document.mem_elements_of_below hlinked hbelow, hmatch⟩
    · exact ⟨n, hn, hmatch⟩

/-- A page whose body was replaced by a frameset, with the paragraph that the body held. -/
def replacedBody : Document := ⟨⟨#[⟨.document, none, none, none, some (1, 1)⟩,
  plainNode "html" (some 0) none none (some (2, 5)),
  plainNode "head" (some 1) none (some 5) none,
  plainNode "body" none none none (some (4, 4)),
  plainNode "p" (some 3) none none none,
  plainNode "frameset" (some 1) (some 2) none none]⟩⟩

lemma parse_replacedBody :
    Document.parse? "<p></p><frameset></frameset>" = some replacedBody := by
  decide +kernel

lemma parse_p : Selector.parse "p" = .ok [.compound [.name "p" "p"]] := rfl

theorem rendered_iff_found_replacedBody :
    Document.parse? "<p></p><frameset></frameset>" = some replacedBody ∧
      replacedBody.rootElement? = some 1 ∧
      Selector.parse "p" = .ok [.compound [.name "p" "p"]] ∧
      anyAsksScope [.compound [.name "p" "p"]] = false ∧
      hasSelector "<p></p><frameset></frameset>" [.compound [.name "p" "p"]] = true ∧
      ∃ rows, table replacedBody "p" = .ok rows := by
  have hroot : replacedBody.rootElement? = some 1 := by decide +kernel
  have hscope : anyAsksScope [.compound [.name "p" "p"]] = false := by decide +kernel
  obtain ⟨htable, hfound, -⟩ := rendered_iff_found parse_replacedBody hroot parse_p hscope
  have hrendered := hfound.mpr
    (.inr (.inr ⟨4, by decide +kernel, by decide, by decide +kernel, by decide +kernel⟩))
  exact ⟨parse_replacedBody, hroot, parse_p, hscope, hrendered, htable.mpr hrendered⟩

/-- **A paragraph that is no longer in the page makes it count as rendered**, and it is a row of a
table, though neither the root matches nor anything below it. -/
theorem detached_counts_as_rendered :
    Document.parse? "<p></p><frameset></frameset>" = some replacedBody ∧
      replacedBody.rootElement? = some 1 ∧
      Selector.parse "p" = .ok [.compound [.name "p" "p"]] ∧
      anyAsksScope [.compound [.name "p" "p"]] = false ∧
      hasSelector "<p></p><frameset></frameset>" [.compound [.name "p" "p"]] = true ∧
      table replacedBody "p" = .ok [4] ∧
      anyMatches replacedBody none none [.compound [.name "p" "p"]] 1 = false ∧
      nodes replacedBody 1 "p" = .error (.notFound "p") := by
  have hmatches : ∃ n ∈ replacedBody.elements,
      anyMatches replacedBody none none [.compound [.name "p" "p"]] n = true :=
    ⟨4, by decide +kernel, by decide +kernel⟩
  exact ⟨parse_replacedBody, by decide +kernel, parse_p, by decide +kernel,
    (hasSelector_eq_true_iff parse_replacedBody).mpr hmatches, by decide +kernel,
    by decide +kernel, by decide +kernel⟩

end PageCrawl.Extract
