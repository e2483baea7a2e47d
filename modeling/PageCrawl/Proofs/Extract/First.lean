import Mathlib
import PageCrawl.Proofs.Extract.Order

/-!
# The first element that is found

Text and attributes are taken from the first of the elements that are found below a node, and fail
as the search for them fails (`text_of_nodes`, `attr_of_nodes`, `text_of_error`, `attr_of_error`).
A search never succeeds with nothing, so these are all cases (`nodes_cases`).  It fails for a
selector that cannot be read, and then all of them do (`nodes_eq_invalidSelector_iff`).
-/

namespace PageCrawl.Extract

open Html Selector Text

variable {d : Document} {start n : NodeId} {ns : List NodeId} {expression : String}
  {err : ExtractError} {fault : Fault}

/-- A search finds an element, or it fails. -/
lemma nodes_cases (d : Document) (start : NodeId) (expression : String) :
    (∃ n ns, nodes d start expression = .ok (n :: ns)) ∨
      ∃ err, nodes d start expression = .error err := by
  cases h : nodes d start expression with
  | error err => exact .inr ⟨err, rfl⟩
  | ok ns =>
      obtain ⟨-, -, -, hne⟩ := nodes_eq_ok_iff.mp h
      obtain ⟨n, ns, rfl⟩ := List.exists_cons_of_ne_nil hne
      exact .inl ⟨n, ns, rfl⟩

lemma text_of_nodes (h : nodes d start expression = .ok (n :: ns)) (dirt : String) :
    text d start expression dirt =
      .ok (String.ofList (cleaned (d.tree.textOf n).toList dirt.toList)) := by
  rw [text, firstBelow, h]
  rfl

lemma attr_of_nodes (h : nodes d start expression = .ok (n :: ns)) (name : String) :
    attr d start expression name =
      ((d.tree.element? n).bind (·.attr? name)).elim (.error (.missingAttribute name expression))
        .ok := by
  rw [attr, firstBelow, h]
  simp only [bind, Except.bind, pure, Except.pure]
  split
  · next value hvalue => rw [hvalue, Option.elim_some]
  · next hnone => rw [hnone, Option.elim_none]; rfl

lemma text_of_error (h : nodes d start expression = .error err) (dirt : String) :
    text d start expression dirt = .error err := by
  rw [text, firstBelow, h]
  rfl

lemma attr_of_error (h : nodes d start expression = .error err) (name : String) :
    attr d start expression name = .error err := by
  rw [attr, firstBelow, h]
  rfl

/-- What is taken from an element that is found, if text is taken at all. -/
lemma exists_of_text {s dirt : String} (h : text d start expression dirt = .ok s) :
    ∃ n ns, nodes d start expression = .ok (n :: ns) ∧
      s.toList = cleaned (d.tree.textOf n).toList dirt.toList := by
  rcases nodes_cases d start expression with ⟨n, ns, hns⟩ | ⟨err, herr⟩
  · rw [text_of_nodes hns, Except.ok.injEq] at h
    exact ⟨n, ns, hns, by rw [← h, String.toList_ofList]⟩
  · rw [text_of_error herr] at h
    cases h

/-! ## Selectors that cannot be read -/

lemma selector_cases (expression : String) :
    (∃ list, Selector.parse expression = .ok list ∧ selector expression = .ok list) ∨
      ∃ fault, Selector.parse expression = .error fault ∧
        selector expression = .error (.invalidSelector expression fault) := by
  unfold selector
  cases Selector.parse expression with
  | ok list => exact .inl ⟨list, rfl, rfl⟩
  | error fault => exact .inr ⟨fault, rfl, rfl⟩

/-- What a search answers for a selector that is read. -/
lemma nodes_of_parse {list : List Selector} (h : Selector.parse expression = .ok list) :
    nodes d start expression = found expression (matchingBelow d start list) := by
  rw [nodes, selector_eq_ok_iff.mpr h]
  rfl

lemma found_ne_invalidSelector (expression : String) (ns : List NodeId) (fault : Fault) :
    found expression ns ≠ .error (.invalidSelector expression fault) := by
  cases ns <;> nofun

/-- **A search fails for its selector just if the selector cannot be read.** -/
lemma nodes_eq_invalidSelector_iff :
    nodes d start expression = .error (.invalidSelector expression fault) ↔
      selector expression = .error (.invalidSelector expression fault) := by
  rcases selector_cases expression with ⟨list, hlist, hok⟩ | ⟨fault', -, herror⟩
  · rw [nodes_of_parse hlist, hok]
    exact iff_of_false (found_ne_invalidSelector expression _ fault) nofun
  · rw [nodes, herror]
    simp [bind, Except.bind]

/-- Text fails for its selector just if the search for it does. -/
lemma text_eq_invalidSelector_iff (dirt : String) :
    text d start expression dirt = .error (.invalidSelector expression fault) ↔
      nodes d start expression = .error (.invalidSelector expression fault) := by
  rcases nodes_cases d start expression with ⟨n, ns, hns⟩ | ⟨err, herr⟩
  · rw [text_of_nodes hns, hns]
    exact iff_of_false nofun nofun
  · rw [text_of_error herr, herr]
    simp

/-- An attribute fails for its selector just if the search for it does. -/
lemma attr_eq_invalidSelector_iff (name : String) :
    attr d start expression name = .error (.invalidSelector expression fault) ↔
      nodes d start expression = .error (.invalidSelector expression fault) := by
  rcases nodes_cases d start expression with ⟨n, ns, hns⟩ | ⟨err, herr⟩
  · rw [attr_of_nodes hns, hns]
    cases (d.tree.element? n).bind (·.attr? name) <;> exact iff_of_false nofun nofun
  · rw [attr_of_error herr, herr]
    simp

end PageCrawl.Extract
