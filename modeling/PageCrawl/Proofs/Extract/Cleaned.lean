import Mathlib
import PageCrawl.Proofs.Extract.First
import PageCrawl.Proofs.Text.Blank
import PageCrawl.Proofs.Text.Remove

/-!
# Text that is cleaned

Text that is taken from a page is cleaned of dirt, and then of the blanks around it.  The second
step needs no repetition: what is left neither begins nor ends with a blank.  The first may need it.
Occurrences of the dirt are taken out once, from the front on, and what stood on both sides of one
may make another.  Whether it can depends on the dirt alone: a repeated letter never comes back, and
any other dirt does in some text.
-/

namespace PageCrawl.Extract

open Html Selector Text

variable {dirt cs : List Char}

/-- Cleaning leaves a text without blanks at its ends as it is just if it holds no dirt. -/
lemma cleaned_eq_self_iff (hdirt : dirt ≠ []) (hhead : ∀ c ∈ cs.head?, isBlank c = false)
    (hlast : ∀ c ∈ cs.getLast?, isBlank c = false) :
    cleaned cs dirt = cs ↔ ¬ dirt <:+: cs := by
  refine Iff.trans ⟨fun h => ?_, fun h => ?_⟩ (removeAll_eq_self_iff hdirt)
  · -- neither step makes a text longer, so none of them took anything
    obtain ⟨ps, hps⟩ := exists_pieces hdirt cs
    have hpieces := hps.length_flatten_le
    rw [← hps.removeAll_eq hdirt] at hpieces
    have hpart : cs <:+: removeAll dirt cs := by
      have htrim := trim_isInfix (removeAll dirt cs)
      rwa [← cleaned, h] at htrim
    exact (hpart.eq_of_length_le hpieces).symm
  · rw [cleaned, h, trim_eq_self hhead hlast]

/-- **A repeated letter is gone from a cleaned text, and any other dirt comes back in some.** -/
lemma cleaned_rid_iff (hdirt : dirt ≠ []) :
    (∀ cs, ¬ dirt <:+: cleaned cs dirt) ↔ ∃ c n, dirt = List.replicate (n + 1) c := by
  constructor
  · intro h
    obtain ⟨c, v, rfl⟩ := List.exists_cons_of_ne_nil hdirt
    rcases eq_replicate_or_exists_ne c v with heq | hne
    · exact ⟨c, v.length, heq⟩
    · -- a letter for the ends that is neither a blank nor the first of the dirt
      obtain ⟨x, hx, hblank⟩ : ∃ x, x ≠ c ∧ isBlank x = false := by
        by_cases hc : 'x' = c
        · exact ⟨'y', fun hy => absurd (hc.trans hy.symm) (by decide), by decide⟩
        · exact ⟨'x', hc, by decide⟩
      refine absurd ?_ (h ([x, c] ++ (c :: v) ++ (v ++ [x])))
      rw [cleaned, removeAll_nested hne hx, trim_eq_self]
      · exact List.infix_append [x] (c :: v) [x]
      · simpa using hblank
      · rw [List.getLast?_concat]
        simpa using hblank
  · rintro ⟨c, n, rfl⟩ cs hin
    exact not_infix_removeAll c n cs (hin.trans (trim_isInfix _))

/-- **Dirt is taken out once, and what is left may hold it again.**

Text that is taken from a page is what lies between the occurrences of the dirt in the text of the
first element that is found, put together and without the blanks around it.  It never begins or ends
with a blank.  Cleaning it again leaves it as it is just if it holds no dirt.  That is so for every
text exactly if the dirt repeats one letter. -/
theorem dirt_is_taken_out_once (dirt : String) (hdirt : dirt ≠ "") :
    (∀ d start expression s, text d start expression dirt = .ok s →
      (∃ n ns pieces, nodes d start expression = .ok (n :: ns) ∧
        Pieces dirt.toList (d.tree.textOf n).toList pieces ∧ s.toList = trim pieces.flatten) ∧
      (∀ c ∈ s.toList.head?, isBlank c = false) ∧ (∀ c ∈ s.toList.getLast?, isBlank c = false) ∧
      (cleaned s.toList dirt.toList = s.toList ↔ ¬ dirt.toList <:+: s.toList)) ∧
    ((∀ cs, ¬ dirt.toList <:+: cleaned cs dirt.toList) ↔
      ∃ c n, dirt.toList = List.replicate (n + 1) c) := by
  have hne : dirt.toList ≠ [] := fun h => hdirt (String.toList_eq_nil_iff.mp h)
  refine ⟨fun d start expression s h => ?_, cleaned_rid_iff hne⟩
  obtain ⟨n, ns, hns, hs⟩ := exists_of_text h
  obtain ⟨pieces, hpieces⟩ := exists_pieces hne (d.tree.textOf n).toList
  have hhead : ∀ c ∈ s.toList.head?, isBlank c = false := fun c hc =>
    not_isBlank_of_mem_head?_trim (hs ▸ hc)
  have hlast : ∀ c ∈ s.toList.getLast?, isBlank c = false := fun c hc =>
    not_isBlank_of_mem_getLast?_trim (hs ▸ hc)
  refine ⟨⟨n, ns, pieces, hns, hpieces, ?_⟩, hhead, hlast, cleaned_eq_self_iff hne hhead hlast⟩
  rw [hs, cleaned, hpieces.removeAll_eq hne]

/-- A page with one paragraph. -/
def paragraph (text : String) : Document := ⟨⟨#[⟨.document, none, none, none, some (1, 1)⟩,
  plainNode "html" (some 0) none none (some (2, 3)),
  plainNode "head" (some 1) none (some 3) none,
  plainNode "body" (some 1) (some 2) none (some (4, 4)),
  plainNode "p" (some 3) none none (some (5, 5)),
  ⟨.text text, some 4, none, none, none⟩]⟩⟩

lemma text_paragraph : Document.parse? "<p>aabb</p>" = some (paragraph "aabb") ∧
    (paragraph "aabb").rootElement? = some 1 ∧ text (paragraph "aabb") 1 "p" "ab" = .ok "ab" := by
  decide +kernel

theorem dirt_is_taken_out_once_nested :
    "ab" ≠ "" ∧ Document.parse? "<p>aabb</p>" = some (paragraph "aabb") ∧
      text (paragraph "aabb") 1 "p" "ab" = .ok "ab" ∧
      (cleaned "ab".toList "ab".toList = "ab".toList ↔ ¬ "ab".toList <:+: "ab".toList) ∧
      ¬ ∃ c n, "ab".toList = List.replicate (n + 1) c := by
  obtain ⟨hparse, -, htext⟩ := text_paragraph
  obtain ⟨htaken, hrid⟩ := dirt_is_taken_out_once "ab" (by decide)
  obtain ⟨-, -, -, hagain⟩ := htaken (paragraph "aabb") 1 "p" "ab" htext
  refine ⟨by decide, hparse, htext, hagain, fun hrepeats => ?_⟩
  exact hrid.mpr hrepeats "aabb".toList ⟨[], [], by decide⟩

/-- **Dirt comes back.**  The text of this paragraph holds the dirt once, between two letters that
make it again, and it is what is taken from the page; cleaning that once more takes it away. -/
theorem dirt_comes_back :
    Document.parse? "<p>aabb</p>" = some (paragraph "aabb") ∧
      (paragraph "aabb").rootElement? = some 1 ∧
      text (paragraph "aabb") 1 "p" "ab" = .ok "ab" ∧ "ab".toList <:+: "ab".toList ∧
      cleaned "ab".toList "ab".toList ≠ "ab".toList := by
  obtain ⟨hparse, hroot, htext⟩ := text_paragraph
  exact ⟨hparse, hroot, htext, List.infix_rfl, by decide⟩

end PageCrawl.Extract
