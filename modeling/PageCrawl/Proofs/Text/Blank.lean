import Mathlib
import PageCrawl.Text.Blank

/-!
# Blanks around a text

Trimming takes the blanks at both ends of a text and nothing else: any text is what trimming leaves
of it with blanks around (`exists_around`), what is left neither begins nor ends with a blank
(`not_isBlank_of_mem_head?_trim`, `not_isBlank_of_mem_getLast?_trim`), and a text like that is left
as it is (`trim_eq_self`).
-/

namespace PageCrawl.Text

variable {cs front core back : List Char} {c : Char}

lemma dropWhile_isBlank (hfront : ∀ c ∈ front, isBlank c = true) :
    (front ++ cs).dropWhile isBlank = cs.dropWhile isBlank :=
  List.dropWhile_append_of_pos hfront

/-- A text is what trimming leaves of it, with blanks around. -/
lemma exists_around (cs : List Char) : ∃ front back, cs = front ++ trim cs ++ back ∧
    (∀ c ∈ front, isBlank c = true) ∧ ∀ c ∈ back, isBlank c = true := by
  let rest := cs.dropWhile isBlank
  refine ⟨cs.takeWhile isBlank, (rest.reverse.takeWhile isBlank).reverse, ?_, ?_, ?_⟩
  · have hrest : rest = trim cs ++ (rest.reverse.takeWhile isBlank).reverse := by
      rw [trim, ← List.reverse_append, List.takeWhile_append_dropWhile, List.reverse_reverse]
    rw [List.append_assoc, ← hrest, List.takeWhile_append_dropWhile]
  · exact fun c hc => List.mem_takeWhile_imp hc
  · exact fun c hc => List.mem_takeWhile_imp (List.mem_reverse.mp hc)

/-- Nothing is dropped from a text that begins with no blank. -/
lemma dropWhile_isBlank_eq_self (h : ∀ c ∈ cs.head?, isBlank c = false) :
    cs.dropWhile isBlank = cs := by
  cases cs with
  | nil => rfl
  | cons c cs => simp [h c rfl]

/-- Trimming takes the blanks around a text that holds none. -/
lemma trim_around (hfront : ∀ c ∈ front, isBlank c = true) (hback : ∀ c ∈ back, isBlank c = true)
    (hcore : ∀ c ∈ core, isBlank c = false) : trim (front ++ core ++ back) = core := by
  have hreverse : ∀ c ∈ back.reverse, isBlank c = true :=
    fun c hc => hback c (List.mem_reverse.mp hc)
  rw [trim, List.append_assoc, dropWhile_isBlank hfront]
  cases core with
  | nil =>
      have hnone : back.dropWhile isBlank = [] := List.dropWhile_eq_nil_iff.mpr hback
      simp [hnone]
  | cons c core =>
      have hhead : (c :: core ++ back).dropWhile isBlank = c :: core ++ back :=
        dropWhile_isBlank_eq_self (by simpa using hcore c List.mem_cons_self)
      rw [hhead, List.reverse_append, dropWhile_isBlank hreverse, dropWhile_isBlank_eq_self
        fun d hd => hcore d (List.mem_reverse.mp (List.mem_of_mem_head? hd)), List.reverse_reverse]

/-- Where dropping blanks stops, no blank stands. -/
lemma not_isBlank_of_mem_head?_dropWhile (h : c ∈ (cs.dropWhile isBlank).head?) :
    isBlank c = false := by
  obtain ⟨rest, hrest⟩ := List.head?_eq_some_iff.mp h
  exact isBlank_head_dropWhile hrest

/-- What trimming leaves ends with no blank. -/
lemma not_isBlank_of_mem_getLast?_trim (h : c ∈ (trim cs).getLast?) : isBlank c = false := by
  rw [trim, List.getLast?_reverse] at h
  exact not_isBlank_of_mem_head?_dropWhile h

/-- What trimming leaves begins with no blank: it begins where dropping blanks stops. -/
lemma not_isBlank_of_mem_head?_trim (h : c ∈ (trim cs).head?) : isBlank c = false := by
  have hfront : trim cs <+: cs.dropWhile isBlank := by
    rw [trim, ← List.reverse_suffix, List.reverse_reverse]
    exact List.dropWhile_suffix isBlank
  obtain ⟨back, hback⟩ := hfront
  obtain ⟨rest, hrest⟩ := List.head?_eq_some_iff.mp h
  rw [hrest, List.cons_append] at hback
  exact isBlank_head_dropWhile hback.symm

/-- A text without blanks at its ends is left as it is. -/
lemma trim_eq_self (hhead : ∀ c ∈ cs.head?, isBlank c = false)
    (hlast : ∀ c ∈ cs.getLast?, isBlank c = false) : trim cs = cs := by
  rw [trim, dropWhile_isBlank_eq_self hhead,
    dropWhile_isBlank_eq_self fun c hc => hlast c (List.head?_reverse ▸ hc), List.reverse_reverse]

/-- What trimming leaves is part of the text. -/
lemma trim_isInfix (cs : List Char) : trim cs <:+: cs := by
  obtain ⟨front, back, hcs, -, -⟩ := exists_around cs
  exact ⟨front, back, hcs.symm⟩

end PageCrawl.Text
