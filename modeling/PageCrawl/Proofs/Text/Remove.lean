import Mathlib
import PageCrawl.Text.Remove

/-!
# What is left of a text

Occurrences of one text are taken out of another from the front on, each time the first one in what
lies behind the one before (`Pieces`), and what lies between them is put together (`removeAll_eq`).
An occurrence in what is left can only stand at a seam.

**One letter.**  A text that repeats one letter is gone for good: a seam stands behind another
letter, since an earlier occurrence would have been taken otherwise (`not_infix_removeAll`).

**Two letters.**  Every other text comes back: put into itself behind its first letter it is taken
out from the middle, and its two parts make it again (`removeAll_nested`).
-/

namespace PageCrawl.Text

variable {dirt cs before after : List Char} {c : Char}

/-- **The first occurrence of a text in another**, with what stands before and behind it. -/
structure FirstIn (dirt cs before after : List Char) : Prop where
  eq_append : cs = before ++ dirt ++ after
  le_length : ∀ b a, cs = b ++ dirt ++ a → before.length ≤ b.length

/-- What lies between the occurrences of a text in another.  They are looked for from the front on,
each in what lies behind the one before. -/
inductive Pieces (dirt : List Char) : List Char → List (List Char) → Prop
  | whole {cs : List Char} (h : ¬ dirt <:+: cs) : Pieces dirt cs [cs]
  | cut {cs before after : List Char} {ps : List (List Char)} (h : FirstIn dirt cs before after)
      (hrest : Pieces dirt after ps) : Pieces dirt cs (before :: ps)

/-! ## Occurrences -/

/-- A text that occurs in another occurs there for the first time. -/
lemma exists_firstIn (h : dirt <:+: cs) : ∃ before after, FirstIn dirt cs before after := by
  classical
  have hplace : ∃ k, ∃ before after, before.length = k ∧ cs = before ++ dirt ++ after := by
    obtain ⟨before, after, heq⟩ := h
    exact ⟨before.length, before, after, rfl, heq.symm⟩
  obtain ⟨before, after, hlength, heq⟩ := Nat.find_spec hplace
  refine ⟨before, after, heq, fun b a hba => ?_⟩
  rw [hlength]
  exact Nat.find_min' hplace ⟨b, a, rfl, hba⟩

lemma FirstIn.length_lt (h : FirstIn dirt cs before after) (hdirt : dirt ≠ []) :
    after.length < cs.length := by
  have hpos := List.length_pos_iff.mpr hdirt
  rw [h.eq_append, List.length_append, List.length_append]
  omega

/-- The first occurrence, seen from one letter further on. -/
lemma FirstIn.tail (h : FirstIn dirt (c :: cs) (c :: before) after) :
    FirstIn dirt cs before after where
  eq_append := List.tail_eq_of_cons_eq h.eq_append
  le_length b a hba := by
    have hle := h.le_length (c :: b) a (congrArg (List.cons c) hba)
    simpa using hle

/-- A text can be cut at the occurrences of another. -/
lemma exists_pieces (hdirt : dirt ≠ []) (cs : List Char) : ∃ ps, Pieces dirt cs ps := by
  induction hn : cs.length using Nat.strong_induction_on generalizing cs with
  | _ n ih =>
      by_cases hin : dirt <:+: cs
      · obtain ⟨before, after, hfirst⟩ := exists_firstIn hin
        obtain ⟨ps, hps⟩ := ih after.length (hn ▸ hfirst.length_lt hdirt) after rfl
        exact ⟨before :: ps, .cut hfirst hps⟩
      · exact ⟨[cs], .whole hin⟩

/-! ## Taking them out -/

lemma removeAfter_drop (dirt : List Char) (k : Nat) (cs : List Char) :
    removeAfter dirt k cs = removeAfter dirt 0 (cs.drop k) := by
  induction k generalizing cs with
  | zero => rfl
  | succ k ih =>
      cases cs with
      | nil => rfl
      | cons c cs => rw [removeAfter, ih, List.drop_succ_cons]

/-- An occurrence at the front is taken out. -/
lemma removeAfter_append (hdirt : dirt ≠ []) (after : List Char) :
    removeAfter dirt 0 (dirt ++ after) = removeAfter dirt 0 after := by
  obtain ⟨c, rest, rfl⟩ := List.exists_cons_of_ne_nil hdirt
  have hfront : (c :: rest).isPrefixOf (c :: (rest ++ after)) = true :=
    List.isPrefixOf_iff_prefix.mpr (List.prefix_append (c :: rest) after)
  rw [List.cons_append, removeAfter, if_pos hfront, removeAfter_drop, List.length_cons,
    Nat.add_sub_cancel, List.drop_left]

/-- A letter with which no occurrence begins stays. -/
lemma removeAfter_cons (h : ¬ dirt <+: c :: cs) :
    removeAfter dirt 0 (c :: cs) = c :: removeAfter dirt 0 cs := by
  rw [removeAfter, if_neg fun hfront => h (List.isPrefixOf_iff_prefix.mp hfront)]

lemma removeAfter_eq_self (h : ¬ dirt <:+: cs) : removeAfter dirt 0 cs = cs := by
  induction cs with
  | nil => rfl
  | cons c cs ih =>
      rw [removeAfter_cons fun hfront => h hfront.isInfix,
        ih fun hin => h (hin.trans (List.suffix_cons c cs).isInfix)]

/-- What stands before the first occurrence stays. -/
lemma FirstIn.removeAfter_eq (hdirt : dirt ≠ []) (h : FirstIn dirt cs before after) :
    removeAfter dirt 0 cs = before ++ removeAfter dirt 0 after := by
  induction before generalizing cs with
  | nil => rw [h.eq_append, List.nil_append, removeAfter_append hdirt, List.nil_append]
  | cons c before ih =>
      obtain ⟨rest, rfl⟩ : ∃ rest, cs = c :: rest := ⟨_, h.eq_append⟩
      have hlater : ¬ dirt <+: c :: rest := by
        rintro ⟨a, ha⟩
        have hle := h.le_length [] a (by rw [List.nil_append, ha])
        simp at hle
      rw [removeAfter_cons hlater, ih h.tail, List.cons_append]

/-- **What is left of a text is what lies between the occurrences, put together.** -/
lemma Pieces.removeAll_eq {ps : List (List Char)} (hdirt : dirt ≠ []) (h : Pieces dirt cs ps) :
    removeAll dirt cs = ps.flatten := by
  rw [removeAll, if_neg (by simpa using hdirt)]
  induction h with
  | whole h => rw [removeAfter_eq_self h, List.flatten_singleton]
  | cut h _ ih => rw [h.removeAfter_eq hdirt, ih, List.flatten_cons]

lemma Pieces.length_flatten_le {ps : List (List Char)} (h : Pieces dirt cs ps) :
    ps.flatten.length ≤ cs.length := by
  induction h with
  | whole h => simp
  | cut h _ ih =>
      rw [h.eq_append, List.flatten_cons, List.length_append, List.length_append,
        List.length_append]
      omega

/-- **A text is left as it is just if there is nothing to take out.** -/
lemma removeAll_eq_self_iff (hdirt : dirt ≠ []) : removeAll dirt cs = cs ↔ ¬ dirt <:+: cs := by
  obtain ⟨ps, hps⟩ := exists_pieces hdirt cs
  rw [hps.removeAll_eq hdirt]
  cases hps with
  | whole h => simpa using h
  | @cut _ before after ps hfirst hrest =>
      have hpos := List.length_pos_iff.mpr hdirt
      have hle := hrest.length_flatten_le
      have hin : dirt <:+: cs := ⟨before, after, hfirst.eq_append.symm⟩
      refine iff_of_false (fun heq => ?_) (not_not_intro hin)
      -- the occurrence is missing from what is left
      have hlength := congrArg List.length (heq.trans hfirst.eq_append)
      simp only [List.flatten_cons, List.length_append] at hlength
      omega

/-! ## A text that repeats one letter -/

/-- Before the first occurrence of a repeated letter stands another letter, if any. -/
lemma FirstIn.getLast?_ne {n : Nat} (h : FirstIn (List.replicate (n + 1) c) cs before after) :
    before.getLast? ≠ some c := by
  intro hlast
  obtain ⟨b, rfl⟩ := List.getLast?_eq_some_iff.mp hlast
  -- one place further to the front there is another occurrence
  have hswap : [c] ++ List.replicate (n + 1) c = List.replicate (n + 1) c ++ [c] := by
    rw [List.singleton_append, ← List.replicate_succ, List.replicate_succ']
  have hshift : cs = b ++ List.replicate (n + 1) c ++ (c :: after) := by
    rw [h.eq_append, List.append_assoc b, hswap, ← List.append_assoc b, List.append_assoc _ [c],
      List.singleton_append]
  have hle := h.le_length b (c :: after) hshift
  simp at hle

/-- Before its first occurrence a text does not occur. -/
lemma FirstIn.not_isInfix (hdirt : dirt ≠ []) (h : FirstIn dirt cs before after) :
    ¬ dirt <:+: before := by
  rintro ⟨b, a, hba⟩
  have hle := h.le_length b (a ++ dirt ++ after) (by
    rw [h.eq_append, ← hba]
    simp only [List.append_assoc])
  have hpos := List.length_pos_iff.mpr hdirt
  rw [← hba, List.length_append, List.length_append] at hle
  omega

/-- Behind another letter a repeated letter begins anew. -/
lemma infix_append_of_getLast?_ne {n : Nat} {xs ys : List Char}
    (h : List.replicate n c <:+: xs ++ ys) (hlast : xs.getLast? ≠ some c) :
    List.replicate n c <:+: xs ∨ List.replicate n c <:+: ys := by
  rcases List.infix_append_iff.mp h with hx | hy | ⟨front, back, heq, ⟨xs', hfront⟩, hback⟩
  · exact .inl hx
  · exact .inr hy
  · refine .inr ?_
    rcases List.eq_nil_or_concat front with rfl | ⟨front', d, rfl⟩
    · rw [heq, List.nil_append]
      exact hback.isInfix
    · -- a part of it that reaches to the seam would end with its letter
      have hd : d ∈ List.replicate n c := by simp [heq]
      obtain rfl : d = c := List.eq_of_mem_replicate hd
      exact absurd (by simp [← hfront]) hlast

/-- **A repeated letter does not come back.** -/
lemma not_infix_removeAll (c : Char) (n : Nat) (cs : List Char) :
    ¬ List.replicate (n + 1) c <:+: removeAll (List.replicate (n + 1) c) cs := by
  have hdirt : List.replicate (n + 1) c ≠ [] := by simp
  obtain ⟨ps, hps⟩ := exists_pieces hdirt cs
  rw [hps.removeAll_eq hdirt]
  induction hps with
  | whole h => rwa [List.flatten_singleton]
  | cut hfirst _ ih =>
      rw [List.flatten_cons]
      intro hin
      exact (infix_append_of_getLast?_ne hin hfirst.getLast?_ne).elim
        (hfirst.not_isInfix hdirt) ih

/-! ## A text of two letters or more -/

/-- A text that is found again one place further on repeats one letter. -/
lemma eq_of_prefix_cons {v : List Char} (h : v <+: c :: v) : ∀ b ∈ v, b = c := by
  induction v with
  | nil => simp
  | cons d v ih =>
      obtain ⟨rfl, hv⟩ := List.cons_prefix_cons.mp h
      simpa using ih hv

/-- **A text that holds two letters comes back.**  It is put into itself behind its first letter,
with a letter of another kind at both ends. -/
lemma removeAll_nested {v : List Char} {x : Char} (hv : ∃ b ∈ v, b ≠ c) (hx : x ≠ c) :
    removeAll (c :: v) ([x, c] ++ (c :: v) ++ (v ++ [x])) = [x] ++ (c :: v) ++ [x] := by
  have hnot : ¬ v <+: c :: v := fun h => by
    obtain ⟨b, hb, hne⟩ := hv
    exact hne (eq_of_prefix_cons h b hb)
  have hfirst : FirstIn (c :: v) ([x, c] ++ (c :: v) ++ (v ++ [x])) [x, c] (v ++ [x]) := by
    refine ⟨rfl, fun b a hba => ?_⟩
    match b with
    | [] =>
        simp only [List.cons_append, List.nil_append, List.cons.injEq] at hba
        exact absurd hba.1 hx
    | [_] =>
        simp only [List.cons_append, List.nil_append, List.cons.injEq] at hba
        -- the text would begin again right behind its first letter
        have hagain : v <+: c :: (v ++ (v ++ [x])) := ⟨a, hba.2.2.symm⟩
        have hwhole : c :: v <+: c :: (v ++ (v ++ [x])) := List.prefix_append (c :: v) (v ++ [x])
        exact absurd (List.prefix_of_prefix_length_le hagain hwhole (by simp)) hnot
    | _ :: _ :: _ => simp
  have hrest : ¬ c :: v <:+: v ++ [x] := by
    intro hin
    have heq : c :: v = v ++ [x] := hin.eq_of_length (by simp)
    have hall := eq_of_prefix_cons (heq ▸ List.prefix_append v [x])
    obtain ⟨b, hb, hne⟩ := hv
    exact hne (hall b hb)
  rw [(Pieces.cut hfirst (.whole hrest)).removeAll_eq (List.cons_ne_nil c v)]
  simp

/-- A text repeats one letter, or it holds another one behind its first. -/
lemma eq_replicate_or_exists_ne (c : Char) (v : List Char) :
    c :: v = List.replicate (v.length + 1) c ∨ ∃ b ∈ v, b ≠ c := by
  by_cases h : ∀ b ∈ v, b = c
  · refine .inl ?_
    rw [List.replicate_succ, ← List.eq_replicate_of_mem h]
  · exact .inr (by simpa using h)

end PageCrawl.Text
