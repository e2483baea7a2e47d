import PageCrawl.Proofs.Session.Addresses
import PageCrawl.Proofs.Text.Utf8

/-!
# Filling templates

The address of a request is made of the text before the first placeholder of a template, the request
as it is encoded, and the text behind the placeholder.  A template without a placeholder is followed
by the request.  Two facts make an address one that can be read back:

**The encoding.**  What is written of a text is read as this text (`Form.decode_encode_text`): plus
signs are blanks, the escapes are the bytes of the text (`Form.decode_encode`), and a text is read
from its bytes (`Utf8.decode_encode`).

**The place.**  Where a template is cut depends on the template alone, and it is cut at its first
placeholder (`isFirst_of_cut`).  What is put there is not looked at again, whatever it says, nor is
what stands behind it.
-/

namespace PageCrawl.Url

open Text

variable {template : String} {before after cs : List Char}

namespace Form

/-- **What is written of a text is read as this text.** -/
lemma decode_encode_text (cs : List Char) : decode (encode cs) = cs :=
  (congrArg Utf8.decode (decode_encode cs)).trans (Utf8.decode_encode cs)

/-- The characters that are written. -/
lemma mem_encode_cases {c : Char} (h : c ∈ encode cs) :
    c.isAlphanum = true ∨ c ∈ ['*', '-', '.', '_', '+', '%'] := by
  have hwritten := isWritten_of_mem_encode h
  simp only [isWritten, isPlain, Bool.or_eq_true, List.contains_eq_mem, decide_eq_true_eq,
    List.mem_cons, List.not_mem_nil, or_false, beq_iff_eq] at hwritten ⊢
  tauto

end Form

namespace Template

/-- **The first placeholder of a template**, and the texts around it. -/
structure IsFirst (template before after : String) : Prop where
  eq_append : template = before ++ "\x7b\x7d" ++ after
  le_length : ∀ b a, template = b ++ "\x7b\x7d" ++ a → before.length ≤ b.length

/-! ## Where a template is cut -/

/-- A template with a placeholder is cut there or before. -/
lemma exists_cut (a : List Char) : ∀ b : List Char, ∃ before after,
    cut (b ++ ['\x7b', '\x7d'] ++ a) = some (before, after) ∧ before.length ≤ b.length
  | [] => ⟨[], a, rfl, Nat.le_refl _⟩
  | c :: b => by
      obtain ⟨before, after, hcut, hle⟩ := exists_cut a b
      rw [List.cons_append, List.cons_append, cut.eq_def]
      split
      · next heq => cases heq
      · next rest heq => exact ⟨[], rest, rfl, Nat.zero_le _⟩
      · next heq =>
          obtain ⟨rfl, rfl⟩ := List.cons.inj heq
          exact ⟨c :: before, after, by rw [hcut]; rfl, Nat.succ_le_succ hle⟩

lemma exists_cut_append (b a : String) : ∃ before after,
    cut (b ++ "\x7b\x7d" ++ a).toList = some (before, after) ∧ before.length ≤ b.length := by
  obtain ⟨before, after, hcut, hle⟩ := exists_cut a.toList b.toList
  refine ⟨before, after, ?_, ?_⟩
  · rw [← hcut]
    simp
  · rwa [String.length_toList] at hle

lemma isFirst_of_cut (h : cut template.toList = some (before, after)) :
    IsFirst template (String.ofList before) (String.ofList after) := by
  constructor
  · rw [← String.toList_inj, (fillWith_of_cut h).1]
    simp
  · rintro b a rfl
    obtain ⟨front, back, hcut, hle⟩ := exists_cut_append b a
    rw [hcut, Option.some.injEq, Prod.mk.injEq] at h
    rwa [← h.1, String.length_ofList]

/-- What follows a template that is not cut. -/
lemma fillWith_of_not_cut (h : cut cs = none) (encoded : List Char) :
    fillWith encoded cs = cs ++ encoded := by
  induction cs using cut.induct with
  | case1 => rfl
  | case2 rest => cases h
  | case3 c cs hnot ih =>
      rw [cut, Option.map_eq_none_iff] at h
      · rw [fillWith, ih h, List.cons_append]
        exact hnot
      · exact hnot

lemma not_placeholder_of_cut (h : cut template.toList = none) (b a : String) :
    template ≠ b ++ "\x7b\x7d" ++ a := by
  rintro rfl
  obtain ⟨front, back, hcut, -⟩ := exists_cut_append b a
  rw [hcut] at h
  cases h

/-- **An address is the template with the request at its first placeholder**, or behind it. -/
lemma fill_cases (template : String) :
    (∃ before after, IsFirst template before after ∧
      ∀ request, fill template request = before ++ encoded request ++ after) ∨
    (∀ before after, template ≠ before ++ "\x7b\x7d" ++ after) ∧
      ∀ request, fill template request = template ++ encoded request := by
  cases hcut : cut template.toList with
  | none =>
      refine .inr ⟨not_placeholder_of_cut hcut, fun request => ?_⟩
      rw [fill, fillWith_of_not_cut hcut, String.ofList_append, String.ofList_toList, encoded]
  | some texts =>
      obtain ⟨before, after⟩ := texts
      refine .inl ⟨_, _, isFirst_of_cut hcut, fun request => ?_⟩
      rw [fill, (fillWith_of_cut hcut).2, String.ofList_append, String.ofList_append, encoded]

/-- **A request can be read from its address.**

For every template and every request, the address is the text before the first placeholder, the
encoded request, and the text behind the placeholder as it is, other placeholders included.  Without
a placeholder it is the template and the encoded request.  What is encoded consists of letters,
digits and a few other characters, and is read as the request.  So requests that differ have
different addresses. -/
theorem fill_reads_back (template : String) :
    (∀ request, Form.decode (encoded request).toList = request.toList ∧
      ∀ c ∈ (encoded request).toList,
        c.isAlphanum = true ∨ c ∈ ['*', '-', '.', '_', '+', '%']) ∧
    ((∃ before after, IsFirst template before after ∧
        ∀ request, fill template request = before ++ encoded request ++ after) ∨
      (∀ before after, template ≠ before ++ "\x7b\x7d" ++ after) ∧
        ∀ request, fill template request = template ++ encoded request) ∧
    Function.Injective (fill template) := by
  refine ⟨fun request => ?_, fill_cases template, fun request request' h => ?_⟩
  · rw [encoded, String.toList_ofList]
    exact ⟨Form.decode_encode_text _, fun c hc => Form.mem_encode_cases hc⟩
  · rcases fill_cases template with ⟨before, after, -, hfill⟩ | ⟨-, hfill⟩
    · rw [hfill, hfill, String.append_left_inj, String.append_right_inj] at h
      exact encoded_injective h
    · rw [hfill, hfill, String.append_right_inj] at h
      exact encoded_injective h

/-- A request of characters that are escaped, with a placeholder of its own. -/
example : fill "/q=\x7b\x7d&p=\x7b\x7d" "a+\x7b\x7d %" = "/q=a%2B%7B%7D+%25&p=\x7b\x7d" := by
  decide +kernel

end Template

end PageCrawl.Url
