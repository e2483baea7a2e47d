import PageCrawl.Settings.Decimal
import PageCrawl.Proofs.Json.Written
import PageCrawl.Proofs.Text.Blank

/-!
# Which texts are numbers

`IsNumeral` says without the reader which texts are numbers and which number each of them is: blanks
may stand at both ends, one plus sign may stand in front, and the rest are digits, at least one.

**Reading.**  The reader trims first.  Digits and signs are no blanks, so trimming takes the blanks
of a numeral and nothing else (`trim_around`), and what it leaves of any text is the text without
blanks at its ends (`exists_around`).  The digits are read one by one; a number grows with each of
them, so the reader may stop at the first that makes it too large (`digits_eq_ok_iff`).  Together:
`read_eq_ok_iff`.

**Writing.**  The decimal digits of a number are one of its numerals: `isNumeral_toString`.
-/

namespace PageCrawl

open Text

/-- **A text that is a number**, in decimal digits, with a sign in front or not and blanks
around. -/
def IsNumeral (s : String) (n : Nat) : Prop :=
  ∃ front sign digits back, s.toList = front ++ (sign ++ digits) ++ back ∧
    (∀ c ∈ front, isBlank c = true) ∧ (∀ c ∈ back, isBlank c = true) ∧
    (sign = [] ∨ sign = ['+']) ∧ digits ≠ [] ∧ (∀ c ∈ digits, c.isDigit = true) ∧
    Nat.ofDigitChars 10 digits 0 = n

namespace Text

/-- Neither digits nor a sign are blanks. -/
lemma not_isBlank_of_isDigit {c : Char} (h : c.isDigit = true) : isBlank c = false := by
  by_contra hblank
  rw [Bool.not_eq_false, isBlank, List.contains_iff_mem] at hblank
  have hnone : blanks.all (fun d => !d.isDigit) = true := by decide
  have hdigit := List.all_eq_true.mp hnone c hblank
  rw [h] at hdigit
  cases hdigit

end Text

namespace Decimal

/-- **Digits are read as the number they make**, if it is not too large. -/
lemma digits_eq_ok_iff (cs : List Char) (m n : Nat) (hm : m ≤ maximum) : digits m cs = .ok n ↔
    (∀ c ∈ cs, c.isDigit = true) ∧ Nat.ofDigitChars 10 cs m = n ∧ n ≤ maximum := by
  induction cs generalizing m with
  | nil =>
      simp only [digits, Except.ok.injEq, Nat.ofDigitChars_nil, List.not_mem_nil, false_implies,
        implies_true, true_and]
      exact ⟨fun h => ⟨h, h ▸ hm⟩, fun h => h.1⟩
  | cons c cs ih =>
      rw [Nat.ofDigitChars_cons, Nat.mul_comm 10 m, List.forall_mem_cons, digits]
      cases hc : c.isDigit with
      | false => simp
      | true =>
          by_cases hlarge : m * 10 + (c.toNat - '0'.toNat) > maximum
          · -- the digits that follow do not make the number smaller
            have hle := Json.le_ofDigitChars cs (m * 10 + (c.toNat - '0'.toNat))
            simp only [hlarge, Bool.not_true, Bool.false_eq_true, ↓reduceIte, reduceCtorEq,
              true_and, false_iff, not_and]
            intro _ hn
            omega
          · simp only [hlarge, Bool.not_true, Bool.false_eq_true, ↓reduceIte, true_and]
            exact ih _ (Nat.not_lt.mp hlarge)

lemma readTrimmed_eq_ok_iff (cs : List Char) (n : Nat) : readTrimmed cs = .ok n ↔
    (∃ sign ds, cs = sign ++ ds ∧ (sign = [] ∨ sign = ['+']) ∧ ds ≠ [] ∧
      (∀ c ∈ ds, c.isDigit = true) ∧ Nat.ofDigitChars 10 ds 0 = n) ∧ n ≤ maximum := by
  constructor
  · intro h
    rw [readTrimmed.eq_def] at h
    split at h
    · cases h
    · cases h
    · next ds hne =>
        obtain ⟨hall, hn, hle⟩ := (digits_eq_ok_iff ds 0 n (Nat.zero_le _)).mp h
        exact ⟨⟨['+'], ds, rfl, .inr rfl, hne, hall, hn⟩, hle⟩
    · next hne _ _ =>
        obtain ⟨hall, hn, hle⟩ := (digits_eq_ok_iff _ 0 n (Nat.zero_le _)).mp h
        exact ⟨⟨[], cs, rfl, .inl rfl, hne, hall, hn⟩, hle⟩
  · rintro ⟨⟨sign, ds, rfl, hsign, hne, hall, hn⟩, hle⟩
    have hdigits := (digits_eq_ok_iff ds 0 n (Nat.zero_le _)).mpr ⟨hall, hn, hle⟩
    obtain ⟨c, ds, rfl⟩ := List.exists_cons_of_ne_nil hne
    rcases hsign with rfl | rfl
    · have hplus : c ≠ '+' := by
        rintro rfl
        cases hall '+' List.mem_cons_self
      rw [← hdigits, List.nil_append, readTrimmed.eq_def]
      split
      · next heq => cases heq
      · next heq => exact absurd (List.cons.inj heq).1 hplus
      · next heq => exact absurd (List.cons.inj heq).1 hplus
      · rfl
    · exact hdigits

/-- **The reader accepts the numerals of the numbers that 64 bits hold**, and each as its number. -/
lemma read_eq_ok_iff (s : String) (n : Nat) :
    read s = .ok n ↔ IsNumeral s n ∧ n ≤ 18446744073709551615 := by
  have hmaximum : maximum = 18446744073709551615 := by decide
  rw [read, readTrimmed_eq_ok_iff, hmaximum]
  refine and_congr_left fun _ => ⟨?_, ?_⟩
  · rintro ⟨sign, ds, heq, hsign, hne, hall, hn⟩
    obtain ⟨front, back, haround, hfront, hback⟩ := exists_around s.toList
    exact ⟨front, sign, ds, back, heq ▸ haround, hfront, hback, hsign, hne, hall, hn⟩
  · rintro ⟨front, sign, ds, back, heq, hfront, hback, hsign, hne, hall, hn⟩
    have hcore : ∀ c ∈ sign ++ ds, isBlank c = false := by
      intro c hc
      rcases List.mem_append.mp hc with hc | hc
      · rcases hsign with rfl | rfl
        · cases hc
        · obtain rfl := List.mem_singleton.mp hc
          decide
      · exact not_isBlank_of_isDigit (hall c hc)
    exact ⟨sign, ds, heq ▸ trim_around hfront hback hcore, hsign, hne, hall, hn⟩

/-- **The decimal digits of a number are one of its numerals.** -/
lemma isNumeral_toString (n : Nat) : IsNumeral (toString n) n := by
  refine ⟨[], [], Nat.toDigits 10 n, [], ?_, by simp, by simp, .inl rfl, Nat.toDigits_ne_nil,
    fun c hc => Nat.isDigit_of_mem_toDigits (by decide) (by decide) hc,
    Nat.ofDigitChars_ten_toDigits⟩
  simp

/-- Blanks, a sign and zeros in front are no fault, and the largest number is read. -/
example : read "\u2003+0018446744073709551615\n" = .ok 18446744073709551615 := by decide +kernel

end Decimal

end PageCrawl
