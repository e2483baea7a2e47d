import Mathlib
import PageCrawl.Report.Instant

/-!
# Instants are read back as they were written

`Instant.read` takes many ways to write an instant, `Instant.written` has one for each.  This file
shows that the one is among the many: `read_written`.

**Padding.**  All numbers of a written instant but a long year have a fixed count of digits, with
zeros in front.  What `takeDigits` takes of them is all of them and nothing behind them
(`takeDigits_padded`); for a number that fills its places this needs nothing of what follows, and
for the others (a year with a sign, a fraction with fewer than nine digits) what follows is no
digit.

**Validity.**  `IsValid` says that clocks and calendars can show an instant.  Only such an instant
can be read back, and whatever is read is one (`isValid_of_read`): an offset moves hours and
minutes around a day and leaves the rest alone.
-/

namespace PageCrawl

open Text

namespace Instant

/-! ## Digits -/

/-- The value of digits as the standard library has it. -/
lemma digitsValue_eq (cs : List Char) : digitsValue cs = Nat.ofDigitChars 10 cs 0 := by
  rw [Nat.ofDigitChars_eq_foldl]
  simp only [digitsValue, Nat.mul_comm]

lemma not_isBlank_of_isDigit {c : Char} (h : c.isDigit = true) : isBlank c = false := by
  have hall : ∀ d ∈ blanks, d.isDigit = false := by
    simp only [blanks, List.forall_mem_cons]
    simp
  rw [isBlank, List.contains_eq_mem, decide_eq_false_iff_not]
  intro hm
  rw [hall c hm] at h
  cases h

variable {w n : Nat}

lemma isDigit_of_mem_padded {c : Char} (h : c ∈ padded w n) : c.isDigit = true := by
  simp only [padded, List.mem_append, List.mem_replicate] at h
  rcases h with ⟨-, rfl⟩ | h
  · decide
  · exact Nat.isDigit_of_mem_toDigits (by decide) (by decide) h

/-- A number that has no more digits than told is written with exactly as many. -/
lemma length_padded (hw : 0 < w) (h : n < 10 ^ w) : (padded w n).length = w := by
  have hle : (Nat.toDigits 10 n).length ≤ w :=
    (Nat.length_toDigits_le_iff (by decide) hw).mpr h
  simp only [padded, List.length_append, List.length_replicate]
  omega

lemma digitsValue_padded (w n : Nat) : digitsValue (padded w n) = n := by
  have hzeros : ∀ k, Nat.ofDigitChars 10 (List.replicate k '0') 0 = 0 := by
    intro k
    induction k with
    | zero => rfl
    | succ k ih => simp [List.replicate_succ, Nat.ofDigitChars_cons, ih]
  rw [digitsValue_eq, padded, Nat.ofDigitChars_append, hzeros]
  exact Nat.ofDigitChars_toDigits (by decide) (by decide)

lemma padded_ne_nil (w n : Nat) : padded w n ≠ [] := by
  simp [padded, Nat.toDigits_ne_nil]

/-- What is written with padding begins with a digit. -/
lemma exists_padded_eq_cons (w n : Nat) :
    ∃ c cs, padded w n = c :: cs ∧ c.isDigit = true := by
  obtain ⟨c, cs, h⟩ := List.exists_cons_of_ne_nil (padded_ne_nil w n)
  have hc : c ∈ padded w n := h ▸ List.mem_cons_self
  exact ⟨c, cs, h, isDigit_of_mem_padded hc⟩

/-! ## Taking what was written -/

variable {rest : List Char} {most low high : Nat}

lemma takeDigits_padded (hl : (padded w n).length ≤ most)
    (hr : (rest.take (most - (padded w n).length)).takeWhile Char.isDigit = []) :
    takeDigits most (padded w n ++ rest) = some (padded w n, rest) := by
  have hall : ∀ c ∈ padded w n, c.isDigit = true := fun c hc => isDigit_of_mem_padded hc
  have htake : ((padded w n ++ rest).take most).takeWhile Char.isDigit = padded w n := by
    rw [List.take_append, List.take_of_length_le hl, List.takeWhile_append_of_pos hall, hr,
      List.append_nil]
  simp [takeDigits, htake, padded_ne_nil]

lemma afterBlanks_padded (w n : Nat) (rest : List Char) :
    afterBlanks (padded w n ++ rest) = padded w n ++ rest := by
  obtain ⟨c, cs, h, hc⟩ := exists_padded_eq_cons w n
  simp [afterBlanks, h, not_isBlank_of_isDigit hc]

lemma takeNumber_padded (hw : 0 < w) (h : n < 10 ^ w) (hlow : low ≤ n) (hhigh : n ≤ high) :
    takeNumber w low high (padded w n ++ rest) = some (n, rest) := by
  have hl := length_padded hw h
  have hd : takeDigits w (padded w n ++ rest) = some (padded w n, rest) :=
    takeDigits_padded hl.le (by simp [hl])
  simp [takeNumber, afterBlanks_padded, hd, digitsValue_padded, hlow, hhigh, guard]

lemma takeMark_cons {mark : Char} (h : isBlank mark = false) :
    takeMark mark (mark :: rest) = some ((), rest) := by
  simp [takeMark, afterBlanks, h]

/-- All digits of a year behind a sign are taken. -/
lemma takeDigits_signed (n : Nat) (rest : List Char) :
    takeDigits (padded 4 n ++ '-' :: rest).length (padded 4 n ++ '-' :: rest)
      = some (padded 4 n, '-' :: rest) := by
  refine takeDigits_padded (by simp) ?_
  simp

lemma takeYear_plain {y : Nat} (hy : y < 10 ^ 4) :
    takeYear (padded 4 y ++ '-' :: rest) = some ((y : Int), '-' :: rest) := by
  have hl : (padded 4 y).length = 4 := length_padded (by decide) hy
  have hd : takeDigits 4 (padded 4 y ++ '-' :: rest) = some (padded 4 y, '-' :: rest) :=
    takeDigits_padded hl.le (by simp [hl])
  obtain ⟨c, cs, h, hc⟩ := exists_padded_eq_cons 4 y
  rw [takeYear, afterBlanks_padded]
  -- the first character is a digit and thus no sign
  split
  · next heq =>
      rw [h] at heq
      cases heq
      cases hc
  · next heq =>
      rw [h] at heq
      cases heq
      cases hc
  · simp [hd, digitsValue_padded]

lemma takeYear_negative (n : Nat) (rest : List Char) :
    takeYear ('-' :: (padded 4 n ++ '-' :: rest)) = some (-(n : Int), '-' :: rest) := by
  have hb : isBlank '-' = false := by decide +kernel
  simp only [takeYear, afterBlanks, List.dropWhile_cons, hb, Bool.false_eq_true, ↓reduceIte,
    takeDigits_signed]
  simp [digitsValue_padded]

lemma takeYear_positive (n : Nat) (rest : List Char) :
    takeYear ('+' :: (padded 4 n ++ '-' :: rest)) = some ((n : Int), '-' :: rest) := by
  have hb : isBlank '+' = false := by decide +kernel
  simp only [takeYear, afterBlanks, List.dropWhile_cons, hb, Bool.false_eq_true, ↓reduceIte,
    takeDigits_signed]
  simp [digitsValue_padded]

lemma takeYear_written (y : Int) :
    takeYear (writtenYear y ++ '-' :: rest) = some (y, '-' :: rest) := by
  unfold writtenYear
  split_ifs with hy hneg
  · simp only [Bool.and_eq_true, decide_eq_true_eq] at hy
    rw [takeYear_plain (by omega), Int.toNat_of_nonneg hy.1]
  · rw [List.cons_append, takeYear_negative]
    have hvalue : -((y.natAbs : Nat) : Int) = y := by omega
    rw [hvalue]
  · simp only [Bool.and_eq_true, decide_eq_true_eq] at hy
    rw [List.cons_append, takeYear_positive]
    have hvalue : ((y.natAbs : Nat) : Int) = y := by omega
    rw [hvalue]

lemma takeNano_padded (hw : 0 < w) (hle : w ≤ 9) (h : n < 10 ^ w) :
    takeNano ('.' :: (padded w n ++ ['Z'])) = some (n * Nat.pow 10 (9 - w), ['Z']) := by
  have hl := length_padded hw h
  have hz : Char.isDigit 'Z' = false := by decide
  have hd : takeDigits 9 (padded w n ++ ['Z']) = some (padded w n, ['Z']) := by
    refine takeDigits_padded (by omega) ?_
    -- with all nine places filled the mark of the zone is not looked at
    cases 9 - (padded w n).length <;> simp
  simp [takeNano, hd, digitsValue_padded, hl, hz]

lemma takeNano_written (h : n < 10 ^ 9) :
    takeNano (writtenNano n ++ ['Z']) = some (n, ['Z']) := by
  unfold writtenNano
  split_ifs with h0 h3 h6
  · simp only [beq_iff_eq] at h0
    simp [takeNano, h0]
  · simp only [beq_iff_eq] at h3
    rw [List.cons_append, takeNano_padded (by decide) (by decide) (by omega)]
    have : n / 1000000 * Nat.pow 10 (9 - 3) = n := Nat.div_mul_cancel (Nat.dvd_of_mod_eq_zero h3)
    rw [this]
  · simp only [beq_iff_eq] at h6
    rw [List.cons_append, takeNano_padded (by decide) (by decide) (by omega)]
    have : n / 1000 * Nat.pow 10 (9 - 6) = n := Nat.div_mul_cancel (Nat.dvd_of_mod_eq_zero h6)
    rw [this]
  · rw [List.cons_append, takeNano_padded (by decide) (by decide) h]
    simp

/-! ## Instants -/

/-- Clocks can show the instant: its parts are those of a day of the calendar. -/
structure IsValid (t : Instant) : Prop where
  date : t.date.isValid = true
  hour : t.hour < 24
  minute : t.minute < 60
  second : t.second ≤ 60
  nano : t.nano < 10 ^ 9

lemma shifted_zero {t : Instant} (hh : t.hour < 24) (hm : t.minute < 60) : shifted t 0 = t := by
  have hlow : ¬ (((t.hour * 60 + t.minute : Nat) : Int) - 0 < 0) := by omega
  have hhigh : ((t.hour * 60 + t.minute : Nat) : Int) - 0 < 1440 := by omega
  have hday : ((((t.hour * 60 + t.minute : Nat) : Int) - 0) % 1440).toNat
      = t.hour * 60 + t.minute := by omega
  have hhour : (t.hour * 60 + t.minute) / 60 = t.hour := by omega
  have hminute : (t.hour * 60 + t.minute) % 60 = t.minute := by omega
  simp only [shifted, hlow, hhigh, hday, hhour, hminute, ↓reduceIte]

/-- Months and days have two digits. -/
lemma bounds_of_isValid {d : Date} (h : d.isValid = true) :
    (1 ≤ d.month ∧ d.month ≤ 12) ∧ 1 ≤ d.day ∧ d.day ≤ 31 := by
  simp only [Date.isValid, Bool.and_eq_true, decide_eq_true_eq] at h
  have hin : Date.daysIn d.year d.month ≤ 31 := by
    unfold Date.daysIn
    split_ifs <;> decide
  omega

/-- What the text of an instant has behind the year. -/
lemma written_eq (t : Instant) :
    t.written = writtenYear t.date.year ++ '-' :: (padded 2 t.date.month ++ '-' ::
      (padded 2 t.date.day ++ 'T' :: (padded 2 t.hour ++ ':' :: (padded 2 t.minute ++ ':' ::
        (padded 2 t.second ++ (writtenNano t.nano ++ ['Z'])))))) := by
  simp only [written, List.append_assoc, List.cons_append]

/-- **What is written of an instant shows it.** -/
lemma read_written {t : Instant} (h : t.IsValid) : read t.written = some t := by
  obtain ⟨hmonth, hday⟩ := bounds_of_isValid h.date
  have hhour := h.hour
  have hminute := h.minute
  have hsecond := h.second
  have hdash : isBlank '-' = false := by decide
  have hcolon : isBlank ':' = false := by decide
  -- each step of reading takes one part of the text and leaves the parts behind it
  rw [written_eq]
  unfold read
  refine Option.bind_eq_some_iff.mpr ⟨_, takeYear_written _, ?_⟩
  refine Option.bind_eq_some_iff.mpr ⟨_, takeMark_cons hdash, ?_⟩
  refine Option.bind_eq_some_iff.mpr
    ⟨_, takeNumber_padded (by decide) (by omega) hmonth.1 hmonth.2, ?_⟩
  refine Option.bind_eq_some_iff.mpr ⟨_, takeMark_cons hdash, ?_⟩
  refine Option.bind_eq_some_iff.mpr
    ⟨_, takeNumber_padded (by decide) (by omega) hday.1 hday.2, ?_⟩
  refine Option.bind_eq_some_iff.mpr ⟨_, rfl, ?_⟩
  refine Option.bind_eq_some_iff.mpr
    ⟨_, takeNumber_padded (by decide) (by omega) (Nat.zero_le _) (by omega), ?_⟩
  refine Option.bind_eq_some_iff.mpr ⟨_, takeMark_cons hcolon, ?_⟩
  refine Option.bind_eq_some_iff.mpr
    ⟨_, takeNumber_padded (by decide) (by omega) (Nat.zero_le _) (by omega), ?_⟩
  refine Option.bind_eq_some_iff.mpr ⟨_, takeMark_cons hcolon, ?_⟩
  refine Option.bind_eq_some_iff.mpr
    ⟨_, takeNumber_padded (by decide) (by omega) (Nat.zero_le _) (by omega), ?_⟩
  refine Option.bind_eq_some_iff.mpr ⟨_, takeNano_written h.nano, ?_⟩
  refine Option.bind_eq_some_iff.mpr ⟨(0, []), rfl, ?_⟩
  have hdate := h.date
  simp [guard, afterBlanks, hdate, shifted_zero hhour hminute]

/-! ## What can be read -/

lemma digitsValue_lt {ds : List Char} (h : ∀ c ∈ ds, c.isDigit = true) :
    digitsValue ds < 10 ^ ds.length := by
  -- the induction is on the digits, so the value before them has to be any
  have hfrom : ∀ (ds : List Char) (m : Nat), (∀ c ∈ ds, c.isDigit = true) →
      Nat.ofDigitChars 10 ds m < (m + 1) * 10 ^ ds.length := by
    intro ds
    induction ds with
    | nil => simp
    | cons c ds ih =>
        intro m hall
        have hc : c.toNat - '0'.toNat < 10 := by
          have hd := hall c List.mem_cons_self
          simp only [Char.isDigit, Bool.and_eq_true, decide_eq_true_eq] at hd
          have hle : c.toNat ≤ 57 := hd.2
          have hzero : '0'.toNat = 48 := rfl
          omega
        have hrest := ih (10 * m + (c.toNat - '0'.toNat)) fun d hd =>
          hall d (List.mem_cons_of_mem c hd)
        rw [Nat.ofDigitChars_cons, List.length_cons, pow_succ']
        calc _ < (10 * m + (c.toNat - '0'.toNat) + 1) * 10 ^ ds.length := hrest
          _ ≤ (10 * (m + 1)) * 10 ^ ds.length := Nat.mul_le_mul_right _ (by omega)
          _ = _ := by ring
  have hlt := hfrom ds 0 h
  rwa [digitsValue_eq, ← one_mul (10 ^ ds.length)]

variable {cs ds : List Char}

lemma takeDigits_digits (h : takeDigits most cs = some (ds, rest)) :
    (∀ c ∈ ds, c.isDigit = true) ∧ ds.length ≤ most := by
  simp only [takeDigits] at h
  split_ifs at h
  cases h
  refine ⟨fun c hc => List.mem_takeWhile_imp hc, ?_⟩
  exact (List.takeWhile_sublist _).length_le.trans (List.length_take_le _ _)

lemma takeNumber_bounds (h : takeNumber w low high cs = some (n, rest)) : low ≤ n ∧ n ≤ high := by
  obtain ⟨⟨ds, cs⟩, -, h⟩ := Option.bind_eq_some_iff.mp h
  obtain ⟨⟨⟩, hb, h⟩ := Option.bind_eq_some_iff.mp h
  cases h
  unfold guard at hb
  split_ifs at hb with hle
  simpa using hle

lemma takeNano_lt (h : takeNano cs = some (n, rest)) : n < 10 ^ 9 := by
  unfold takeNano at h
  split at h
  · obtain ⟨⟨ds, cs⟩, hd, h⟩ := Option.bind_eq_some_iff.mp h
    cases h
    obtain ⟨hall, hle⟩ := takeDigits_digits hd
    have hpow : 10 ^ ds.length * Nat.pow 10 (9 - ds.length) = 10 ^ 9 := by
      show 10 ^ ds.length * 10 ^ (9 - ds.length) = 10 ^ 9
      rw [← pow_add, Nat.add_sub_cancel' hle]
    rw [← hpow]
    exact Nat.mul_lt_mul_of_pos_right (digitsValue_lt hall) (Nat.pow_pos (by decide))
  · cases h
    decide

/-- **What is read is an instant that clocks can show.** -/
lemma isValid_of_read {t : Instant} (h : read cs = some t) : t.IsValid := by
  unfold read at h
  obtain ⟨⟨year, cs⟩, -, h⟩ := Option.bind_eq_some_iff.mp h
  obtain ⟨⟨⟨⟩, cs⟩, -, h⟩ := Option.bind_eq_some_iff.mp h
  obtain ⟨⟨month, cs⟩, -, h⟩ := Option.bind_eq_some_iff.mp h
  obtain ⟨⟨⟨⟩, cs⟩, -, h⟩ := Option.bind_eq_some_iff.mp h
  obtain ⟨⟨day, cs⟩, -, h⟩ := Option.bind_eq_some_iff.mp h
  obtain ⟨⟨⟨⟩, cs⟩, -, h⟩ := Option.bind_eq_some_iff.mp h
  obtain ⟨⟨hour, cs⟩, -, h⟩ := Option.bind_eq_some_iff.mp h
  obtain ⟨⟨⟨⟩, cs⟩, -, h⟩ := Option.bind_eq_some_iff.mp h
  obtain ⟨⟨minute, cs⟩, -, h⟩ := Option.bind_eq_some_iff.mp h
  obtain ⟨⟨⟨⟩, cs⟩, -, h⟩ := Option.bind_eq_some_iff.mp h
  obtain ⟨⟨second, cs⟩, hsecond, h⟩ := Option.bind_eq_some_iff.mp h
  obtain ⟨⟨nano, cs⟩, hnano, h⟩ := Option.bind_eq_some_iff.mp h
  obtain ⟨⟨offset, cs⟩, -, h⟩ := Option.bind_eq_some_iff.mp h
  obtain ⟨⟨⟩, -, h⟩ := Option.bind_eq_some_iff.mp h
  obtain ⟨⟨⟩, -, h⟩ := Option.bind_eq_some_iff.mp h
  obtain ⟨⟨⟩, hdate, h⟩ := Option.bind_eq_some_iff.mp h
  cases h
  unfold guard at hdate
  split_ifs at hdate with hvalid
  -- hour and minute are what is left after full days and full hours
  refine ⟨hvalid, ?_, ?_, (takeNumber_bounds hsecond).2, takeNano_lt hnano⟩
  · simp only [shifted]
    omega
  · simp only [shifted]
    omega

end Instant
end PageCrawl
