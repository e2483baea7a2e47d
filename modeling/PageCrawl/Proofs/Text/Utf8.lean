import Mathlib
import PageCrawl.Text.Utf8

/-!
# A text is read from its bytes

`Utf8.decode` reads any bytes, and `Utf8.encode` writes those of a text.  What is written is read
again as it was: `decode_encode`.

**One character.**  A character is written as a first byte and up to three others.  The reader
knows after the first one how many others there are (`decodeFrom_first`); each of them adds six
bits (`decodeFrom_more`), and the last one makes the character (`decodeFrom_last`).

**Second bytes.**  Which of them may follow depends on the first byte.  Those that are written may
(`exists_start_three`, `exists_start_four`): no character is written with more bytes than it needs,
none is a half of a pair, and none comes after the last one.
-/

namespace PageCrawl.Text.Utf8

variable {bs : List UInt8} {n v : Nat} {p : Begun}

/-! ## Bytes -/

/-- The first byte of a character that has others. -/
lemma decodeFrom_first (hn : n < 256) (hs : start n = some (.inr p)) :
    decodeFrom none (UInt8.ofNat n :: bs) = decodeFrom (some p) bs := by
  simp [decodeFrom, Nat.mod_eq_of_lt hn, hs]

/-- A byte in the middle of a character. -/
lemma decodeFrom_more (hl : p.low ≤ n % 64 + 128) (hh : n % 64 + 128 ≤ p.high) (ho : 1 < p.owed) :
    decodeFrom (some p) (UInt8.ofNat (n % 64 + 128) :: bs)
      = decodeFrom (some ⟨p.owed - 1, 0x80, 0xBF, p.bits * 64 + n % 64⟩) bs := by
  have hbyte : (n % 64 + 128) % 256 = n % 64 + 128 := Nat.mod_eq_of_lt (by omega)
  simp [decodeFrom, hbyte, hl, hh, Nat.not_le.mpr ho]

/-- The last byte of a character. -/
lemma decodeFrom_last (hl : p.low ≤ n % 64 + 128) (hh : n % 64 + 128 ≤ p.high) (ho : p.owed = 1) :
    decodeFrom (some p) (UInt8.ofNat (n % 64 + 128) :: bs)
      = Char.ofNat (p.bits * 64 + n % 64) :: decodeFrom none bs := by
  have hbyte : (n % 64 + 128) % 256 = n % 64 + 128 := Nat.mod_eq_of_lt (by omega)
  simp [decodeFrom, hbyte, hl, hh, ho]

/-! ## First bytes -/

lemma start_two (h1 : 127 < v) (h2 : v ≤ 2047) :
    start (v / 64 % 32 + 192) = some (.inr ⟨1, 0x80, 0xBF, v / 64⟩) := by
  have hbits : v / 64 % 32 + 192 - 192 = v / 64 := by omega
  rw [start, if_neg (by omega), if_neg (by omega), if_pos (by omega), hbits]

/-- The first byte of three, and what the second one may be. -/
lemma exists_start_three (hv : v < 0xD800 ∨ 0xDFFF < v ∧ v < 0x110000) (h2 : 2047 < v)
    (h3 : v ≤ 65535) : ∃ low high,
      start (v / 4096 % 16 + 224) = some (.inr ⟨2, low, high, v / 4096⟩) ∧
        low ≤ v / 64 % 64 + 128 ∧ v / 64 % 64 + 128 ≤ high := by
  have hbits : v / 4096 % 16 + 224 - 224 = v / 4096 := by omega
  refine ⟨if v / 4096 % 16 + 224 == 0xE0 then 0xA0 else 0x80,
    if v / 4096 % 16 + 224 == 0xED then 0x9F else 0xBF, ?_, ?_⟩
  · rw [start, if_neg (by omega), if_neg (by omega), if_neg (by omega), if_pos (by omega), hbits]
  · simp only [beq_iff_eq]
    constructor <;> split_ifs <;> omega

/-- The first byte of four, and what the second one may be. -/
lemma exists_start_four (hv : v < 0x110000) (h3 : 65535 < v) : ∃ low high,
    start (v / 262144 % 8 + 240) = some (.inr ⟨3, low, high, v / 262144⟩) ∧
      low ≤ v / 4096 % 64 + 128 ∧ v / 4096 % 64 + 128 ≤ high := by
  have hbits : v / 262144 % 8 + 240 - 240 = v / 262144 := by omega
  refine ⟨if v / 262144 % 8 + 240 == 0xF0 then 0x90 else 0x80,
    if v / 262144 % 8 + 240 == 0xF4 then 0x8F else 0xBF, ?_, ?_⟩
  · rw [start, if_neg (by omega), if_neg (by omega), if_neg (by omega), if_neg (by omega),
      if_pos (by omega), hbits]
  · simp only [beq_iff_eq]
    constructor <;> split_ifs <;> omega

/-! ## Characters -/

/-- **A character is read from its bytes**, whatever follows them. -/
lemma decodeFrom_encodeChar (c : Char) (bs : List UInt8) :
    decodeFrom none (String.utf8EncodeChar c ++ bs) = c :: decodeFrom none bs := by
  have hvalid : c.val.toNat < 0xD800 ∨ 0xDFFF < c.val.toNat ∧ c.val.toNat < 0x110000 := c.valid
  have hc : ∀ n, n = c.val.toNat → Char.ofNat n = c := by
    rintro _ rfl
    exact Char.ofNat_toNat c
  have htail : ∀ n, n % 64 + 128 ≤ 0xBF := fun n => by omega
  simp only [String.utf8EncodeChar]
  generalize c.val.toNat = v at hvalid hc ⊢
  -- how many bytes there are is decided by the number of the character
  split_ifs with h1 h2 h3
  · have hbyte : v % 256 = v := Nat.mod_eq_of_lt (by omega)
    have hlt : v < 128 := by omega
    simp [decodeFrom, start, hbyte, hlt, hc v rfl]
  · simp only [List.cons_append, List.nil_append]
    rw [decodeFrom_first (by omega) (start_two (by omega) h2),
      decodeFrom_last (Nat.le_add_left _ _) (htail v) rfl, hc _ (by simp only; omega)]
  · obtain ⟨low, high, hs, hl, hh⟩ := exists_start_three hvalid (by omega) h3
    simp only [List.cons_append, List.nil_append]
    rw [decodeFrom_first (by omega) hs, decodeFrom_more hl hh (by simp),
      decodeFrom_last (Nat.le_add_left _ _) (htail v) rfl, hc _ (by simp only; omega)]
  · obtain ⟨low, high, hs, hl, hh⟩ := exists_start_four (v := v) (by omega) (by omega)
    simp only [List.cons_append, List.nil_append]
    rw [decodeFrom_first (by omega) hs, decodeFrom_more hl hh (by simp),
      decodeFrom_more (Nat.le_add_left _ _) (htail _) (by simp),
      decodeFrom_last (Nat.le_add_left _ _) (htail v) rfl, hc _ (by simp only; omega)]

/-- **A text is read from its bytes.** -/
lemma decode_encode : ∀ cs : List Char, decode (encode cs) = cs
  | [] => rfl
  | c :: cs => by
      have ih := decode_encode cs
      rw [decode] at ih ⊢
      rw [encode, List.flatMap_cons, ← encode, decodeFrom_encodeChar, ih]

end PageCrawl.Text.Utf8
