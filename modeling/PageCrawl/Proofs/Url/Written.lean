import Mathlib
import PageCrawl.Url.Form
import PageCrawl.Url.Parse

/-!
# What form encoding writes

A text that is form-encoded consists of few characters: those that stand for themselves, plus signs
and escapes (`isWritten_of_mem_encode`).  None of them separates the parts of an address or is
escaped again in a path (`encode_written`).

**Nothing is lost.**  The bytes of a text can be read from what is written of it
(`decode_encode`), so different texts are written differently (`encode_injective`).

**Dots are written as they are.**  An address may have segments that are no names but say where to
go: a dot or two of them, in any spelling.  A dot is never escaped, so the escapes that spell one
are not written, and only the texts `.` and `..` become such segments (`isSingleDot_encode`,
`isDoubleDot_encode`).  Nor does a segment of an address become one by what is escaped in a path:
`isDots_path`.
-/

namespace PageCrawl.Url

open Text Percent

variable {c : Char} {cs s : List Char}

/-! ## Characters -/

namespace Form

/-- Whether a character can stand in a text that is form-encoded. -/
def isWritten (c : Char) : Bool := isPlain c || c == '+' || c == '%'

lemma toNat_lt_of_isWritten (h : isWritten c = true) : c.toNat < 128 := by
  simp only [isWritten, isPlain, Bool.or_eq_true, Char.isAlphanum, Char.isAlpha, Char.isUpper,
    Char.isLower, Char.isDigit, Bool.and_eq_true, decide_eq_true_eq, beq_iff_eq,
    List.contains_eq_mem, List.mem_cons, List.not_mem_nil, or_false] at h
  rcases h with ((((⟨-, h⟩ | ⟨-, h⟩) | ⟨-, h⟩) | rfl | rfl | rfl | rfl) | rfl) | rfl
  case inl.inl.inl.inl.inl | inl.inl.inl.inl.inr | inl.inl.inl.inr =>
    rw [UInt32.le_iff_toNat_le] at h
    exact Nat.lt_of_le_of_lt h (by decide)
  all_goals decide

/-- There are few characters that are written, and they can be gone through one by one. -/
lemma forall_isWritten {P : Char → Bool}
    (h : ∀ n < 128, isWritten (Char.ofNat n) = true → P (Char.ofNat n) = true)
    (hc : isWritten c = true) : P c = true := by
  have hn := h c.toNat (toNat_lt_of_isWritten hc)
  rw [Char.ofNat_toNat] at hn
  exact hn hc

/-- **No character that is written is escaped in a path**, separates its parts or is a blank. -/
lemma not_inPath_of_isWritten (h : isWritten c = true) : inPath c = false := by
  have := forall_isWritten (P := fun c => !inPath c) (by decide +kernel) h
  simpa using this

lemma not_endsAuthority_of_isWritten (h : isWritten c = true) : endsAuthority true c = false := by
  have := forall_isWritten (P := fun c => !endsAuthority true c) (by decide +kernel) h
  simpa using this

lemma not_blank_of_isWritten (h : isWritten c = true) : 0x20 < c.toNat := by
  have := forall_isWritten (P := fun c => 0x20 < c.toNat) (by decide +kernel) h
  simpa using this

end Form

/-! ## Escapes -/

namespace Percent

lemma isPlain_hexDigit : ∀ d < 16, Form.isPlain (hexDigit d) = true := by decide

lemma hexValue?_hexDigit : ∀ d < 16, hexValue? (hexDigit d) = some d := by decide

lemma forall_mem_escapeByte {P : Char → Prop} (hmark : P '%') (hdigit : ∀ d < 16, P (hexDigit d))
    (b : UInt8) : ∀ c ∈ escapeByte b, P c := by
  have hb : b.toNat < 256 := b.toNat_lt
  intro c hc
  simp only [escapeByte, List.mem_cons, List.not_mem_nil, or_false] at hc
  rcases hc with rfl | rfl | rfl
  · exact hmark
  · exact hdigit _ (by omega)
  · exact hdigit _ (by omega)

/-- A character has a first byte, and its escape begins with that of this byte. -/
lemma exists_escapeByte (c : Char) : ∃ b bs, String.utf8EncodeChar c = b :: bs ∧
    escapeChar c = escapeByte b ++ bs.flatMap escapeByte := by
  obtain ⟨b, bs, hbs⟩ := List.exists_cons_of_ne_nil (String.utf8EncodeChar_ne_nil (c := c))
  exact ⟨b, bs, hbs, by rw [escapeChar, hbs, List.flatMap_cons]⟩

/-- What is read of the escape of a byte. -/
lemma decodeAfter_escapeByte (b : UInt8) (rest : List Char) :
    decodeAfter 0 (escapeByte b ++ rest) = b :: decodeAfter 0 rest := by
  have hb : b.toNat < 256 := b.toNat_lt
  have hhigh := hexValue?_hexDigit (b.toNat / 16) (by omega)
  have hlow := hexValue?_hexDigit (b.toNat % 16) (by omega)
  have hbyte : UInt8.ofNat (b.toNat / 16 * 16 + b.toNat % 16) = b := by
    rw [Nat.div_add_mod', UInt8.ofNat_toNat]
  simp [escapeByte, decodeAfter, hhigh, hlow, hbyte]

lemma decodeAfter_escapes (rest : List Char) : ∀ bs : List UInt8,
    decodeAfter 0 (bs.flatMap escapeByte ++ rest) = bs ++ decodeAfter 0 rest
  | [] => rfl
  | b :: bs => by
      rw [List.flatMap_cons, List.append_assoc, decodeAfter_escapeByte, decodeAfter_escapes rest bs,
        List.cons_append]

/-- A text in which nothing has to be escaped is written as it is. -/
lemma encode_eq_self {escapes : Char → Bool} (h : ∀ c ∈ cs, escapes c = false) :
    encode escapes cs = cs := by
  induction cs with
  | nil => rfl
  | cons c cs ih =>
      obtain ⟨hc, hcs⟩ := List.forall_mem_cons.mp h
      have ih := ih hcs
      rw [encode] at ih ⊢
      rw [List.flatMap_cons, ih, if_neg (by simp [hc]), List.singleton_append]

end Percent

namespace Form

/-! ## What is written -/

lemma isWritten_of_mem_escapeChar {d : Char} (h : c ∈ escapeChar d) : isWritten c = true := by
  obtain ⟨b, -, hb⟩ := List.mem_flatMap.mp h
  have hdigit : ∀ d < 16, isWritten (hexDigit d) = true := fun d hd => by
    simp [isWritten, isPlain_hexDigit d hd]
  exact forall_mem_escapeByte (P := fun c => isWritten c = true) (by decide) hdigit b c hb

lemma isWritten_of_mem_encode (h : c ∈ encode cs) : isWritten c = true := by
  obtain ⟨d, -, hd⟩ := List.mem_flatMap.mp h
  rw [encodeChar] at hd
  split_ifs at hd with hplain hspace
  · rw [List.mem_singleton.mp hd, isWritten, hplain]
    rfl
  · rw [List.mem_singleton.mp hd]
    decide
  · exact isWritten_of_mem_escapeChar hd

/-- **What is written is not escaped again in a path.** -/
lemma encode_written (cs : List Char) : Percent.encode inPath (encode cs) = encode cs :=
  Percent.encode_eq_self fun _ h => not_inPath_of_isWritten (isWritten_of_mem_encode h)

/-! ## Nothing is lost -/

/-- Plus signs are read as blanks. -/
def unplus (c : Char) : Char := if c == '+' then ' ' else c

lemma unplus_escapes (bs : List UInt8) :
    (bs.flatMap escapeByte).map unplus = bs.flatMap escapeByte := by
  refine (List.map_congr_left fun c hc => ?_).trans (List.map_id _)
  obtain ⟨b, -, hb⟩ := List.mem_flatMap.mp hc
  exact forall_mem_escapeByte (P := fun c => unplus c = c) (by decide) (by decide) b c hb

/-- **The bytes of a text are read from what is written of it.** -/
lemma decode_encode : ∀ cs : List Char,
    Percent.decode ((encode cs).map unplus) = Utf8.encode cs
  | [] => rfl
  | c :: cs => by
      have ih := decode_encode cs
      rw [Percent.decode] at ih ⊢
      rw [encode, List.flatMap_cons, List.map_append, ← encode, Utf8.encode, List.flatMap_cons,
        ← Utf8.encode, ← ih, encodeChar]
      split_ifs with hplain hspace
      · have hc : unplus c = c ∧ (c == '%') = false := by
          constructor
          · rw [unplus, if_neg]
            rintro hplus
            rw [beq_iff_eq.mp hplus] at hplain
            exact absurd hplain (by decide)
          · rw [beq_eq_false_iff_ne]
            rintro rfl
            exact absurd hplain (by decide)
        simp [decodeAfter, hc.1, hc.2]
      · rw [beq_iff_eq.mp hspace]
        rfl
      · rw [escapeChar, unplus_escapes, decodeAfter_escapes]

/-- The same bytes are the same text. -/
lemma utf8_injective : Function.Injective Utf8.encode := by
  intro cs cs' h
  have hbytes : cs.utf8Encode = cs'.utf8Encode := congrArg List.toByteArray h
  have hdecode := congrArg ByteArray.utf8Decode? hbytes
  rw [List.utf8Decode?_utf8Encode, List.utf8Decode?_utf8Encode, Option.some.injEq] at hdecode
  exact congrArg Array.toList hdecode

lemma eq_of_decode {cs' : List Char}
    (h : Percent.decode ((encode cs).map unplus) = Utf8.encode cs') : cs = cs' :=
  utf8_injective ((decode_encode cs).symm.trans h)

/-- **Different texts are written differently.** -/
lemma encode_injective : Function.Injective encode := fun _ cs' h =>
  eq_of_decode (h ▸ decode_encode cs')

end Form

/-! ## Dots -/

/-- Whether a segment is no name but says where to go. -/
def isDots (s : String) : Bool := isSingleDot s || isDoubleDot s

/-- In whatever spelling, a dot is read as one. -/
lemma decode_of_isSingleDot {t : String} (h : isSingleDot t = true) :
    Percent.decode (t.toList.map Form.unplus) = Utf8.encode ['.'] := by
  simp only [isSingleDot, List.contains_eq_mem, decide_eq_true_eq, List.mem_cons,
    List.not_mem_nil, or_false] at h
  rcases h with rfl | rfl | rfl <;> decide

lemma decode_of_isDoubleDot {t : String} (h : isDoubleDot t = true) :
    Percent.decode (t.toList.map Form.unplus) = Utf8.encode ['.', '.'] := by
  simp only [isDoubleDot, List.contains_eq_mem, decide_eq_true_eq, List.mem_cons,
    List.not_mem_nil, or_false] at h
  rcases h with rfl | rfl | rfl | rfl | rfl | rfl | rfl | rfl | rfl <;> decide

/-- **Only a dot is written as one.** -/
lemma isSingleDot_encode : isSingleDot (String.ofList (Form.encode cs)) = true ↔ cs = ['.'] := by
  constructor
  · intro h
    have hread := decode_of_isSingleDot h
    rw [String.toList_ofList] at hread
    exact Form.eq_of_decode hread
  · rintro rfl
    decide

/-- **Only two dots are written as two.** -/
lemma isDoubleDot_encode :
    isDoubleDot (String.ofList (Form.encode cs)) = true ↔ cs = ['.', '.'] := by
  constructor
  · intro h
    have hread := decode_of_isDoubleDot h
    rw [String.toList_ofList] at hread
    exact Form.eq_of_decode hread
  · rintro rfl
    decide

/-- Whether a text consists of dots, in any spelling. -/
def spellsDots : List Char → Bool
  | [] => true
  | '.' :: rest => spellsDots rest
  | '%' :: '2' :: e :: rest => (e == 'e' || e == 'E') && spellsDots rest
  | _ => false

lemma spellsDots_of_isDots {t : String} (h : isDots t = true) : spellsDots t.toList = true := by
  simp only [isDots, isSingleDot, isDoubleDot, Bool.or_eq_true, List.contains_eq_mem,
    decide_eq_true_eq, List.mem_cons, List.not_mem_nil, or_false] at h
  rcases h with (rfl | rfl | rfl) | (rfl | rfl | rfl | rfl | rfl | rfl | rfl | rfl | rfl) <;>
    decide

namespace Percent

/-- The escape that spells a dot is that of its byte. -/
lemma eq_dot_of_escapeByte {b : UInt8} {e : Char} (he : (e == 'e' || e == 'E') = true)
    (h : escapeByte b = ['%', '2', e]) : b = 0x2E := by
  have hb : b.toNat < 256 := b.toNat_lt
  simp only [escapeByte, List.cons.injEq, and_true, true_and] at h
  have hhigh := hexValue?_hexDigit (b.toNat / 16) (by omega)
  have hlow := hexValue?_hexDigit (b.toNat % 16) (by omega)
  have htwo : hexValue? '2' = some 2 := by decide
  have hfourteen : hexValue? e = some 14 := by
    rcases Bool.or_eq_true_iff.mp he with he | he <;> rw [beq_iff_eq.mp he] <;> decide
  rw [h.1, htwo, Option.some.injEq] at hhigh
  rw [h.2, hfourteen, Option.some.injEq] at hlow
  refine UInt8.toNat_inj.mp ?_
  change b.toNat = 46
  omega

/-- No character but the dot is escaped in this way. -/
lemma eq_dot_of_escapeChar {e : Char} (he : (e == 'e' || e == 'E') = true)
    (h : escapeChar c ++ cs = '%' :: '2' :: e :: s) : c = '.' := by
  obtain ⟨b, bs, hbs, hescape⟩ := exists_escapeByte c
  have hb : b = 0x2E := by
    rw [hescape] at h
    exact eq_dot_of_escapeByte he (congrArg (List.take 3) h)
  have hdot : ['.'].utf8Encode ++ bs.toByteArray = [c].utf8Encode := by
    rw [List.utf8Encode, List.utf8Encode, List.flatMap_singleton, List.flatMap_singleton, hbs, hb,
      ← List.toByteArray_append]
    rfl
  have hprefix := List.isPrefix_of_utf8Encode_append_eq_utf8Encode _ hdot
  exact ((List.cons_prefix_cons.mp hprefix).1).symm

lemma encode_eq_nil {escapes : Char → Bool} (h : encode escapes cs = []) : cs = [] := by
  cases cs with
  | nil => rfl
  | cons c cs =>
      rw [encode, List.flatMap_cons, List.append_eq_nil_iff] at h
      obtain ⟨b, bs, -, hescape⟩ := exists_escapeByte c
      split_ifs at h with hc
      · simp [hescape, escapeByte] at h
      · simp at h

/-- What is written with a character other than the percent sign in front begins with it. -/
lemma encode_eq_cons {escapes : Char → Bool} {d : Char} (h : encode escapes cs = d :: s)
    (hd : d ≠ '%') : ∃ rest, cs = d :: rest ∧ encode escapes rest = s := by
  cases cs with
  | nil => cases h
  | cons c cs =>
      rw [encode, List.flatMap_cons, ← encode] at h
      split_ifs at h with hc
      · obtain ⟨b, bs, -, hescape⟩ := exists_escapeByte c
        rw [hescape, escapeByte] at h
        simp only [List.cons_append, List.cons.injEq] at h
        exact absurd h.1.symm hd
      · simp only [List.cons_append, List.nil_append, List.cons.injEq] at h
        exact ⟨cs, by rw [h.1], h.2⟩

/-- **No segment of a path gets to be dots by its escapes.** -/
lemma path_eq_dotted (h : encode inPath cs = s) (hs : spellsDots s = true) : cs = s := by
  induction s using spellsDots.induct generalizing cs with
  | case1 => exact encode_eq_nil h
  | case2 s ih =>
      obtain ⟨rest, rfl, hrest⟩ := encode_eq_cons h (by decide)
      rw [ih hrest hs]
  | case3 e s ih =>
      rw [spellsDots, Bool.and_eq_true] at hs
      obtain ⟨he, hs⟩ := hs
      cases cs with
      | nil => cases h
      | cons c cs =>
          rw [encode, List.flatMap_cons, ← encode] at h
          split_ifs at h with hc
          · -- the escape would be that of a dot, and dots are not escaped
            rw [eq_dot_of_escapeChar he h] at hc
            exact absurd hc (by decide)
          · simp only [List.cons_append, List.nil_append, List.cons.injEq] at h
            obtain ⟨rest, rfl, htwo⟩ := encode_eq_cons h.2 (by decide)
            have hne : e ≠ '%' := by
              rintro rfl
              exact absurd he (by decide)
            obtain ⟨rest, rfl, hrest⟩ := encode_eq_cons htwo hne
            rw [h.1, ih hrest hs]
  | case4 s hnil hdot hescape =>
      rw [spellsDots] at hs
      · cases hs
      all_goals assumption

end Percent

/-- A segment that is no dots is written as none. -/
lemma isDots_path {part : List Char} (h : isDots (String.ofList part) = false) :
    isDots (String.ofList (Percent.encode inPath part)) = false := by
  rw [Bool.eq_false_iff] at h ⊢
  intro hdots
  have hspelled := spellsDots_of_isDots hdots
  rw [String.toList_ofList] at hspelled
  rw [← Percent.path_eq_dotted rfl hspelled] at hdots
  exact h hdots

end PageCrawl.Url
