import Mathlib
import PageCrawl.Json.Fields

/-!
# What was written as JSON is read back

`Json.object` writes an object without blanks, `Json.record` reads objects in many more forms.  This
file shows that what was written is among them, and that reading brings back what it was made of.

**Strings.**  Each character of a string is written by itself, so reading a string is an induction
over its characters with one lemma for a step: `stringRest_escape`.  Quotes and backslashes are
escaped, so the string ends where it should; control characters are escaped, so no line feed stands
in it (`not_control_of_mem_quoted`).

**Numbers.**  A number is read as far as its digits go.  Behind a value of an object stands a comma
or a brace (`Behind`), neither of which can be taken for a part of it: `natural_written`.

**Objects.**  `Reads` says that a member is read by a field whatever comes behind it, `ReadsAll`
that members are read one after another.  The reader of a record then comes to the closing brace
with what the members gave: `record_written`.

**What reading keeps.**  A property that every field keeps holds of whatever has been read, in
either form of a record and in whatever order its members come: `exists_of_record`.
-/

namespace PageCrawl.Json

variable {c : Char} {cs rest : List Char} {n : Nat}

lemma bind_eq_ok {ε α β : Type} {x : Except ε α} {f : α → Except ε β} {b : β} :
    x >>= f = .ok b ↔ ∃ a, x = .ok a ∧ f a = .ok b := by
  cases x with
  | error e => simp [bind, Except.bind]
  | ok a => simp [bind, Except.bind]

/-! ## Strings -/

lemma hexValue?_hexDigit : ∀ d < 16, hexValue? (hexDigit d) = some d := by decide

/-- The code of a control character. -/
lemma codedChar_control (h : c.toNat < 0x20) :
    codedChar ('0' :: '0' :: hexDigit (c.toNat / 16) :: hexDigit (c.toNat % 16) :: rest)
      = .ok (c, rest) := by
  have hzero : hexValue? '0' = some 0 := by decide
  have hhigh := hexValue?_hexDigit (c.toNat / 16) (by omega)
  have hlow := hexValue?_hexDigit (c.toNat % 16) (by omega)
  have hvalue : ((0 * 16 + 0) * 16 + c.toNat / 16) * 16 + c.toNat % 16 = c.toNat := by omega
  have hcode : hexCode ('0' :: '0' :: hexDigit (c.toNat / 16) :: hexDigit (c.toNat % 16) :: rest)
      = .ok (c.toNat, rest) := by
    simp only [hexCode, hzero, hhigh, hlow, hvalue]
  have htrailing : isTrailing c.toNat = false := by simp [isTrailing]; omega
  have hleading : isLeading c.toNat = false := by simp [isLeading]; omega
  simp [codedChar, hcode, htrailing, hleading, Char.ofNat_toNat, bind, Except.bind, pure,
    Except.pure]

/-- **One character of a string is read back as it was written.** -/
lemma stringRest_escape (n : Nat) (c : Char) (rest : List Char) :
    stringRest (n + 1) (escape c ++ rest)
      = (stringRest n rest).map fun p => (c :: p.1, p.2) := by
  have hshort : ∀ p ∈ shortEscapes, letterEscapes.lookup p.2 = some p.1 ∧ p.2 ≠ 'u' := by decide
  -- written with a letter, with its code, or as it is
  unfold escape
  split
  · next letter hl =>
      obtain ⟨_, _, heq, -⟩ := List.lookup_eq_some_iff.mp hl
      obtain ⟨hletter, hu⟩ := hshort (c, letter) (by simp [heq])
      have hescaped : escaped (letter :: rest) = .ok (c, rest) := by
        unfold escaped
        split
        · next h => cases h
        · next h => cases h; exact absurd rfl hu
        · next h => cases h; simp only [hletter]
      simp [stringRest, hescaped, bind, Except.bind, pure, Except.pure, Except.map]
  · next hl =>
      split_ifs with hc
      · have hescaped : escaped ('u' :: '0' :: '0' :: hexDigit (c.toNat / 16)
            :: hexDigit (c.toNat % 16) :: rest) = .ok (c, rest) := codedChar_control hc
        simp [stringRest, hescaped, bind, Except.bind, pure, Except.pure, Except.map]
      · have hne : c ≠ '"' ∧ c ≠ '\\' := by
          constructor <;> rintro rfl <;> cases hl
        simp [stringRest, hc, hne.1, hne.2, bind, Except.bind, pure, Except.pure, Except.map]

/-- **A string is read back as it was written.** -/
lemma stringRest_written (rest : List Char) :
    ∀ (cs : List Char) {n : Nat}, cs.length < n →
      stringRest n (cs.flatMap escape ++ '"' :: rest) = .ok (cs, rest)
  | [], n + 1, _ => by simp [stringRest]
  | c :: cs, n + 1, h => by
      rw [List.flatMap_cons, List.append_assoc, stringRest_escape,
        stringRest_written rest cs (Nat.lt_of_succ_lt_succ h)]
      rfl

lemma length_le_escape (c : Char) : 1 ≤ (escape c).length := by
  unfold escape
  split
  · simp
  · split_ifs <;> simp

lemma length_le_flatMap_escape : ∀ cs : List Char, cs.length ≤ (cs.flatMap escape).length
  | [] => Nat.le_refl 0
  | c :: cs => by
      have hc := length_le_escape c
      have hcs := length_le_flatMap_escape cs
      simp only [List.flatMap_cons, List.length_append, List.length_cons]
      omega

lemma stringBody_written (cs rest : List Char) :
    stringBody (cs.flatMap escape ++ '"' :: rest) = .ok (cs, rest) := by
  refine stringRest_written rest cs ?_
  have hl := length_le_flatMap_escape cs
  simp only [List.length_append, List.length_cons]
  omega

/-- A written string holds no line feed, nor any other control character. -/
lemma not_control_of_mem_quoted (h : c ∈ quoted cs) : 0x20 ≤ c.toNat := by
  have hhex : ∀ d < 16, 0x20 ≤ (hexDigit d).toNat := by decide
  have hshort : ∀ p ∈ shortEscapes, 0x20 ≤ p.2.toNat := by decide
  have hescape : ∀ d, c ∈ escape d → 0x20 ≤ c.toNat := by
    intro d hd
    unfold escape at hd
    split at hd
    · next letter hl =>
        obtain ⟨_, _, heq, -⟩ := List.lookup_eq_some_iff.mp hl
        have hletter := hshort (d, letter) (by simp [heq])
        simp only [List.mem_cons, List.not_mem_nil, or_false] at hd
        rcases hd with rfl | rfl
        · decide
        · exact hletter
    · split_ifs at hd with hc
      · simp only [List.mem_cons, List.not_mem_nil, or_false] at hd
        rcases hd with rfl | rfl | rfl | rfl | rfl | rfl
        iterate 4 decide
        · exact hhex _ (by omega)
        · exact hhex _ (by omega)
      · simp only [List.mem_singleton] at hd
        subst hd
        omega
  simp only [quoted, List.mem_cons, List.mem_append, List.mem_flatMap, List.not_mem_nil,
    or_false] at h
  rcases h with rfl | ⟨d, -, hd⟩ | rfl
  · decide
  · exact hescape d hd
  · decide

/-! ## Numbers -/

/-- Behind a value of an object stands a comma or the brace that closes the object. -/
def Behind (rest : List Char) : Prop := ∃ c cs, rest = c :: cs ∧ (c = ',' ∨ c = '}')

lemma le_ofDigitChars : ∀ (ds : List Char) (m : Nat), m ≤ Nat.ofDigitChars 10 ds m
  | [], m => Nat.le_refl m
  | c :: ds, m => by
      have hrest := le_ofDigitChars ds (10 * m + (c.toNat - '0'.toNat))
      rw [Nat.ofDigitChars_cons]
      omega

lemma appendDigits_eq : ∀ (ds : List Char) (m : Nat), Nat.ofDigitChars 10 ds m ≤ largest →
    appendDigits m ds = (Nat.ofDigitChars 10 ds m, [])
  | [], m, _ => rfl
  | c :: ds, m, h => by
      rw [Nat.ofDigitChars_cons, Nat.mul_comm] at h ⊢
      have hle := (le_ofDigitChars ds _).trans h
      have hgt : ¬ m * 10 + (c.toNat - '0'.toNat) > largest := Nat.not_lt.mpr hle
      rw [appendDigits]
      simp only [hgt, ↓reduceIte]
      exact appendDigits_eq ds _ h

/-- A number is written without zeros in front. -/
lemma head?_toDigits (n : Nat) (h : n ≠ 0) : (Nat.toDigits 10 n).head? ≠ some '0' := by
  induction n using Nat.strong_induction_on with
  | _ n ih =>
      rw [Nat.toDigits_eq_if (by decide)]
      split_ifs with hlt
      · have hall : ∀ d < 10, d ≠ 0 → d.digitChar ≠ '0' := by decide
        simpa using hall n hlt h
      · have hne : n / 10 ≠ 0 := by omega
        rw [List.head?_append_of_ne_nil _ Nat.toDigits_ne_nil]
        exact ih (n / 10) (by omega) hne

lemma afterSpace_cons (h : isSpace c = false) : afterSpace (c :: cs) = c :: cs := by
  simp [afterSpace, h]

lemma isSpace_of_isDigit (hc : isDigit c = true) : isSpace c = false := by
  by_contra hs
  simp only [isSpace, Bool.or_eq_true, beq_iff_eq, Bool.not_eq_false] at hs
  rcases hs with ((rfl | rfl) | rfl) | rfl <;> cases hc

lemma appendDigits_toDigits (h : n ≤ largest) : appendDigits 0 (Nat.toDigits 10 n) = (n, []) := by
  have hvalue : Nat.ofDigitChars 10 (Nat.toDigits 10 n) 0 = n :=
    Nat.ofDigitChars_toDigits (by decide) (by decide)
  rw [appendDigits_eq _ 0 (hvalue.le.trans h), hvalue]

/-- **The digits of a number are taken as a whole**, and nothing behind them. -/
lemma unsignedNumber_written (h : n ≤ largest) (hr : Behind rest) :
    unsignedNumber (Nat.toDigits 10 n ++ rest) = .ok (.natural n, rest) := by
  obtain ⟨b, bs, rfl, hb⟩ := hr
  obtain ⟨c, ds, hds⟩ := List.exists_cons_of_ne_nil (Nat.toDigits_ne_nil (b := 10) (n := n))
  have hall : ∀ d ∈ Nat.toDigits 10 n, isDigit d = true := fun d hd =>
    Nat.isDigit_of_mem_toDigits (by decide) (by decide) hd
  have hbd : isDigit b = false := by rcases hb with rfl | rfl <;> rfl
  have hwhole : (Nat.toDigits 10 n ++ b :: bs).takeWhile isDigit = Nat.toDigits 10 n := by
    rw [List.takeWhile_append_of_pos hall]
    simp [hbd]
  have hrest : (Nat.toDigits 10 n ++ b :: bs).dropWhile isDigit = b :: bs := by
    rw [List.dropWhile_append_of_pos hall]
    simp [hbd]
  have hlead : (c == '0' && decide ((Nat.toDigits 10 n).length > 1)) = false := by
    by_cases hn : n = 0
    · subst hn
      simp
    · have hhead := head?_toDigits n hn
      rw [hds, List.head?_cons] at hhead
      simp [show c ≠ '0' from fun h => hhead (congrArg some h)]
  have hc : isDigit c = true := hall c (hds ▸ List.mem_cons_self)
  have happend := appendDigits_toDigits h
  -- the reader looks at the first digit by itself
  rw [hds] at hwhole hrest hlead happend ⊢
  rw [List.cons_append] at hwhole hrest ⊢
  simp only [unsignedNumber, hwhole, hrest, hlead, happend, hc]
  rcases hb with rfl | rfl <;> rfl

lemma natural_written (h : n ≤ largest) (hr : Behind rest) :
    natural (Nat.toDigits 10 n ++ rest) = .ok (n, rest) := by
  have hunsigned := unsignedNumber_written h hr
  obtain ⟨c, ds, hds⟩ := List.exists_cons_of_ne_nil (Nat.toDigits_ne_nil (b := 10) (n := n))
  have hc : isDigit c = true :=
    Nat.isDigit_of_mem_toDigits (by decide) (by decide) (hds ▸ List.mem_cons_self)
  rw [hds, List.cons_append] at hunsigned ⊢
  have hsign : c ≠ '-' := by
    rintro rfl
    cases hc
  have hnumber : number (c :: (ds ++ rest)) = .ok (.natural n, rest) := by
    rw [← hunsigned]
    unfold number
    split
    · next heq => cases heq; exact absurd rfl hsign
    · rfl
  simp only [natural, afterSpace_cons (isSpace_of_isDigit hc), startsNumber, hc, hnumber,
    Bool.or_true, ↓reduceIte]
  rfl

lemma appendDigits_le : ∀ (ds : List Char) (m : Nat), m ≤ largest →
    (appendDigits m ds).1 ≤ largest
  | [], m, h => h
  | c :: ds, m, h => by
      simp only [appendDigits]
      split_ifs with hgt
      · exact h
      · exact appendDigits_le ds _ (Nat.not_lt.mp hgt)

lemma scaledNumber_other {k : Nat} {e : Int} {number : Number}
    (h : scaledNumber k e cs = .ok (number, rest)) : number = .other := by
  have hrest : ∀ p : Int × List Char, (do
      if exceedsDouble k (e + p.1) then throw .malformed
      return (.other, p.2) : Except Fault (Number × List Char)) = .ok (number, rest) →
      number = .other := by
    intro p h
    dsimp only at h
    split_ifs at h
    · obtain ⟨_, hthrow, -⟩ := bind_eq_ok.mp h
      cases hthrow
    · cases h
      rfl
  unfold scaledNumber at h
  split at h
  · obtain ⟨p, -, h⟩ := bind_eq_ok.mp h
    exact hrest p h
  · obtain ⟨p, -, h⟩ := bind_eq_ok.mp h
    exact hrest p h
  · obtain ⟨p, -, h⟩ := bind_eq_ok.mp h
    exact hrest p h

lemma unsignedNumber_le (h : unsignedNumber cs = .ok (.natural n, rest)) : n ≤ largest := by
  unfold unsignedNumber at h
  split at h
  · cases h
  · next c cs =>
      dsimp only at h
      have hle := appendDigits_le ((c :: cs).takeWhile isDigit) 0 (Nat.zero_le _)
      split at h
      · cases h
      · split at h
        · split at h
          · cases h
          · cases scaledNumber_other h
        · cases scaledNumber_other h
        · cases scaledNumber_other h
        · split at h
          · cases h
            exact hle
          · cases scaledNumber_other h

/-- A natural number that was read has 64 bits. -/
lemma natural_le (h : natural cs = .ok (n, rest)) : n ≤ largest := by
  unfold natural at h
  split at h
  · cases h
  · next c cs heq =>
      split_ifs at h
      obtain ⟨⟨number', cs'⟩, hnumber, h⟩ := bind_eq_ok.mp h
      split at h
      · next k cs'' hk =>
          cases h
          cases hk
          unfold number at hnumber
          split at hnumber
          · obtain ⟨_, -, hother⟩ := bind_eq_ok.mp hnumber
            cases hother
          · exact unsignedNumber_le hnumber
      · cases h

/-! ## Objects -/

variable {σ α : Type} {fields : List (Field σ)} {s t u : σ} {m : Member} {ms ms' : List Member}

/-- A member is read into a record, whatever stands behind it. -/
def Reads (fields : List (Field σ)) (s : σ) (m : Member) (t : σ) : Prop :=
  ∀ rest, Behind rest →
    readMember fields s (m.name.toList.flatMap escape ++ '"' :: ':' :: (m.value ++ rest))
      = .ok (t, rest)

/-- Members are read into a record one after another. -/
inductive ReadsAll (fields : List (Field σ)) : σ → List Member → σ → Prop
  | nil (s : σ) : ReadsAll fields s [] s
  | cons {s t u : σ} {m : Member} {ms : List Member} (h : Reads fields s m t)
      (hs : ReadsAll fields t ms u) : ReadsAll fields s (m :: ms) u

lemma ReadsAll.append (h : ReadsAll fields s ms t) (h' : ReadsAll fields t ms' u) :
    ReadsAll fields s (ms ++ ms') u := by
  induction h with
  | nil => exact h'
  | cons hm _ ih => exact .cons hm (ih h')

/-- Members as they are written behind another one. -/
def furtherMembers (ms : List Member) : List Char := ms.flatMap fun m => ',' :: m.written

lemma intercalate_written (m : Member) (ms : List Member) :
    List.intercalate [','] ((m :: ms).map Member.written) = m.written ++ furtherMembers ms := by
  induction ms generalizing m with
  | nil => simp [furtherMembers, List.intercalate]
  | cons m' ms ih =>
      have h := ih m'
      simp only [List.intercalate, List.map_cons, List.intersperse_cons_cons, List.flatten_cons,
        furtherMembers, List.flatMap_cons] at h ⊢
      rw [h]
      simp

lemma behind_furtherMembers (ms : List Member) (rest : List Char) :
    Behind (furtherMembers ms ++ '}' :: rest) := by
  cases ms with
  | nil => exact ⟨'}', rest, rfl, .inr rfl⟩
  | cons m ms => exact ⟨',', _, rfl, .inl rfl⟩

lemma readMember_written (h : Reads fields s m t) (hr : Behind cs) :
    m.written ++ cs = '"' :: (m.name.toList.flatMap escape ++ '"' :: ':' :: (m.value ++ cs)) ∧
      readMember fields s (m.name.toList.flatMap escape ++ '"' :: ':' :: (m.value ++ cs))
        = .ok (t, cs) := by
  refine ⟨?_, h cs hr⟩
  simp [Member.written, quoted]

lemma objectFields_further (rest : List Char) (h : ReadsAll fields s ms t) :
    ∀ {n : Nat}, ms.length < n →
      objectFields fields n false s (furtherMembers ms ++ '}' :: rest) = .ok (t, '}' :: rest) := by
  -- `n` bounds the members that may still come, and each of them uses up one
  induction h with
  | nil s =>
      intro n hn
      obtain ⟨n, rfl⟩ := Nat.exists_eq_add_of_lt hn
      rfl
  | @cons s t u m ms hm _ ih =>
      intro n hn
      obtain ⟨n, rfl⟩ : ∃ k, n = k + 1 := ⟨n - 1, by simp at hn; omega⟩
      obtain ⟨hw, hread⟩ := readMember_written hm (behind_furtherMembers ms rest)
      have hcs : furtherMembers (m :: ms) ++ '}' :: rest
          = ',' :: (m.written ++ (furtherMembers ms ++ '}' :: rest)) := by
        simp [furtherMembers]
      have hmore := ih (n := n) (by simpa using hn)
      rw [hcs, hw, objectFields, afterSpace_cons rfl]
      simp only [Bool.false_eq_true, ↓reduceIte, afterSpace_cons (c := '"') rfl, hread]
      exact hmore

lemma objectFields_written (h : ReadsAll fields s (m :: ms) t) (rest : List Char)
    (hn : ms.length + 1 < n) :
    objectFields fields n true s
      (List.intercalate [','] ((m :: ms).map Member.written) ++ '}' :: rest)
        = .ok (t, '}' :: rest) := by
  cases h with
  | @cons _ u _ _ _ hm hms =>
      obtain ⟨n, rfl⟩ : ∃ k, n = k + 1 := ⟨n - 1, by omega⟩
      obtain ⟨hw, hread⟩ := readMember_written hm (behind_furtherMembers ms rest)
      have hmore := objectFields_further rest hms (n := n) (by omega)
      rw [intercalate_written, List.append_assoc, hw, objectFields, afterSpace_cons rfl]
      simp only [↓reduceIte, hread]
      exact hmore

lemma length_furtherMembers (ms : List Member) : ms.length ≤ (furtherMembers ms).length := by
  induction ms with
  | nil => simp
  | cons m ms ih =>
      simp only [furtherMembers, List.flatMap_cons, List.length_append, List.length_cons] at ih ⊢
      omega

/-- **A record is read back from the members that were written of it.** -/
lemma record_written {make : σ → Option α} {x : α} (h : ReadsAll fields s (m :: ms) t)
    (hx : make t = some x) : complete (record fields s make) (object (m :: ms)) = .ok x := by
  have hlist : (object (m :: ms)).toList
      = '{' :: (List.intercalate [','] ((m :: ms).map Member.written) ++ '}' :: []) := by
    simp [object]
  -- a member is not empty, so the length of a text bounds its members
  have hfuel : ms.length + 1 < (List.intercalate [','] ((m :: ms).map Member.written)
      ++ '}' :: []).length + 1 := by
    have hl := length_furtherMembers ms
    rw [intercalate_written]
    simp only [Member.written, quoted, List.length_append, List.length_cons]
    omega
  have hread := objectFields_written h [] hfuel
  have hrecord : record fields s make (object (m :: ms)).toList = .ok (x, []) := by
    rw [hlist]
    simp only [record, afterSpace_cons (c := '{') rfl, hread, bind, Except.bind, hx, close,
      afterSpace_cons (c := '}') rfl]
    rfl
  simp only [complete, hrecord]
  rfl

lemma text_written (s : String) (rest : List Char) :
    text (quoted s.toList ++ rest) = .ok (s, rest) := by
  have hbody := stringBody_written s.toList rest
  simp only [quoted, List.cons_append, List.append_assoc, List.nil_append, text,
    afterSpace_cons (c := '"') rfl, hbody]
  simp [bind, Except.bind, pure, Except.pure]

lemma optional_text_written (s : String) (rest : List Char) :
    optional text (quoted s.toList ++ rest) = .ok (some s, rest) := by
  have htext := text_written s rest
  simp only [quoted, List.cons_append, optional, afterSpace_cons (c := '"') rfl] at htext ⊢
  show (text _ >>= fun p => .ok (some p.1, p.2)) = _
  rw [htext]
  rfl

lemma bool_written (name : String) (b : Bool) (rest : List Char) :
    bool ((Member.bool name b).value ++ rest) = .ok (b, rest) := by
  cases b <;> rfl

/-- A member is read by the field of its name. -/
lemma reads_field {name : String} {value : List Char} {f : Field σ}
    (hfind : fields.find? (fun g => g.name == name) = some f) (hset : f.isSet s = false)
    (hread : ∀ rest, Behind rest → f.read s (value ++ rest) = .ok (t, rest)) :
    Reads fields s ⟨name, value⟩ t := by
  intro rest hr
  have hname : (fun g : Field σ => g.name.toList == name.toList) = fun g => g.name == name := by
    funext g
    rw [Bool.eq_iff_iff, beq_iff_eq, beq_iff_eq, String.toList_inj]
  have hbody := stringBody_written name.toList (':' :: (value ++ rest))
  simp only [readMember, hbody, bind, Except.bind, hname, hfind, hset,
    afterSpace_cons (c := ':') rfl]
  exact hread rest hr

/-- An object is one line if its values are. -/
lemma not_control_of_mem_object (h : ∀ m ∈ ms, ∀ c ∈ m.value, 0x20 ≤ c.toNat)
    (hc : c ∈ (object ms).toList) : 0x20 ≤ c.toNat := by
  have hmember : ∀ m ∈ ms, ∀ c ∈ m.written, 0x20 ≤ c.toNat := by
    intro m hm c hc
    simp only [Member.written, List.mem_append, List.mem_cons] at hc
    rcases hc with hc | rfl | hc
    · exact not_control_of_mem_quoted hc
    · decide
    · exact h m hm c hc
  cases ms with
  | nil =>
      have hc' : c = '{' ∨ c = '}' := by simpa [object, List.intercalate] using hc
      rcases hc' with rfl | rfl <;> decide
  | cons m ms =>
      simp only [object, String.toList_ofList, intercalate_written, furtherMembers, List.mem_cons,
        List.mem_append, List.mem_flatMap, List.not_mem_nil, or_false] at hc
      rcases hc with rfl | (hc | ⟨m', hm', rfl | hc⟩) | rfl
      · decide
      · exact hmember m List.mem_cons_self c hc
      · decide
      · exact hmember m' (List.mem_cons_of_mem m hm') c hc
      · decide

lemma not_control_of_mem_nat {name : String} (hc : c ∈ (Member.nat name n).value) :
    0x20 ≤ c.toNat := by
  have hd : c.isDigit = true := Nat.isDigit_of_mem_toDigits (by decide) (by decide) hc
  simp only [Char.isDigit, Bool.and_eq_true, decide_eq_true_eq] at hd
  have hle : 48 ≤ c.toNat := hd.1
  omega

lemma not_control_of_mem_bool {name : String} {b : Bool} (hc : c ∈ (Member.bool name b).value) :
    0x20 ≤ c.toNat := by
  have hall : ∀ b, ∀ c ∈ (Member.bool name b).value, 0x20 ≤ c.toNat := by
    rintro (_ | _) <;> simp [Member.bool]
  exact hall b c hc

/-! ## What reading keeps -/

/-- Reading a field keeps what holds of a record. -/
def KeptBy (P : σ → Prop) (f : Field σ) : Prop :=
  ∀ s cs t rest, P s → f.read s cs = .ok (t, rest) → P t

variable {P : σ → Prop}

/-- What is kept while one thing is read and while the next is read is kept by both in turn. -/
lemma keeps_of_bind {read : Except Fault (σ × List Char)}
    {next : σ × List Char → Except Fault (σ × List Char)}
    (hread : ∀ u cs, read = .ok (u, cs) → P u)
    (hnext : ∀ u cs, P u → next (u, cs) = .ok (t, rest) → P t)
    (h : read >>= next = .ok (t, rest)) : P t := by
  obtain ⟨⟨u, cs⟩, hu, h⟩ := bind_eq_ok.mp h
  exact hnext u cs (hread u cs hu) h

lemma listFields_keeps : ∀ (fields : List (Field σ)) (first : Bool) (s : σ) (cs : List Char),
    (∀ f ∈ fields, KeptBy P f) → P s →
      listFields first fields s cs = .ok (t, rest) → P t
  | [], _, s, cs, _, hs, h => by
      cases h
      exact hs
  | f :: fields, first, s, cs, hf, hs, h => by
      have hread : ∀ cs u cs', f.read s cs = .ok (u, cs') → P u :=
        fun cs u cs' => hf f List.mem_cons_self s cs u cs' hs
      have hnext : ∀ u cs', P u → listFields false fields u cs' = .ok (t, rest) → P t :=
        fun u cs' => listFields_keeps fields false u cs'
          fun g hg => hf g (List.mem_cons_of_mem f hg)
      -- a field comes first or behind a comma; it is read the same way
      rw [listFields] at h
      split at h
      · cases h
      · cases h
      · simp only at h
        split_ifs at h
        · exact keeps_of_bind (hread _) hnext h
        · split at h
          · cases h
          · cases h
          · exact keeps_of_bind (hread _) hnext h

lemma readMember_keeps (hf : ∀ f ∈ fields, KeptBy P f) (hs : P s)
    (h : readMember fields s cs = .ok (t, rest)) : P t := by
  obtain ⟨⟨name, cs⟩, -, h⟩ := bind_eq_ok.mp h
  dsimp only at h
  split at h
  · next f hfind =>
      split_ifs at h
      · obtain ⟨_, hthrow, -⟩ := bind_eq_ok.mp h
        cases hthrow
      · obtain ⟨v, -, h⟩ := bind_eq_ok.mp h
        exact hf f (List.mem_of_find?_eq_some hfind) _ _ _ _ hs h
  · obtain ⟨v, -, h⟩ := bind_eq_ok.mp h
    obtain ⟨⟨⟨⟩, cs⟩, -, h⟩ := bind_eq_ok.mp h
    cases h
    exact hs

lemma objectFields_keeps (hf : ∀ f ∈ fields, KeptBy P f) :
    ∀ (n : Nat) (first : Bool) (s : σ) (cs : List Char), P s →
      objectFields fields n first s cs = .ok (t, rest) → P t
  | 0, _, _, _, _, h => by cases h
  | n + 1, first, s, cs, hs, h => by
      have hread : ∀ cs u cs', readMember fields s cs = .ok (u, cs') → P u :=
        fun _ _ _ => readMember_keeps hf hs
      have hnext : ∀ u cs', P u → objectFields fields n false u cs' = .ok (t, rest) → P t :=
        objectFields_keeps hf n false
      rw [objectFields] at h
      dsimp only at h
      split at h
      · cases h
      · cases h
        exact hs
      · split_ifs at h
        exact keeps_of_bind (hread _) hnext h
      · split_ifs at h
        split at h
        · cases h
        · exact keeps_of_bind (hread _) hnext h
        · cases h
      · cases h

/-- **A record that was read is made of fields that were read.** -/
lemma exists_of_record {make : σ → Option α} {x : α} {text : String}
    (hf : ∀ f ∈ fields, KeptBy P f) (hs : P s)
    (h : complete (record fields s make) text = .ok x) : ∃ t, P t ∧ make t = some x := by
  obtain ⟨⟨y, cs⟩, hr, h⟩ := bind_eq_ok.mp h
  have hxy : y = x := by
    dsimp only at h
    split at h
    · cases h
      rfl
    · cases h
  subst hxy
  unfold record at hr
  dsimp only at hr
  split at hr
  · obtain ⟨⟨u, cs'⟩, hu, hr⟩ := bind_eq_ok.mp hr
    have hkept : P u := listFields_keeps fields true s _ hf hs hu
    split at hr
    · cases hr
    · next z hz =>
        obtain ⟨⟨⟨⟩, _⟩, -, hr⟩ := bind_eq_ok.mp hr
        cases hr
        exact ⟨u, hkept, hz⟩
  · obtain ⟨⟨u, cs'⟩, hu, hr⟩ := bind_eq_ok.mp hr
    have hkept : P u := objectFields_keeps hf _ true s _ hs hu
    split at hr
    · cases hr
    · next z hz =>
        obtain ⟨⟨⟨⟩, _⟩, -, hr⟩ := bind_eq_ok.mp hr
        cases hr
        exact ⟨u, hkept, hz⟩
  · cases hr

end PageCrawl.Json
