/-!
# UTF-8

Texts as bytes. `decode` reads any bytes: what is no part of a character stands for U+FFFD, one for
each run of bytes that began like a character and then went wrong.
-/

namespace PageCrawl.Text.Utf8

/-- The bytes of a text. -/
def encode (cs : List Char) : List UInt8 := cs.flatMap String.utf8EncodeChar

/-- The character that stands for bytes that are none. -/
def replacement : Char := '\uFFFD'

/-- A character whose first byte has been read. -/
structure Begun where
  /-- How many bytes are owed. -/
  owed : Nat
  /-- The least next byte. -/
  low : Nat
  /-- The greatest next byte. -/
  high : Nat
  /-- The bits read so far. -/
  bits : Nat
deriving Repr, DecidableEq, Inhabited

/-- What a byte begins: a character of one byte, a longer one, or nothing. -/
def start (b : Nat) : Option (Char ⊕ Begun) :=
  if b < 0x80 then some (.inl (Char.ofNat b))
  else if b < 0xC2 then none
  else if b < 0xE0 then some (.inr ⟨1, 0x80, 0xBF, b - 0xC0⟩)
  else if b < 0xF0 then
    some (.inr ⟨2, if b == 0xE0 then 0xA0 else 0x80, if b == 0xED then 0x9F else 0xBF, b - 0xE0⟩)
  else if b < 0xF5 then
    some (.inr ⟨3, if b == 0xF0 then 0x90 else 0x80, if b == 0xF4 then 0x8F else 0xBF, b - 0xF0⟩)
  else none

/-- Reads bytes, of which the first ones may belong to a character that has begun. -/
def decodeFrom : Option Begun → List UInt8 → List Char
  | none, [] => []
  | some _, [] => [replacement]
  | begun, b :: bs =>
    let n := b.toNat
    let fresh (before : List Char) : List Char :=
      match start n with
      | some (.inl c) => before ++ c :: decodeFrom none bs
      | some (.inr p) => before ++ decodeFrom (some p) bs
      | none => before ++ replacement :: decodeFrom none bs
    match begun with
    | none => fresh []
    | some p =>
      if p.low ≤ n && n ≤ p.high then
        let bits := p.bits * 64 + (n - 0x80)
        if p.owed ≤ 1 then Char.ofNat bits :: decodeFrom none bs
        else decodeFrom (some ⟨p.owed - 1, 0x80, 0xBF, bits⟩) bs
      else fresh [replacement]

/-- The text of bytes. -/
def decode (bs : List UInt8) : List Char := decodeFrom none bs

/-- The text of bytes, if they are one: its bytes are then the ones it was read from. -/
def decode? (bs : List UInt8) : Option (List Char) :=
  let cs := decode bs
  if encode cs == bs then some cs else none

end PageCrawl.Text.Utf8
