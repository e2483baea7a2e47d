/-!
# Punycode

Texts beyond ASCII written in ASCII letters, digits and hyphens. The ASCII characters come first,
then a hyphen, then for each other character, in the order of their code points, how far to count
on: through the code points, and through the places in the text for each of them. Counts are
numbers of base 36 whose digits have thresholds that follow the sizes of the counts before.
-/

namespace PageCrawl.Url.Punycode

/-- The digit of a number below 36. -/
def digit (n : Nat) : Char :=
  if n < 26 then Char.ofNat ('a'.toNat + n) else Char.ofNat ('0'.toNat + (n - 26))

/-- The value of a digit. -/
def digitValue? (c : Char) : Option Nat :=
  if 'a' ≤ c && c ≤ 'z' then some (c.toNat - 'a'.toNat)
  else if 'A' ≤ c && c ≤ 'Z' then some (c.toNat - 'A'.toNat)
  else if '0' ≤ c && c ≤ '9' then some (c.toNat - '0'.toNat + 26)
  else none

/-- The threshold of the digit at a place, which counts in steps of 36. -/
def threshold (place bias : Nat) : Nat := max 1 (min 26 (place - bias))

/-- Divides by 35 until a count is small, in at most the given number of steps. -/
def scaledDown : Nat → Nat → Nat → Nat × Nat
  | 0, delta, k => (delta, k)
  | n + 1, delta, k => if 455 < delta then scaledDown n (delta / 35) (k + 36) else (delta, k)

/-- The bias after a count for a text that has grown to the given length. -/
def adapted (delta length : Nat) (first : Bool) : Nat :=
  let delta := if first then delta / 700 else delta / 2
  let (delta, k) := scaledDown 64 (delta + delta / length) 0
  k + 36 * delta / (delta + 38)

/-- The bias before the first count. -/
def firstBias : Nat := 72

/-- The digits of a count, at most as many as told. -/
def count (bias : Nat) : Nat → Nat → Nat → List Char
  | 0, _, _ => []
  | n + 1, place, q =>
    let t := threshold place bias
    if q < t then [digit q]
    else digit (t + (q - t) % (36 - t)) :: count bias n (place + 36) ((q - t) / (36 - t))

/-- What counting has come to. -/
structure State where
  /-- The code point. -/
  point : Nat := 128
  delta : Nat := 0
  bias : Nat := firstBias
  /-- How many characters have been written. -/
  done : Nat
  output : List Char

/-- Counts on to a code point and writes all its occurrences. -/
def writePoint (cs : List Char) (basic : Nat) (s : State) (point : Nat) : State :=
  let start := { s with delta := s.delta + (point - s.point) * (s.done + 1), point }
  let s := cs.foldl (fun s c =>
    if c.toNat < point then { s with delta := s.delta + 1 }
    else if c.toNat == point then
      { s with
        output := s.output ++ count s.bias 64 36 s.delta
        bias := adapted s.delta (s.done + 1) (s.done == basic)
        delta := 0
        done := s.done + 1 }
    else s) start
  { s with delta := s.delta + 1, point := point + 1 }

/-- Writes a text. -/
def encode (cs : List Char) : List Char :=
  let basic := cs.filter fun c => c.toNat < 128
  let points := (((cs.map Char.toNat).filter (128 ≤ ·)).mergeSort (· ≤ ·)).eraseReps
  let lead := if basic.isEmpty then [] else basic ++ ['-']
  (points.foldl (writePoint cs basic.length) { done := basic.length, output := lead }).output

/-- Reads a count: its value and what is left. -/
def readCount (bias : Nat) : Nat → Nat → Nat → List Char → Option (Nat × List Char)
  | _, _, _, [] => none
  | place, weight, value, c :: cs => do
    let d ← digitValue? c
    let value := value + d * weight
    let t := threshold place bias
    if d < t then some (value, cs) else readCount bias (place + 36) (weight * (36 - t)) value cs

/-- Reads counts and puts their characters into a text, in at most the given number of steps. -/
def readAll : Nat → Nat → Nat → Nat → List Char → List Char → Option (List Char)
  | _, _, _, _, text, [] => some text
  | 0, _, _, _, _, _ => none
  | n + 1, point, i, bias, text, cs => do
    let (delta, cs) ← readCount bias 36 1 0 cs
    let length := text.length + 1
    let total := i + delta
    let point := point + total / length
    let place := total % length
    if point < 0x110000 && (point < 0xD800 || 0xDFFF < point) then
      readAll n point (place + 1) (adapted delta length (i == 0))
        (text.take place ++ Char.ofNat point :: text.drop place) cs
    else none

/-- The characters before the last hyphen, and those behind it. -/
def splitLast (cs : List Char) : List Char × List Char :=
  let tail := (cs.reverse.takeWhile (· != '-')).reverse
  (cs.take (cs.length - tail.length - 1), tail)

/-- Reads a text. -/
def decode? (cs : List Char) : Option (List Char) :=
  let (basic, rest) := splitLast cs
  if basic.all fun c => c.toNat < 128 then readAll rest.length 128 0 firstBias basic rest else none

end PageCrawl.Url.Punycode
