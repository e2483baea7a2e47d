/-!
# Numbers of single precision as text

A `Single` is a number of 32 bits in the binary floating-point format. `shortest` gives the fewest
decimal digits that read back as the number, and of those the nearest to it: the numbers that
round to a `Single` form an interval around it, whose ends count when its significand is even, and
the first of the decimal grids of 1, 2, … digits that has a point in the interval gives the digits.

`plain` writes them positionally; `precise` keeps a fraction and turns to an exponent for very
small and very large numbers.
-/

namespace PageCrawl.Text

/-- A number of single precision, given by its bits. -/
structure Single where
  bits : UInt32
deriving Repr, DecidableEq, Inhabited

namespace Single

/-- The number nearest to one of double precision. -/
def ofFloat (x : Float) : Single := ⟨x.toFloat32.toBits⟩

/-- Whether the sign is minus. -/
def isNegative (x : Single) : Bool := x.bits.toNat / Nat.pow 2 31 == 1

/-- The biased exponent. -/
def exponentField (x : Single) : Nat := x.bits.toNat / Nat.pow 2 23 % 256

/-- The fraction. -/
def fractionField (x : Single) : Nat := x.bits.toNat % Nat.pow 2 23

/-- Whether the number is zero. -/
def isZero (x : Single) : Bool := x.exponentField == 0 && x.fractionField == 0

/-- Whether the number is greater than zero. -/
def isPositive (x : Single) : Bool := !x.isNegative && !x.isZero

/-- The magnitude of a finite number as significand and exponent of 2. -/
def parts (x : Single) : Nat × Int :=
  if x.exponentField == 0 then (x.fractionField, -149)
  else (x.fractionField + Nat.pow 2 23, (x.exponentField : Int) - 150)

/-- Both sides of `n · 2^p ≤ d · 10^e` over a common denominator. -/
def scaled (n : Nat) (p : Int) (d : Nat) (e : Int) : Nat × Nat :=
  (n * Nat.pow 2 p.toNat * Nat.pow 10 (-e).toNat,
    d * Nat.pow 10 e.toNat * Nat.pow 2 (-p).toNat)

/-- The exponent of ten of the first digit of `n · 2^p`, searched downwards. -/
def leadingExponent (n : Nat) (p : Int) : Nat → Int → Int
  | 0, e => e
  | k + 1, e =>
    let (v, d) := scaled n p 1 e
    if d ≤ v then e else leadingExponent n p k (e - 1)

/-- A decimal of at most the given exponent step that lies in the interval, nearest to the
value. -/
def onGrid (m : Nat) (q : Int) (below : Nat) (e : Int) : Option Nat :=
  let p := q - 2
  let (v, unit) := scaled (4 * m) p 1 e
  let (low, _) := scaled (4 * m - below) p 1 e
  let (high, _) := scaled (4 * m + 2) p 1 e
  let inside (d : Nat) : Bool :=
    if m % 2 == 0 then low ≤ d * unit && d * unit ≤ high
    else low < d * unit && d * unit < high
  let d := v / unit
  let up := d + 1
  let candidates := [d, up].filter fun d => d > 0 && inside d
  match candidates with
  | [a, b] => some (if v - a * unit ≤ b * unit - v then a else b)
  | a :: _ => some a
  | [] => none

/-- The first grid of at least `k` digits with a decimal in the interval. -/
def firstGrid (m : Nat) (q : Int) (below : Nat) (lead : Int) : Nat → Int → Nat × Int
  | 0, k => (((onGrid m q below (lead + 1 - k)).getD 0), lead + 1 - k)
  | fuel + 1, k =>
    match onGrid m q below (lead + 1 - k) with
    | some d => (d, lead + 1 - k)
    | none => firstGrid m q below lead fuel (k + 1)

/-- Digits and exponent without zeros at the end, of which there are at most as many as given. -/
def withoutZeros : Nat → Nat × Int → Nat × Int
  | 0, r => r
  | n + 1, (d, e) => if d % 10 == 0 then withoutZeros n (d / 10, e + 1) else (d, e)

/-- The shortest decimal of the magnitude of a finite number that is not zero: digits and
exponent of ten. -/
def shortest (x : Single) : Nat × Int :=
  let (m, q) := x.parts
  let below := if x.fractionField == 0 && x.exponentField > 1 then 1 else 2
  let lead := leadingExponent m q 90 39
  withoutZeros 10 (firstGrid m q below lead 9 1)

/-- The sign as it is written. -/
def sign (x : Single) : String := if x.isNegative then "-" else ""

/-- Digits and exponent written positionally; `whole` is what stands behind a whole number. -/
def positional (whole : String) (digits : Nat) (e : Int) : String :=
  let ds := Nat.toDigits 10 digits
  if 0 ≤ e then String.ofList (ds ++ List.replicate e.toNat '0') ++ whole
  else
    let k := (-e).toNat
    if ds.length > k then
      String.ofList (ds.take (ds.length - k) ++ '.' :: ds.drop (ds.length - k))
    else String.ofList ('0' :: '.' :: (List.replicate (k - ds.length) '0' ++ ds))

/-- The number written positionally, without a fraction if it is whole. -/
def plain (x : Single) : String :=
  if x.exponentField == 255 then (if x.fractionField == 0 then x.sign ++ "inf" else "NaN")
  else if x.isZero then x.sign ++ "0"
  else
    let (d, e) := x.shortest
    x.sign ++ positional "" d e

/-- The number written with a fraction, or with an exponent if it is below 0.00001 or at least
10^16. -/
def precise (x : Single) : String :=
  if x.exponentField == 255 then (if x.fractionField == 0 then x.sign ++ "inf" else "NaN")
  else if x.isZero then x.sign ++ "0.0"
  else
    let (d, e) := x.shortest
    let ds := Nat.toDigits 10 d
    let lead : Int := e + ds.length - 1
    if -5 ≤ lead && lead < 16 then x.sign ++ positional ".0" d e
    else
      let fraction := if ds.length == 1 then [] else '.' :: ds.drop 1
      x.sign ++ String.ofList (ds.take 1 ++ fraction) ++ "e" ++ toString lead

end Single

end PageCrawl.Text
