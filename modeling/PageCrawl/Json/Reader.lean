import PageCrawl.Json.Text

/-!
# Reading JSON

Readers take a value from the front of a text and return what is left. They know which kind of
value they want, so they say of a text that does not have it whether it is no JSON at all, whether
it ends too early, or whether it is JSON of another kind. What comes first in the text counts: a
value of the wrong kind is a fault at its beginning, whatever follows it.

* `text`, `bool`, `natural` and `optional` read a value of one kind.
* `skip` reads any value and forgets it.
* `complete` asks that nothing is left.

A number that is no natural number of 64 bits has no value here, but it has to be read: it may be
too large to be a number of double precision, which makes it no JSON.
-/

namespace PageCrawl.Json

/-- Why a text does not hold what is wanted. -/
inductive Fault
  /-- It is no JSON. -/
  | malformed
  /-- It is JSON with something else in it. -/
  | mismatch
  /-- It ends too early. -/
  | ended
deriving Repr, DecidableEq, Inhabited

/-- A function that takes something from the front of a text and returns what is left. -/
abbrev Reader (α : Type) := List Char → Except Fault (α × List Char)

/-- White space between the parts of a document. -/
def isSpace (c : Char) : Bool := c == ' ' || c == '\n' || c == '\t' || c == '\r'

/-- What follows the white space. -/
def afterSpace (cs : List Char) : List Char := cs.dropWhile isSpace

/-- Reads the rest of a word whose first letter is known. -/
def word : List Char → Reader Unit
  | [], cs => .ok ((), cs)
  | _ :: _, [] => .error .ended
  | w :: ws, c :: cs => if c == w then word ws cs else .error .malformed

/-! ## Strings -/

/-- The value of a hexadecimal digit. -/
def hexValue? (c : Char) : Option Nat :=
  if '0' ≤ c && c ≤ '9' then some (c.toNat - '0'.toNat)
  else if 'a' ≤ c && c ≤ 'f' then some (c.toNat - 'a'.toNat + 10)
  else if 'A' ≤ c && c ≤ 'F' then some (c.toNat - 'A'.toNat + 10)
  else none

/-- The number of bytes of a text. -/
def byteCount (cs : List Char) : Nat := (String.ofList cs).utf8ByteSize

/-- Reads four hexadecimal digits. They are four bytes of the text: where fewer are left the text
has ended, and otherwise other characters are a fault. -/
def hexCode : Reader Nat
  | a :: b :: c :: d :: cs =>
    match hexValue? a, hexValue? b, hexValue? c, hexValue? d with
    | some a, some b, some c, some d => .ok (((a * 16 + b) * 16 + c) * 16 + d, cs)
    | _, _, _, _ => .error .malformed
  | cs => .error (if byteCount cs < 4 then .ended else .malformed)

/-- Whether a code is the first of a pair. -/
def isLeading (n : Nat) : Bool := 0xD800 ≤ n && n ≤ 0xDBFF

/-- Whether a code is the second of a pair. -/
def isTrailing (n : Nat) : Bool := 0xDC00 ≤ n && n ≤ 0xDFFF

/-- Reads a character that is written as one code, or as a pair of codes. -/
def codedChar : Reader Char := fun cs => do
  let (n, cs) ← hexCode cs
  if isTrailing n then throw .malformed
  if !isLeading n then return (Char.ofNat n, cs)
  let ((), cs) ← word ['\\', 'u'] cs
  let (m, cs) ← hexCode cs
  if !isTrailing m then throw .malformed
  return (Char.ofNat (0x10000 + (n - 0xD800) * 0x400 + (m - 0xDC00)), cs)

/-- The escapes of one letter, by letter. -/
def letterEscapes : List (Char × Char) := ('/', '/') :: shortEscapes.map fun (c, l) => (l, c)

/-- Reads what follows the backslash of an escape. -/
def escaped : Reader Char
  | [] => .error .ended
  | 'u' :: cs => codedChar cs
  | c :: cs =>
    match letterEscapes.lookup c with
    | some d => .ok (d, cs)
    | none => .error .malformed

/-- Reads what follows the opening quote of a string, in at most the given number of
characters. -/
def stringRest : Nat → Reader (List Char)
  | 0, _ => .error .ended
  | _ + 1, [] => .error .ended
  | n + 1, c :: cs =>
    if c == '"' then .ok ([], cs)
    else if c == '\\' then do
      let (d, cs) ← escaped cs
      let (ds, cs) ← stringRest n cs
      return (d :: ds, cs)
    else if c.toNat < 0x20 then .error .malformed
    else do
      let (ds, cs) ← stringRest n cs
      return (c :: ds, cs)

/-- Reads what follows the opening quote of a string. -/
def stringBody : Reader (List Char) := fun cs => stringRest (cs.length + 1) cs

/-- Skips what follows the opening quote of a string, in at most the given number of characters.
Codes need not be those of characters. -/
def skipString : Nat → Reader Unit
  | 0, _ => .error .ended
  | _ + 1, [] => .error .ended
  | n + 1, c :: cs =>
    if c == '"' then .ok ((), cs)
    else if c == '\\' then
      match cs with
      | [] => .error .ended
      | 'u' :: cs => do
        let (_, cs) ← hexCode cs
        skipString n cs
      | d :: cs => if (letterEscapes.lookup d).isSome then skipString n cs else .error .malformed
    else if c.toNat < 0x20 then .error .malformed
    else skipString n cs

/-! ## Numbers -/

/-- A number. -/
inductive Number
  | natural (n : Nat)
  /-- One that is negative, has a fraction or an exponent, or does not fit into 64 bits. -/
  | other
deriving Repr, DecidableEq, Inhabited

/-- The largest natural number that is kept. -/
def largest : Nat := Nat.pow 2 64 - 1

/-- Whether a character is a decimal digit. -/
def isDigit (c : Char) : Bool := '0' ≤ c && c ≤ '9'

/-- Puts digits behind a number as long as it stays below the bound; the number, and the digits
that are left. -/
def appendDigits : Nat → List Char → Nat × List Char
  | n, [] => (n, [])
  | n, c :: cs =>
    let m := n * 10 + (c.toNat - '0'.toNat)
    if m > largest then (n, c :: cs) else appendDigits m cs

/-- A number with its significand rounded to 53 bits, a half going to the even neighbour. -/
def roundedDouble (n : Nat) : Nat :=
  let excess := Nat.log2 n - 52
  let unit := Nat.pow 2 excess
  let (q, r) := (n / unit, n % unit)
  if 2 * r > unit || (2 * r == unit && q % 2 == 1) then (q + 1) * unit else q * unit

/-- Whether a significand times a power of ten is too large for a number of double precision. -/
def exceedsDouble (significand : Nat) (exponent : Int) : Bool :=
  if significand == 0 || exponent < 0 then false
  else if exponent > 308 then true
  else
    roundedDouble significand * roundedDouble (Nat.pow 10 exponent.toNat)
      ≥ Nat.pow 2 1024 - Nat.pow 2 970

/-- The value of a text of digits. -/
def digitsValue (cs : List Char) : Nat :=
  cs.foldl (fun n c => n * 10 + (c.toNat - '0'.toNat)) 0

/-- Reads the exponent of a number, without its letter. -/
def exponent : Reader Int := fun cs =>
  let (negative, cs) := match cs with
    | '+' :: cs => (false, cs)
    | '-' :: cs => (true, cs)
    | cs => (false, cs)
  match cs with
  | [] => .error .ended
  | c :: _ =>
    if !isDigit c then .error .malformed
    else
      let e : Int := digitsValue (cs.takeWhile isDigit)
      .ok (if negative then -e else e, cs.dropWhile isDigit)

/-- Reads the part of a number behind its last digit before the exponent. -/
def scaledNumber (significand : Nat) (scale : Int) : Reader Number := fun cs => do
  let (e, cs) ← match cs with
    | 'e' :: cs | 'E' :: cs => exponent cs
    | cs => pure (0, cs)
  if exceedsDouble significand (scale + e) then throw .malformed
  return (.other, cs)

/-- Reads the digits of a number, without its sign. -/
def unsignedNumber : Reader Number := fun cs =>
  match cs with
  | [] => .error .ended
  | c :: _ =>
    let whole := cs.takeWhile isDigit
    let rest := cs.dropWhile isDigit
    if !isDigit c || (c == '0' && whole.length > 1) then .error .malformed
    else
      let (n, dropped) := appendDigits 0 whole
      match rest with
      | '.' :: cs =>
        let fraction := cs.takeWhile isDigit
        if fraction.isEmpty then .error (if cs.isEmpty then .ended else .malformed)
        else
          let (m, unused) := appendDigits n fraction
          scaledNumber m (dropped.length - (fraction.length - unused.length : Int))
            (cs.dropWhile isDigit)
      | 'e' :: _ | 'E' :: _ => scaledNumber n dropped.length rest
      | _ => if dropped.isEmpty then .ok (.natural n, rest) else scaledNumber n dropped.length rest

/-- Reads a number. -/
def number : Reader Number
  | '-' :: cs => do
    let (_, cs) ← unsignedNumber cs
    return (.other, cs)
  | cs => unsignedNumber cs

/-- Skips a number, however large. A number that breaks off is malformed. -/
def skipNumber : Reader Unit := fun cs =>
  let cs := match cs with
    | '-' :: cs => cs
    | cs => cs
  let whole := cs.takeWhile isDigit
  let rest := cs.dropWhile isDigit
  if whole.isEmpty || (whole.length > 1 && whole.head? == some '0') then .error .malformed
  else
    let power : Reader Unit := fun cs =>
      match cs with
      | 'e' :: cs | 'E' :: cs =>
        let cs := match cs with
          | '+' :: cs | '-' :: cs => cs
          | cs => cs
        if (cs.takeWhile isDigit).isEmpty then .error .malformed
        else .ok ((), cs.dropWhile isDigit)
      | cs => .ok ((), cs)
    match rest with
    | '.' :: cs =>
      if (cs.takeWhile isDigit).isEmpty then .error .malformed else power (cs.dropWhile isDigit)
    | cs => power cs

/-! ## Values -/

/-- Whether a number begins with this character. -/
def startsNumber (c : Char) : Bool := c == '-' || isDigit c

/-- What is wrong with a text that should begin with a value of another kind. A word, a number or
a string has to be one to be of the wrong kind; a list or an object only has to begin. -/
def wrongKind : List Char → Fault
  | [] => .ended
  | c :: cs =>
    let fault {α : Type} : Except Fault α → Fault
      | .ok _ => .mismatch
      | .error e => e
    if c == 'n' then fault (word ['u', 'l', 'l'] cs)
    else if c == 't' then fault (word ['r', 'u', 'e'] cs)
    else if c == 'f' then fault (word ['a', 'l', 's', 'e'] cs)
    else if startsNumber c then fault (number (c :: cs))
    else if c == '"' then fault (stringBody cs)
    else if c == '[' || c == '{' then .mismatch
    else .malformed

/-- Reads a text. -/
def text : Reader String := fun cs =>
  match afterSpace cs with
  | '"' :: cs => do
    let (s, cs) ← stringBody cs
    return (String.ofList s, cs)
  | cs => .error (wrongKind cs)

/-- Reads a truth value. -/
def bool : Reader Bool := fun cs =>
  match afterSpace cs with
  | 't' :: cs => do
    let ((), cs) ← word ['r', 'u', 'e'] cs
    return (true, cs)
  | 'f' :: cs => do
    let ((), cs) ← word ['a', 'l', 's', 'e'] cs
    return (false, cs)
  | cs => .error (wrongKind cs)

/-- Reads a natural number of 64 bits. -/
def natural : Reader Nat := fun cs =>
  match afterSpace cs with
  | [] => .error .ended
  | c :: cs =>
    if startsNumber c then do
      match ← number (c :: cs) with
      | (.natural n, cs) => return (n, cs)
      | (.other, _) => throw .mismatch
    else .error (wrongKind (c :: cs))

/-- Reads a value that may be null. -/
def optional {α : Type} (r : Reader α) : Reader (Option α) := fun cs =>
  match afterSpace cs with
  | 'n' :: cs => do
    let ((), cs) ← word ['u', 'l', 'l'] cs
    return (none, cs)
  | cs => do
    let (x, cs) ← r cs
    return (some x, cs)

/-- What an open bracket encloses. -/
inductive Enclosure
  | list
  | object
deriving Repr, DecidableEq, Inhabited

/-- Skips a value that is no list and no object. -/
def skipScalar : Reader Unit
  | [] => .error .ended
  | c :: cs =>
    if c == 'n' then word ['u', 'l', 'l'] cs
    else if c == 't' then word ['r', 'u', 'e'] cs
    else if c == 'f' then word ['a', 'l', 's', 'e'] cs
    else if startsNumber c then skipNumber (c :: cs)
    else if c == '"' then skipString (cs.length + 1) cs
    else .error .malformed

/-- Skips the name of a member and the colon behind it. -/
def skipName : Reader Unit := fun cs =>
  match afterSpace cs with
  | [] => .error .ended
  | '"' :: cs => do
    let ((), cs) ← skipString (cs.length + 1) cs
    match afterSpace cs with
    | [] => throw .ended
    | ':' :: cs => return ((), cs)
    | _ => throw .malformed
  | _ => .error .malformed

mutual

/-- Skips a value inside open brackets, and then the rest of all of them, in at most the given
number of steps. -/
def skipInside : Nat → List Enclosure → Reader Unit
  | 0, _, _ => .error .ended
  | n + 1, enclosures, cs =>
    match afterSpace cs with
    | [] => .error .ended
    | '[' :: cs => skipAfter n false (.list :: enclosures) cs
    | '{' :: cs => skipAfter n false (.object :: enclosures) cs
    | cs =>
      match skipScalar cs with
      | .ok ((), cs) => skipAfter n true enclosures cs
      | .error e => .error e

/-- Skips the rest of open brackets. `behind` says that a value stands before it in the
innermost one, so that a comma may follow. -/
def skipAfter : Nat → Bool → List Enclosure → Reader Unit
  | 0, _, _, _ => .error .ended
  | _ + 1, _, [], cs => .ok ((), cs)
  | n + 1, behind, e :: enclosures, cs =>
    match afterSpace cs with
    | [] => .error .ended
    | c :: cs =>
      if c == ',' && behind then skipMember n e enclosures cs
      else if c == ']' && e == .list then skipAfter n true enclosures cs
      else if c == '}' && e == .object then skipAfter n true enclosures cs
      else if behind then .error .malformed
      else skipMember n e enclosures (c :: cs)

/-- Skips an element of a list or a member of an object, and then the rest of all open
brackets. -/
def skipMember : Nat → Enclosure → List Enclosure → Reader Unit
  | 0, _, _, _ => .error .ended
  | n + 1, .list, enclosures, cs => skipInside n (.list :: enclosures) cs
  | n + 1, .object, enclosures, cs =>
    match skipName cs with
    | .ok ((), cs) => skipInside n (.object :: enclosures) cs
    | .error e => .error e

end

/-- Skips a value of any kind. -/
def skip : Reader Unit := fun cs => skipInside (3 * cs.length + 2) [] cs

/-- What a whole document holds. -/
def complete {α : Type} (r : Reader α) (s : String) : Except Fault α := do
  let (x, cs) ← r s.toList
  match afterSpace cs with
  | [] => return x
  | _ => throw .malformed

end PageCrawl.Json
