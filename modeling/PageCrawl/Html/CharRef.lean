import PageCrawl.Html.CharRef.Names

/-!
# Character references

`decode` replaces the character references and the line ends of a text. A reference is read
greedily: of the names that start at an ampersand the longest wins, with or without its semicolon;
what is no reference stays as it stands. Inside an attribute a name without semicolon is left alone
when a letter, a digit or an equals sign follows, so that query strings survive.

Three facts decide how the text around a reference is read. No reference contains `<`, a quote or a
blank, so a text may be cut there first and decoded later. A numeric reference that is malformed is
reported as a `Piece.fault` before its character. And the reading of a name looks one character
ahead, which parts a carriage return there from the line feed behind it (`lookedAhead`).
-/

namespace PageCrawl.Html.CharRef

/-- What a decoded text is made of. -/
inductive Piece
  /-- A character of the text. -/
  | char (c : Char)
  /-- A malformed numeric reference was met here. -/
  | fault
deriving Repr, DecidableEq

/-- Letters and digits of ASCII. -/
def isWordChar (c : Char) : Bool := c.isAlphanum

/-- What the code points 0x80 to 0x9F of a numeric reference mean: the characters of the
Windows-1252 code page, and themselves where that page has a gap. -/
def windows1252 : List Nat :=
  [0x20AC, 0x81, 0x201A, 0x0192, 0x201E, 0x2026, 0x2020, 0x2021,
   0x02C6, 0x2030, 0x0160, 0x2039, 0x0152, 0x8D, 0x017D, 0x8F,
   0x90, 0x2018, 0x2019, 0x201C, 0x201D, 0x2022, 0x2013, 0x2014,
   0x02DC, 0x2122, 0x0161, 0x203A, 0x0153, 0x9D, 0x017E, 0x0178]

/-- Whether a code point may not be written as a numeric reference. -/
def isFaultyCode (n : Nat) : Bool :=
  n == 0 || n > 0x10FFFF || (0xD800 ≤ n && n ≤ 0xDFFF) || (0x80 ≤ n && n ≤ 0x9F)
    || (1 ≤ n && n ≤ 8) || n == 0x0B || (0x0D ≤ n && n ≤ 0x1F) || n == 0x7F
    || (0xFDD0 ≤ n && n ≤ 0xFDEF) || n % 0x10000 ≥ 0xFFFE

/-- The character that a numeric reference stands for. Zero, surrogates and numbers beyond
Unicode give the replacement character. -/
def charOfCode (n : Nat) : Char :=
  if n == 0 || n > 0x10FFFF || (0xD800 ≤ n && n ≤ 0xDFFF) then '\uFFFD'
  else if 0x80 ≤ n && n ≤ 0x9F then Char.ofNat ((windows1252[n - 0x80]?).getD n)
  else Char.ofNat n

/-- The value of a digit in base 10 or 16. -/
def digitValue? (hex : Bool) (c : Char) : Option Nat :=
  if hex then hexValue? c else if c.isDigit then hexValue? c else none

/-- A numeric reference after its digits: the pieces it gives and the rest of the text. -/
def numeric (hex : Bool) (cs : List Char) : Option (List Piece × List Char) :=
  let digits := cs.takeWhile fun c => (digitValue? hex c).isSome
  if digits.isEmpty then none
  else
    let code :=
      digits.foldl (fun n c => n * (if hex then 16 else 10) + (digitValue? hex c).getD 0) 0
    let after := cs.drop digits.length
    let (closed, rest) := match after with
      | ';' :: rest => (true, rest)
      | rest => (false, rest)
    let value := [Piece.char (charOfCode code)]
    some (if closed && !isFaultyCode code then value else .fault :: value, rest)

/-- The longest name at the front of a text that is a reference without semicolon, given the
letters and digits there with the longest candidates first. -/
def bareName? : Nat → List Char → Option (Named × Nat)
  | 0, _ => none
  | n + 1, run =>
    match reference? (run.take (n + 1)) with
    | some named => if named.bare then some (named, n + 1) else bareName? n run
    | none => bareName? n run

/-- Whether a name of a reference starts with the given letters and digits. -/
def startsName (run : List Char) : Bool := table.any fun name _ => run.isPrefixOf name.toList

/-- The pieces and the rest of a text after the characters `read`, when the reading of a name has
gone on through `extra` to the text `after`. The reading looks one character ahead, and a carriage
return met so is a line end of its own after `extra`, and none at all where `extra` is empty. -/
def lookedAhead (read : List Char) (extra : List Char) (after : List Char) :
    Option (List Piece × List Char) :=
  match after with
  | '\r' :: rest =>
    let back := if extra.isEmpty then [] else extra ++ ['\n']
    some ((read ++ back).map Piece.char, rest)
  | _ => none

/-- A reference by name right after its ampersand, which is followed by the letters and digits
`run` and by `after`. -/
def byName (inAttribute : Bool) (run after : List Char) : Option (List Piece × List Char) :=
  let unread := if run.isEmpty then none else lookedAhead ['&'] run after
  let whole := match after with
    | ';' :: rest => (reference? run).map fun named => (named.chars, rest)
    | _ => none
  match whole with
  | some (chars, rest) => some ((lookedAhead chars [] rest).getD (chars.map Piece.char, rest))
  | none =>
    match bareName? (min run.length 32) run with
    | none => unread
    | some (named, n) =>
      let extra := run.drop n
      let blocked := inAttribute && (!extra.isEmpty || after.head? == some '=')
      if blocked then unread
      else
        let ahead := if extra.isEmpty || startsName run then lookedAhead named.chars extra after
          else none
        some (ahead.getD (named.chars.map Piece.char, extra ++ after))

/-- A reference right after its ampersand: the pieces it gives and the rest of the text, or
`none` where no reference stands. -/
def reference (inAttribute : Bool) : List Char → Option (List Piece × List Char)
  | '#' :: 'x' :: rest => some ((numeric true rest).getD ([.fault, .char '&'], '#' :: 'x' :: rest))
  | '#' :: 'X' :: rest => some ((numeric true rest).getD ([.fault, .char '&'], '#' :: 'X' :: rest))
  | '#' :: rest => some ((numeric false rest).getD ([.fault, .char '&'], '#' :: rest))
  | cs => byName inAttribute (cs.takeWhile isWordChar) (cs.dropWhile isWordChar)

/-- The pieces of a text whose references are replaced, on top of the pieces `acc` found so far,
last piece first. The number bounds the length of the text. -/
def decodeOnto (inAttribute : Bool) : Nat → List Char → List Piece → List Piece
  | 0, _, acc => acc
  | _ + 1, [], acc => acc
  | n + 1, '&' :: rest, acc =>
    match reference inAttribute rest with
    | some (found, rest') => decodeOnto inAttribute n rest' (found.reverse ++ acc)
    | none => decodeOnto inAttribute n rest (.char '&' :: acc)
  | n + 1, '\r' :: '\n' :: rest, acc => decodeOnto inAttribute n rest (.char '\n' :: acc)
  | n + 1, '\r' :: rest, acc => decodeOnto inAttribute n rest (.char '\n' :: acc)
  | n + 1, c :: rest, acc => decodeOnto inAttribute n rest (.char c :: acc)

/-- The pieces of a text of the page, its references replaced. -/
def decode (cs : List Char) : List Piece :=
  (decodeOnto false cs.length cs []).reverse

/-- The value of an attribute, its references replaced. -/
def decodeAttribute (cs : List Char) : List Char :=
  (decodeOnto true cs.length cs []).reverse.filterMap fun
    | .char c => some c
    | .fault => none

end PageCrawl.Html.CharRef
