import PageCrawl.Text.Blank

/-!
# Whole numbers in settings

A setting that is a number is written in decimal digits, with an optional plus sign and blanks
around it, and must fit into 64 bits. `Decimal.read` says what is wrong with any other text; the
first fault from the left counts, and a character that is no digit before a number that is too
large.
-/

namespace PageCrawl

/-- What is wrong with a text that should be a whole number. -/
inductive DecimalFault
  | empty
  | invalidDigit
  | tooLarge
deriving Repr, DecidableEq, Inhabited

namespace DecimalFault

/-- The fault as a text. -/
def display : DecimalFault → String
  | .empty => "cannot parse integer from empty string"
  | .invalidDigit => "invalid digit found in string"
  | .tooLarge => "number too large to fit in target type"

end DecimalFault

namespace Decimal

/-- The largest number of 64 bits. -/
def maximum : Nat := Nat.pow 2 64 - 1

/-- Reads digits behind a number. -/
def digits : Nat → List Char → Except DecimalFault Nat
  | n, [] => .ok n
  | n, c :: cs =>
    if !c.isDigit then .error .invalidDigit
    else
      let m := n * 10 + (c.toNat - '0'.toNat)
      if m > maximum then .error .tooLarge else digits m cs

/-- Reads a number without blanks around it. -/
def readTrimmed : List Char → Except DecimalFault Nat
  | [] => .error .empty
  | '+' :: [] => .error .invalidDigit
  | '+' :: cs => digits 0 cs
  | cs => digits 0 cs

/-- Reads a number. -/
def read (s : String) : Except DecimalFault Nat := readTrimmed (Text.trim s.toList)

end Decimal

end PageCrawl
