import PageCrawl.Text.Utf8

/-!
# Percent escapes

Characters that may not stand in a part of an address are written as the bytes of their UTF-8 form,
each as a percent sign and two hexadecimal digits. Characters beyond ASCII are always written so,
and control characters too; which others are depends on the part.
-/

namespace PageCrawl.Url

open Text

namespace Percent

/-- The upper-case hexadecimal digit of a number below sixteen. -/
def hexDigit (n : Nat) : Char :=
  if n < 10 then Char.ofNat ('0'.toNat + n) else Char.ofNat ('A'.toNat + (n - 10))

/-- The value of a hexadecimal digit. -/
def hexValue? (c : Char) : Option Nat :=
  if '0' ≤ c && c ≤ '9' then some (c.toNat - '0'.toNat)
  else if 'a' ≤ c && c ≤ 'f' then some (c.toNat - 'a'.toNat + 10)
  else if 'A' ≤ c && c ≤ 'F' then some (c.toNat - 'A'.toNat + 10)
  else none

/-- The escape of a byte. -/
def escapeByte (b : UInt8) : List Char :=
  ['%', hexDigit (b.toNat / 16), hexDigit (b.toNat % 16)]

/-- The escapes of the bytes of a character. -/
def escapeChar (c : Char) : List Char := (String.utf8EncodeChar c).flatMap escapeByte

/-- Characters that are escaped in every part. -/
def isControl (c : Char) : Bool := c.toNat < 0x20 || 0x7F ≤ c.toNat

/-- Whether a character is escaped in a fragment. -/
def inFragment (c : Char) : Bool := isControl c || [' ', '"', '<', '>', '\x60'].contains c

/-- Whether a character is escaped in a path. -/
def inPath (c : Char) : Bool := inFragment c || ['#', '?', '\x7b', '\x7d'].contains c

/-- Whether a character is escaped in a name or password. -/
def inCredentials (c : Char) : Bool :=
  inPath c || ['/', ':', ';', '=', '@', '[', '\\', ']', '^', '|'].contains c

/-- Whether a character is escaped in a query. -/
def inQuery (special : Bool) (c : Char) : Bool :=
  isControl c || [' ', '"', '#', '<', '>'].contains c || (special && c == '\'')

/-- A text with some characters escaped. -/
def encode (escapes : Char → Bool) (cs : List Char) : List Char :=
  cs.flatMap fun c => if escapes c then escapeChar c else [c]

/-- The bytes of a text, with its escapes replaced by the bytes that they stand for. A percent sign
without two digits behind it stands for itself. `skip` counts digits that were read before. -/
def decodeAfter : Nat → List Char → List UInt8
  | _, [] => []
  | k + 1, _ :: cs => decodeAfter k cs
  | 0, c :: cs =>
    let plain := String.utf8EncodeChar c ++ decodeAfter 0 cs
    if c == '%' then
      match cs with
      | a :: b :: _ =>
        match hexValue? a, hexValue? b with
        | some x, some y => UInt8.ofNat (x * 16 + y) :: decodeAfter 2 cs
        | _, _ => plain
      | _ => plain
    else plain

/-- The bytes that a text with escapes stands for. -/
def decode (cs : List Char) : List UInt8 := decodeAfter 0 cs

end Percent

end PageCrawl.Url
