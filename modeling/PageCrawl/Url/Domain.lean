import PageCrawl.Text.Split
import PageCrawl.Url.Punycode

/-!
# Domain names

A domain name of any script as the ASCII name that is looked up. Letters are made lower case,
compatibility forms are replaced by what they stand for, and labels that are left with characters
beyond ASCII are written in Punycode behind `xn--`. A label that is given in that form has to be
one that this could have written.

`toAscii` is one `Naming` among others. Its tables hold what names of Latin, Greek and Cyrillic
script and full-width forms need; a character of another script stands for itself, and letters are
not put together with their accents.
-/

namespace PageCrawl.Url.Domain

/-- ASCII characters that no name may hold. -/
def isForbidden (c : Char) : Bool :=
  c.toNat ≤ 0x20 || c == '\x7f'
    || ['#', '%', '/', ':', '<', '>', '?', '@', '[', '\\', ']', '^', '|'].contains c

/-- Ranges of code points that stand for nothing in a name. -/
def ignored : List (Nat × Nat) :=
  [(0xAD, 0xAD), (0x34F, 0x34F), (0x200B, 0x200B), (0x2060, 0x2060), (0x2064, 0x2064),
   (0xFE00, 0xFE0F), (0xFEFF, 0xFEFF), (0xE0100, 0xE01EF)]

/-- Ranges of code points that no name may hold: controls, blanks, marks of direction, private and
unassigned ones, and the one that stands for broken text. -/
def forbidden : List (Nat × Nat) :=
  [(0x80, 0xA0), (0xA8, 0xA8), (0xAF, 0xAF), (0xB4, 0xB4), (0xB8, 0xB8), (0x1680, 0x1680),
   (0x2000, 0x200A), (0x200C, 0x200F), (0x2028, 0x202F), (0x205F, 0x205F), (0x2061, 0x2063),
   (0x2065, 0x206F), (0x2FF0, 0x2FFF), (0x3000, 0x3000), (0xD800, 0xF8FF), (0xFDD0, 0xFDEF),
   (0xFFF0, 0xFFFF), (0x1FFFE, 0x1FFFF), (0x2FFFE, 0x2FFFF), (0xE0000, 0xE00FF),
   (0xE01F0, 0x10FFFF)]

/-- Code points with the texts that they stand for. -/
def replaced : List (Nat × String) :=
  [(0xAA, "a"), (0xB2, "2"), (0xB3, "3"), (0xB5, "μ"), (0xB9, "1"), (0xBA, "o"), (0xBC, "1⁄4"),
   (0xBD, "1⁄2"), (0xBE, "3⁄4"), (0x130, "i̇"), (0x132, "ij"), (0x133, "ij"), (0x13F, "l·"),
   (0x140, "l·"), (0x149, "ʼn"), (0x178, "ÿ"), (0x17F, "s"), (0x386, "ά"), (0x38C, "ό"),
   (0x38E, "ύ"), (0x38F, "ώ"), (0x1E9E, "ß"), (0x2122, "tm"), (0x2126, "ω"), (0x212A, "k"),
   (0x212B, "å"), (0x3002, "."), (0xFB00, "ff"), (0xFB01, "fi"), (0xFB02, "fl"), (0xFF61, ".")]

/-- Ranges of capital letters, with the distance to the small ones. -/
def capitals : List (Nat × Nat × Nat) :=
  [(0xC0, 0xD6, 32), (0xD8, 0xDE, 32), (0x388, 0x38A, 37), (0x391, 0x3A1, 32),
   (0x3A3, 0x3AB, 32), (0x400, 0x40F, 80), (0x410, 0x42F, 32), (0x531, 0x556, 48)]

/-- Ranges in which capital and small letters alternate, the capital ones at even code points or
at odd ones. -/
def alternating : List (Nat × Nat × Nat) :=
  [(0x100, 0x137, 0), (0x139, 0x148, 1), (0x14A, 0x177, 0), (0x179, 0x17E, 1), (0x1CD, 0x1DC, 1),
   (0x1DE, 0x1EF, 0), (0x1F8, 0x21F, 0), (0x222, 0x233, 0), (0x3D8, 0x3EF, 0), (0x460, 0x481, 0),
   (0x48A, 0x4BF, 0), (0x4C1, 0x4CE, 1), (0x4D0, 0x52F, 0), (0x1E00, 0x1E95, 0),
   (0x1EA0, 0x1EFF, 0)]

/-- Whether a code point lies in one of the ranges. -/
def inRanges (ranges : List (Nat × Nat)) (n : Nat) : Bool :=
  ranges.any fun (low, high) => low ≤ n && n ≤ high

/-- What a character stands for in a name; `none` if no name may hold it. -/
def mapped (c : Char) : Option (List Char) :=
  let n := c.toNat
  if n < 0x80 then if isForbidden c then none else some [c.toLower]
  else if inRanges ignored n then some []
  else if 0xFF01 ≤ n && n ≤ 0xFF5E then
    let plain := Char.ofNat (n - 0xFEE0)
    if isForbidden plain then none else some [plain.toLower]
  else if inRanges forbidden n then none
  else
    match replaced.lookup n with
    | some text => some text.toList
    | none =>
      match capitals.find? fun (low, high, _) => low ≤ n && n ≤ high with
      | some (_, _, distance) => some [Char.ofNat (n + distance)]
      | none =>
        let isCapital := alternating.any fun (low, high, parity) =>
          low ≤ n && n ≤ high && n % 2 == parity
        some [if isCapital then Char.ofNat (n + 1) else c]

/-- Whether a character is a mark that cannot begin a label. -/
def isCombining (c : Char) : Bool :=
  inRanges [(0x300, 0x36F), (0x483, 0x489), (0x1AB0, 0x1AFF), (0x1DC0, 0x1DFF), (0x20D0, 0x20FF),
    (0xFE20, 0xFE2F)] c.toNat

/-- Whether a label with characters beyond ASCII may stand in a name. -/
def isLabel (cs : List Char) : Bool :=
  !cs.head?.any isCombining && cs.all fun c => mapped c == some [c]

/-- What announces Punycode. -/
def marker : List Char := ['x', 'n', '-', '-']

/-- The ASCII form of a label. -/
def asciiLabel (cs : List Char) : Option (List Char) :=
  if marker.isPrefixOf cs then do
    let decoded ← Punycode.decode? (cs.drop 4)
    guard (isLabel decoded && decoded.any fun c => 0x80 ≤ c.toNat)
    guard (cs.all fun c => c.toNat < 0x80)
    return cs
  else if cs.all fun c => c.toNat < 0x80 then some cs
  else if isLabel cs then some (marker ++ Punycode.encode cs)
  else none

/-- The labels of a name. -/
def labels (cs : List Char) : List (List Char) := Text.split (· == '.') cs

/-- The ASCII form of a name. -/
def toAscii (cs : List Char) : Option (List Char) := do
  let plain ← cs.mapM mapped
  let parts ← (labels plain.flatten).mapM asciiLabel
  return List.intercalate ['.'] parts

end PageCrawl.Url.Domain
