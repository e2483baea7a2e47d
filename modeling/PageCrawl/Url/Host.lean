import PageCrawl.Url.Domain
import PageCrawl.Url.Percent

/-!
# Hosts

The host of an address: a name, or a number of 32 or 128 bits. A name whose last part is a number
has to be one of the ways to write a number of 32 bits; a number of 128 bits stands in brackets.

Names may be of any script, and are asked for in ASCII. How they are written there is laid down in
tables that are no part of this program: addresses are read with any `Naming`.
-/

namespace PageCrawl

open Text Url

/-- What is wrong with an address. -/
inductive UrlFault
  | noBase
  | opaqueBase
  | emptyHost
  | badPort
  | badName
  | badCharacter
  | badV4
  | badV6
deriving Repr, DecidableEq, Inhabited

namespace UrlFault

/-- The fault as a text. -/
def display : UrlFault → String
  | .noBase => "relative URL without a base"
  | .opaqueBase => "relative URL with a cannot-be-a-base base"
  | .emptyHost => "empty host"
  | .badPort => "invalid port number"
  | .badName => "invalid international domain name"
  | .badCharacter => "invalid domain character"
  | .badV4 => "invalid IPv4 address"
  | .badV6 => "invalid IPv6 address"

end UrlFault

/-- How the names of hosts are written in ASCII; `none` for a text that is no name. -/
abbrev Naming := List Char → Option (List Char)

/-- The host of an address. -/
inductive Host
  | name (s : String)
  | v4 (n : Nat)
  /-- The eight groups of 16 bits. -/
  | v6 (groups : List Nat)
deriving Repr, DecidableEq, Inhabited

namespace Host

/-! ## Numbers of 32 bits -/

/-- Reads a part of a number: decimal, octal behind a zero, hexadecimal behind `0x`. -/
def readPart (cs : List Char) : Option Nat :=
  let value (base : Nat) (digits : List Char) : Option Nat :=
    digits.foldlM (fun n c => do
      let d ← Percent.hexValue? c
      guard (d < base)
      return n * base + d) 0
  match cs with
  | [] => none
  | '0' :: 'x' :: rest | '0' :: 'X' :: rest => value 16 rest
  | '0' :: c :: rest => value 8 (c :: rest)
  | cs => value 10 cs

/-- Whether the last part of a name is a number. -/
def endsInNumber (cs : List Char) : Bool :=
  let parts := Domain.labels cs
  let last? := if parts.getLast? == some [] then parts.dropLast.getLast? else parts.getLast?
  match last? with
  | none => false
  | some last => (!last.isEmpty && last.all Char.isDigit) || (readPart last).isSome

/-- Reads a number of at most four parts, of which the last may fill up the bytes of the ones that
are left out. -/
def readV4 (cs : List Char) : Option Nat := do
  let parts := Domain.labels cs
  let parts := if parts.getLast? == some [] then parts.dropLast else parts
  guard (parts.length ≤ 4)
  let numbers ← parts.mapM readPart
  let last ← numbers.getLast?
  let others := numbers.dropLast
  guard (others.all (· ≤ 255) && last < Nat.pow 256 (4 - others.length))
  return others.foldl (fun n b => n * 256 + b) 0 * Nat.pow 256 (4 - others.length) + last

/-- A number of 32 bits as four decimal numbers. -/
def writtenV4 (n : Nat) : String :=
  String.intercalate "."
    ([n / 16777216, n / 65536 % 256, n / 256 % 256, n % 256].map Nat.repr)

/-! ## Numbers of 128 bits -/

/-- Reads one to four hexadecimal digits. -/
def readGroup (cs : List Char) : Option Nat := do
  guard (!cs.isEmpty && cs.length ≤ 4)
  cs.foldlM (fun n c => do return n * 16 + (← Percent.hexValue? c)) 0

/-- Reads four decimal numbers of one byte, without zeros in front, as two groups. -/
def readDotted (cs : List Char) : Option (List Nat) := do
  let bytes ← (Domain.labels cs).mapM fun part => do
    guard (!part.isEmpty && part.length ≤ 3 && part.all Char.isDigit)
    guard (part.length == 1 || part.head? != some '0')
    let n := part.foldl (fun n c => n * 10 + (c.toNat - '0'.toNat)) 0
    guard (n ≤ 255)
    return n
  match bytes with
  | [a, b, c, d] => return [a * 256 + b, c * 256 + d]
  | _ => none

/-- Reads groups. The last one may be dotted where that is allowed. -/
def readGroups (dotted : Bool) : List (List Char) → Option (List Nat)
  | [] => some []
  | [last] => if dotted && last.contains '.' then readDotted last else (readGroup last).map ([·])
  | g :: gs => do return (← readGroup g) :: (← readGroups dotted gs)

/-- The text before the first two colons in a row, and the one behind them. -/
def splitAtGap : List Char → Option (List Char × List Char)
  | [] => none
  | c :: cs =>
    match c, cs with
    | ':', ':' :: rest => some ([], rest)
    | _, _ => (splitAtGap cs).map fun (before, after) => (c :: before, after)

/-- Reads eight groups, or fewer with a gap of two colons that stands for zeros. -/
def readV6 (cs : List Char) : Option (List Nat) := do
  let part (dotted : Bool) (cs : List Char) : Option (List Nat) :=
    if cs.isEmpty then some [] else readGroups dotted (split (· == ':') cs)
  match splitAtGap cs with
  | none =>
    let all ← part true cs
    guard (all.length == 8)
    return all
  | some (before, after) =>
    let front ← part false before
    let back ← part true after
    guard (front.length + back.length ≤ 7)
    return front ++ List.replicate (8 - front.length - back.length) 0 ++ back

/-- The lengths of the runs of zeros that begin at each place. -/
def zeroRuns : List Nat → List Nat
  | [] => []
  | n :: ns =>
    let runs := zeroRuns ns
    (if n == 0 then runs.headD 0 + 1 else 0) :: runs

/-- A number of 128 bits: groups in hexadecimal, the first of the longest runs of zeros as a gap. -/
def writtenV6 (ns : List Nat) : String :=
  let written (ns : List Nat) : String :=
    String.intercalate ":" (ns.map fun n => String.ofList (Nat.toDigits 16 n))
  let runs := zeroRuns ns
  let longest := runs.foldl max 0
  if longest < 2 then written ns
  else
    let start := runs.findIdx (· == longest)
    written (ns.take start) ++ "::" ++ written (ns.drop (start + longest))

/-! ## Hosts -/

/-- The host as it stands in an address. -/
def written : Host → String
  | .name s => s
  | .v4 n => writtenV4 n
  | .v6 groups => "[" ++ writtenV6 groups ++ "]"

/-- Reads the text in brackets, the first of which is known to be there. -/
def readBracketed (cs : List Char) : Except UrlFault Host :=
  match cs.reverse with
  | ']' :: inside =>
    match readV6 (inside.reverse.drop 1) with
    | some groups => .ok (.v6 groups)
    | none => .error .badV6
  | _ => .error .badV6

/-- Reads the host of an address whose hosts are looked up. -/
def read (naming : Naming) (cs : List Char) : Except UrlFault Host :=
  if cs.head? == some '[' then readBracketed cs
  else
    match (Utf8.decode? (Percent.decode cs)).bind naming with
    | none => .error .badName
    | some [] => .error .emptyHost
    | some plain =>
      if endsInNumber plain then
        match readV4 plain with
        | some n => .ok (.v4 n)
        | none => .error .badV4
      else .ok (.name (String.ofList plain))

/-- Reads the host of another address. -/
def readOpaque (cs : List Char) : Except UrlFault Host :=
  if cs.head? == some '[' then readBracketed cs
  else if cs.any fun c => c.toNat == 0 ||
      ['\t', '\n', '\r', ' ', '#', '/', ':', '<', '>', '?', '@', '[', '\\', ']', '^',
        '|'].contains c
  then .error .badCharacter
  else .ok (.name (String.ofList (Percent.encode Percent.isControl cs)))

end Host

end PageCrawl
