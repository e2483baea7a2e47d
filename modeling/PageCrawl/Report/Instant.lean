import PageCrawl.Text.Blank

/-!
# Instants

A point in time as date and time of day in UTC, to the nanosecond. `Instant.read` takes the usual
ways to write one: date and time with a letter or a blank between them, parts with fewer digits
than usual, an offset from UTC that is subtracted. `Instant.written` has one way for each instant:
as many digits of the second as it takes in groups of three, and a sign on years that have not four
digits.

A day has a second 60 wherever a minute has one, since leap seconds are not known in advance; it
is a second 59 with a thousand million nanoseconds or more.
-/

namespace PageCrawl

open Text

/-- A day of the Gregorian calendar. -/
structure Date where
  year : Int
  month : Nat
  day : Nat
deriving Repr, DecidableEq, Inhabited

namespace Date

/-- Whether a year has a 29th of February. -/
def isLeap (year : Int) : Bool := year % 4 == 0 && (year % 100 != 0 || year % 400 == 0)

/-- The number of days of a month. -/
def daysIn (year : Int) (month : Nat) : Nat :=
  if month == 2 then (if isLeap year then 29 else 28)
  else if [4, 6, 9, 11].contains month then 30
  else 31

/-- The first and the last year there is. -/
def firstYear : Int := -262143

@[inherit_doc firstYear]
def lastYear : Int := 262142

/-- Whether the calendar has this day. -/
def isValid (d : Date) : Bool :=
  firstYear ≤ d.year && d.year ≤ lastYear && 1 ≤ d.month && d.month ≤ 12
    && 1 ≤ d.day && d.day ≤ daysIn d.year d.month

/-- The next day. -/
def next (d : Date) : Date :=
  if d.day < daysIn d.year d.month then { d with day := d.day + 1 }
  else if d.month < 12 then ⟨d.year, d.month + 1, 1⟩
  else ⟨d.year + 1, 1, 1⟩

/-- The day before. -/
def previous (d : Date) : Date :=
  if 1 < d.day then { d with day := d.day - 1 }
  else if 1 < d.month then ⟨d.year, d.month - 1, daysIn d.year (d.month - 1)⟩
  else ⟨d.year - 1, 12, 31⟩

end Date

/-- A point in time, in UTC. -/
structure Instant where
  date : Date
  hour : Nat
  minute : Nat
  second : Nat
  /-- The nanoseconds of the second. In a second 60 they begin again. -/
  nano : Nat
deriving Repr, DecidableEq, Inhabited

namespace Instant

/-! ## Counting -/

/-- The day that lies so many days behind the first of March of the year 0. Years are counted from
March on, so that the 29th of February is the last day of one. -/
def dateOfDays (days : Nat) : Date :=
  let era := days / 146097
  let ofEra := days % 146097
  let yearOfEra := (ofEra - ofEra / 1460 + ofEra / 36524 - ofEra / 146096) / 365
  let ofYear := ofEra - (365 * yearOfEra + yearOfEra / 4 - yearOfEra / 100)
  let monthFromMarch := (5 * ofYear + 2) / 153
  let day := ofYear - (153 * monthFromMarch + 2) / 5 + 1
  let month := if monthFromMarch < 10 then monthFromMarch + 3 else monthFromMarch - 9
  let year := yearOfEra + era * 400 + (if month ≤ 2 then 1 else 0)
  ⟨year, month, day⟩

/-- The days from the first of March of the year 0 to the beginning of 1970. -/
def daysToEpoch : Nat := 719468

/-- The instant so many nanoseconds behind the beginning of 1970. -/
def ofNanos (n : Nat) : Instant :=
  let seconds := n / 1000000000
  let ofDay := seconds % 86400
  ⟨dateOfDays (daysToEpoch + seconds / 86400), ofDay / 3600, ofDay / 60 % 60, ofDay % 60,
    n % 1000000000⟩

/-! ## Writing -/

/-- A number with zeros in front, up to the given count of digits. -/
def padded (width n : Nat) : List Char :=
  let digits := Nat.toDigits 10 n
  List.replicate (width - digits.length) '0' ++ digits

/-- A year: four digits, or a sign and at least four digits. -/
def writtenYear (y : Int) : List Char :=
  if 0 ≤ y && y ≤ 9999 then padded 4 y.toNat
  else (if y < 0 then '-' else '+') :: padded 4 y.natAbs

/-- The fraction of a second: nothing, or three, six or nine digits behind a point. -/
def writtenNano (n : Nat) : List Char :=
  if n == 0 then []
  else if n % 1000000 == 0 then '.' :: padded 3 (n / 1000000)
  else if n % 1000 == 0 then '.' :: padded 6 (n / 1000)
  else '.' :: padded 9 n

/-- An instant as text. -/
def written (t : Instant) : List Char :=
  writtenYear t.date.year ++ '-' :: padded 2 t.date.month ++ '-' :: padded 2 t.date.day
    ++ 'T' :: padded 2 t.hour ++ ':' :: padded 2 t.minute ++ ':' :: padded 2 t.second
    ++ writtenNano t.nano ++ ['Z']

/-! ## Reading -/

/-- Takes something from the front of a text. -/
abbrev Taking (α : Type) := List Char → Option (α × List Char)

/-- What follows the blanks at the front. -/
def afterBlanks (cs : List Char) : List Char := cs.dropWhile isBlank

/-- The value of digits. -/
def digitsValue (cs : List Char) : Nat :=
  cs.foldl (fun n c => n * 10 + (c.toNat - '0'.toNat)) 0

/-- Takes at least one digit, and at most as many as told. -/
def takeDigits (most : Nat) : Taking (List Char) := fun cs =>
  let digits := (cs.take most).takeWhile Char.isDigit
  if digits.isEmpty then none else some (digits, cs.drop digits.length)

/-- Takes a number of at most the given count of digits, with blanks in front, that lies between
two bounds. -/
def takeNumber (width low high : Nat) : Taking Nat := fun cs => do
  let (digits, cs) ← takeDigits width (afterBlanks cs)
  let n := digitsValue digits
  guard (low ≤ n && n ≤ high)
  return (n, cs)

/-- Takes a year: four digits at most, or any count of them behind a sign. -/
def takeYear : Taking Int := fun cs =>
  match afterBlanks cs with
  | '-' :: cs => do
    let (digits, cs) ← takeDigits cs.length cs
    return (-(digitsValue digits : Int), cs)
  | '+' :: cs => do
    let (digits, cs) ← takeDigits cs.length cs
    return ((digitsValue digits : Int), cs)
  | cs => do
    let (digits, cs) ← takeDigits 4 cs
    return ((digitsValue digits : Int), cs)

/-- Takes a mark between two numbers, with blanks in front. -/
def takeMark (mark : Char) : Taking Unit := fun cs =>
  match afterBlanks cs with
  | c :: cs => if c == mark then some ((), cs) else none
  | [] => none

/-- Takes the mark between date and time. -/
def takeSeparator : Taking Unit
  | c :: cs => if c == 't' || c == 'T' || c == ' ' then some ((), cs) else none
  | [] => none

/-- Takes the fraction of a second, if there is one. Digits behind the ninth do not count. -/
def takeNano : Taking Nat
  | '.' :: cs => do
    let (digits, cs) ← takeDigits 9 cs
    return (digitsValue digits * Nat.pow 10 (9 - digits.length), cs.dropWhile Char.isDigit)
  | cs => some (0, cs)

/-- Takes two digits. -/
def takePair : Taking Nat
  | a :: b :: cs =>
    if a.isDigit && b.isDigit then some (digitsValue [a, b], cs) else none
  | _ => none

/-- Takes an offset from UTC in minutes: a letter that says there is none, or a sign, two digits
of hours and two of minutes, with colons and blanks between them. -/
def takeOffset : Taking Int := fun cs =>
  let utc := cs.take 3
  if utc.map Char.toUpper == ['U', 'T', 'C'] then some (0, cs.drop 3)
  else
    match cs with
    | [] => none
    | c :: cs =>
      if c == 'Z' || c == 'z' then some (0, cs)
      else if c == '+' || c == '-' || c == '\u2212' then do
        let (hours, cs) ← takePair cs
        let (minutes, cs) ← takePair (cs.dropWhile fun c => c == ':' || isBlank c)
        guard (minutes < 60 && hours < 24)
        let offset : Int := hours * 60 + minutes
        return (if c == '+' then offset else -offset, cs)
      else none

/-- The instant at which clocks that are ahead of UTC by an offset in minutes show a time. -/
def shifted (t : Instant) (offset : Int) : Instant :=
  let minutes : Int := (t.hour * 60 + t.minute : Nat) - offset
  let date :=
    if minutes < 0 then t.date.previous
    else if minutes < 1440 then t.date
    else t.date.next
  let ofDay := (minutes % 1440).toNat
  { t with date, hour := ofDay / 60, minute := ofDay % 60 }

/-- The instant that a text shows. -/
def read (cs : List Char) : Option Instant := do
  let (year, cs) ← takeYear cs
  let ((), cs) ← takeMark '-' cs
  let (month, cs) ← takeNumber 2 1 12 cs
  let ((), cs) ← takeMark '-' cs
  let (day, cs) ← takeNumber 2 1 31 cs
  let ((), cs) ← takeSeparator cs
  let (hour, cs) ← takeNumber 2 0 23 cs
  let ((), cs) ← takeMark ':' cs
  let (minute, cs) ← takeNumber 2 0 59 cs
  let ((), cs) ← takeMark ':' cs
  let (second, cs) ← takeNumber 2 0 60 cs
  let (nano, cs) ← takeNano cs
  let (offset, cs) ← takeOffset (afterBlanks cs)
  guard (afterBlanks cs).isEmpty
  let date : Date := ⟨year, month, day⟩
  guard date.isValid
  let t := shifted ⟨date, hour, minute, second, nano⟩ offset
  guard t.date.isValid
  return t

end Instant

end PageCrawl
