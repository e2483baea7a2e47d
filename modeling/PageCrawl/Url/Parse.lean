import PageCrawl.Url.Basic

/-!
# Reading addresses

`Url.parse` reads an address as browsers do: blanks around it and line breaks in it do not count,
backslashes stand for slashes where the scheme has a host, any number of slashes may follow it
there, and dots are taken out of the path.

The parts are read from left to right, and the first of them that cannot be read is the fault.
-/

namespace PageCrawl.Url

/-- The text of an address without blanks and controls around it, and without tabs and line breaks
in it. -/
def stripped (cs : List Char) : List Char :=
  let outer (c : Char) : Bool := c.toNat ≤ 0x20
  ((cs.dropWhile outer).reverse.dropWhile outer).reverse.filter
    fun c => !(c == '\t' || c == '\n' || c == '\r')

/-- Whether a character separates the parts of a path. -/
def isSlash (special : Bool) (c : Char) : Bool := c == '/' || (special && c == '\\')

/-- Whether a character ends the host and what belongs to it. -/
def endsAuthority (special : Bool) (c : Char) : Bool := isSlash special c || c == '?' || c == '#'

/-- The scheme at the front of an address, in lower case, and what follows its colon. -/
def takeScheme (cs : List Char) : Option (String × List Char) :=
  let isPart (c : Char) : Bool := c.isAlphanum || c == '+' || c == '-' || c == '.'
  match cs.dropWhile isPart with
  | ':' :: rest =>
    if cs.head?.any Char.isAlpha then
      some (String.ofList ((cs.takeWhile isPart).map Char.toLower), rest)
    else none
  | _ => none

/-! ## Host and port -/

/-- Splits at the last occurrence of a character. -/
def splitAtLast (mark : Char) (cs : List Char) : Option (List Char × List Char) :=
  if cs.contains mark then
    let after := (cs.reverse.takeWhile (· != mark)).reverse
    some (cs.take (cs.length - after.length - 1), after)
  else none

/-- Reads name and password before a host. -/
def takeCredentials (special : Bool) (cs : List Char) :
    Except UrlFault (String × String × List Char) :=
  let written (cs : List Char) : String :=
    String.ofList (Percent.encode Percent.inCredentials cs)
  let zone := cs.takeWhile fun c => !endsAuthority special c
  match splitAtLast '@' zone with
  | none => .ok ("", "", cs)
  | some (info, after) =>
    let rest := after ++ cs.drop zone.length
    if info.isEmpty then
      if rest.head?.any (endsAuthority special) then .error .emptyHost else .ok ("", "", rest)
    else
      let name := info.takeWhile (· != ':')
      .ok (written name, written (info.drop (name.length + 1)), rest)

/-- Splits off the text of a host. A colon ends it, but not in brackets. -/
def spanHost (special : Bool) : Bool → List Char → List Char × List Char
  | _, [] => ([], [])
  | inside, c :: cs =>
    if (c == ':' && !inside) || endsAuthority special c then ([], c :: cs)
    else
      let inside := if c == '[' then true else if c == ']' then false else inside
      let (host, rest) := spanHost special inside cs
      (c :: host, rest)

/-- Reads the digits of a port. -/
def portNumber : Nat → List Char → Except UrlFault Nat
  | n, [] => .ok n
  | n, c :: cs =>
    let m := n * 10 + (c.toNat - '0'.toNat)
    if m > 65535 then .error .badPort else portNumber m cs

/-- Reads a port behind its colon. -/
def takePort (scheme : String) (cs : List Char) : Except UrlFault (Option Nat × List Char) := do
  let digits := cs.takeWhile Char.isDigit
  let n ← portNumber 0 digits
  let rest := cs.dropWhile Char.isDigit
  if rest.head?.any fun c => !endsAuthority true c then throw .badPort
  let port := if digits.isEmpty || usualPort? scheme == some n then none else some n
  return (port, rest)

/-- Reads what stands between the slashes and the path into an address. -/
def takeAuthority (naming : Naming) (u : Url) (cs : List Char) :
    Except UrlFault (Url × List Char) := do
  let special := isSpecial u.scheme
  let (username, password, cs) ← takeCredentials special cs
  let (text, rest) := spanHost special false cs
  if special && text.isEmpty then throw .emptyHost
  let host ← if special then Host.read naming text else Host.readOpaque text
  let isEmpty := host == .name ""
  if isEmpty && rest.head? == some ':' then throw .emptyHost
  let (port, rest) ← match rest with
    | ':' :: rest => takePort u.scheme rest
    | rest => pure (none, rest)
  if isEmpty && !(username.isEmpty && password.isEmpty) then throw .emptyHost
  return ({ u with username, password, host := some host, port }, rest)

/-! ## Path, query and fragment -/

/-- Whether a segment stands for the directory that it is in. -/
def isSingleDot (s : String) : Bool := [".", "%2e", "%2E"].contains s

/-- Whether a segment stands for the directory above. -/
def isDoubleDot (s : String) : Bool :=
  ["..", "%2e%2e", "%2e%2E", "%2E%2e", "%2E%2E", "%2e.", "%2E.", ".%2e", ".%2E"].contains s

/-- Whether a segment is the letter of a drive and a colon, or a bar in its place. -/
def isDrive (s : String) : Bool :=
  match s.toList with
  | [c, m] => c.isAlpha && (m == ':' || m == '|')
  | _ => false

/-- The segments before the last one; the letter of a drive stays. -/
def shortened (file : Bool) (segments : List String) : List String :=
  match segments with
  | [s] => if file && isDrive s then [s] else []
  | segments => segments.dropLast

/-- Puts segments behind others, going up where they say so. -/
def follow (file : Bool) : List String → List String → List String
  | before, [] => before
  | before, s :: rest =>
    if isDoubleDot s then
      let before := shortened file before
      follow file (if rest.isEmpty then before ++ [""] else before) rest
    else if isSingleDot s then follow file (if rest.isEmpty then before ++ [""] else before) rest
    else
      let s := if file && before.isEmpty && isDrive s then
          String.ofList [s.toList.headD ' ', ':']
        else s
      follow file (before ++ [s]) rest

/-- The part of a text before its query. -/
def pathZone (cs : List Char) : List Char := cs.takeWhile fun c => !(c == '?' || c == '#')

/-- What follows the path. -/
def afterPath (cs : List Char) : List Char := cs.dropWhile fun c => !(c == '?' || c == '#')

/-- Reads segments behind others. -/
def readSegments (scheme : String) (before : List String) (cs : List Char) : List String :=
  let written (part : List Char) : String := String.ofList (Percent.encode Percent.inPath part)
  let file := scheme == "file"
  let list := follow file before ((Text.split (isSlash (isSpecial scheme)) cs).map written)
  if file && 1 < list.length then
    let rest := list.dropWhile (·.isEmpty)
    if rest.isEmpty then [""] else rest
  else list

/-- Reads query and fragment into an address. -/
def readTail (u : Url) (cs : List Char) : Url :=
  let (query, cs) := match cs with
    | '?' :: cs => (some (cs.takeWhile (· != '#')), cs.dropWhile (· != '#'))
    | cs => (none, cs)
  let fragment := match cs with
    | '#' :: cs => some cs
    | _ => none
  { u with
    query := query.map fun q =>
      String.ofList (Percent.encode (Percent.inQuery (isSpecial u.scheme)) q)
    fragment := fragment.map fun f => String.ofList (Percent.encode Percent.inFragment f) }

/-- Reads what follows the host into an address. -/
def readRest (u : Url) (cs : List Char) : Url :=
  let special := isSpecial u.scheme
  let zone := pathZone cs
  let list :=
    if zone.isEmpty then if special then [""] else []
    else
      let zone := if zone.head?.any (isSlash special) then zone.drop 1 else zone
      readSegments u.scheme [] zone
  readTail { u with path := .segments list } (afterPath cs)

/-! ## Addresses -/

/-- Reads an address of a file behind its colon. -/
def readFile (naming : Naming) (cs : List Char) : Except UrlFault Url :=
  let u : Url := { scheme := "file", host := some (.name "") }
  match cs with
  | a :: b :: rest =>
    if isSlash true a && isSlash true b then
      let text := rest.takeWhile fun c => !endsAuthority true c
      if text.isEmpty || isDrive (String.ofList text) then .ok (readRest u rest)
      else do
        let host ← Host.read naming text
        let host := if host == .name "localhost" then .name "" else host
        return readRest { u with host := some host } (rest.drop text.length)
    else .ok (readRest u cs)
  | cs => .ok (readRest u cs)

/-- Reads an address whose scheme is known. -/
def readScheme (naming : Naming) (scheme : String) (cs : List Char) : Except UrlFault Url :=
  let u : Url := { scheme }
  if scheme == "file" then readFile naming cs
  else if isSpecial scheme then do
    let (u, cs) ← takeAuthority naming u (cs.dropWhile (isSlash true))
    return readRest u cs
  else
    match cs with
    | '/' :: '/' :: cs => do
      let (u, cs) ← takeAuthority naming u cs
      return readRest u cs
    | '/' :: _ => .ok (readRest u cs)
    | cs =>
      let text := String.ofList (Percent.encode Percent.isControl (pathZone cs))
      .ok (readTail { u with path := .plain text } (afterPath cs))

/-- Reads an address. -/
def parse (naming : Naming) (s : String) : Except UrlFault Url :=
  match takeScheme (stripped s.toList) with
  | some (scheme, rest) => readScheme naming scheme rest
  | none => .error .noBase

end PageCrawl.Url
