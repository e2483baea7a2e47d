import PageCrawl.Text.Blank
import PageCrawl.Text.Single

/-!
# Tokens of selectors

A selector is written in the tokens of style sheets. `Token.read` cuts a text into them, leaving
comments out; `Value.ofTokens` then folds every bracket and what it encloses into one value, so
that a reader of selectors never sees an unbalanced bracket except as a token of its own. A
bracket that is not closed ends with the text.

Nothing is refused here: text that makes no sense gives tokens that no selector uses.
-/

namespace PageCrawl.Selector

open PageCrawl.Text

/-- A number as it is written. -/
structure Numeral where
  /-- Whether a sign is written. -/
  signed : Bool
  value : Single
  /-- The value of a number without fraction and exponent, within 32 bits. -/
  int? : Option Int
deriving Repr, DecidableEq, Inhabited

/-- A token of a style sheet. -/
inductive Token
  | ident (name : String)
  | atKeyword (name : String)
  /-- `#` and a name that is no identifier. -/
  | hash (name : String)
  /-- `#` and an identifier. -/
  | idHash (name : String)
  | string (text : String)
  | url (text : String)
  | delim (c : Char)
  | number (n : Numeral)
  /-- A number before `%`; its value is a hundredth of what is written. -/
  | percentage (n : Numeral)
  | dimension (n : Numeral) (unit : String)
  | blank (text : String)
  | colon
  | semicolon
  | comma
  | includes
  | dashMatch
  | startsWith
  | endsWith
  | contains
  | openComment
  | closeComment
  /-- A name and its opening parenthesis. -/
  | function (name : String)
  | openParen
  | openSquare
  | openCurly
  /-- A `url(` that is not well formed. -/
  | badUrl (text : String)
  /-- A string that a line end breaks off. -/
  | badString (text : String)
  | closeParen
  | closeSquare
  | closeCurly
deriving Repr, DecidableEq, Inhabited

namespace Token

/-- Ends of lines. -/
def isLineEnd (c : Char) : Bool := c == '\n' || c == '\r' || c == '\x0c'

/-- Letters, digits and others that go on with a name. -/
def isNameChar (c : Char) : Bool :=
  c.isAlphanum || c == '_' || c == '-' || c == '\x00' || c.toNat ≥ 0x80

/-- Characters that start a name. -/
def isNameStart (c : Char) : Bool := c.isAlpha || c == '_' || c == '\x00' || c.toNat ≥ 0x80

/-- Whether a backslash at the front, given what follows it, escapes a character. -/
def escapes : List Char → Bool
  | c :: _ => !isLineEnd c
  | [] => true

/-- Whether a name starts here. -/
def startsName : List Char → Bool
  | '-' :: c :: _ => isNameStart c || c == '-' || c == '\\'
  | '\\' :: rest => escapes rest
  | c :: _ => isNameStart c
  | [] => false

/-- Digits of base 16. -/
def isHex (c : Char) : Bool :=
  c.isDigit || ('a' ≤ c && c ≤ 'f') || ('A' ≤ c && c ≤ 'F')

/-- The value of a digit in base 16. -/
def hexValue (c : Char) : Nat :=
  if c.isDigit then c.toNat - '0'.toNat else c.toLower.toNat - 'a'.toNat + 10

/-- The text after a line end at its front. -/
def dropLineEnd : List Char → List Char
  | '\r' :: '\n' :: rest => rest
  | c :: rest => if isLineEnd c then rest else c :: rest
  | [] => []

/-- The character that an escape stands for, right after its backslash, and the rest. -/
def escaped (cs : List Char) : Char × List Char :=
  match cs with
  | [] => ('\uFFFD', [])
  | '\x00' :: rest => ('\uFFFD', rest)
  | c :: rest =>
    if isHex c then
      let digits := (cs.takeWhile isHex).take 6
      let code := digits.foldl (fun n d => n * 16 + hexValue d) 0
      let rest := match cs.drop digits.length with
        | ' ' :: rest | '\t' :: rest => rest
        | rest => dropLineEnd rest
      let c := if code == 0 || !Nat.isValidChar code then '\uFFFD' else Char.ofNat code
      (c, rest)
    else (c, rest)

/-- NUL is replaced wherever it would stand in a text. -/
def replaceNul (c : Char) : Char := if c == '\x00' then '\uFFFD' else c

/-- Reads a name; its characters are put on top of `acc`, last one first. The number bounds the
length of the text. -/
def nameOnto : Nat → List Char → List Char → List Char × List Char
  | 0, acc, cs => (acc, cs)
  | _, acc, [] => (acc, [])
  | n + 1, acc, '\\' :: rest =>
    if escapes rest then
      let (c, rest) := escaped rest
      nameOnto n (c :: acc) rest
    else (acc, '\\' :: rest)
  | n + 1, acc, c :: rest =>
    if isNameChar c then nameOnto n (replaceNul c :: acc) rest else (acc, c :: rest)

/-- Reads a name. -/
def name (cs : List Char) : String × List Char :=
  let (acc, rest) := nameOnto (cs.length + 1) [] cs
  (String.ofList acc.reverse, rest)

/-- Reads a string after its opening quote. -/
def stringOnto (quote : Char) : Nat → List Char → List Char → Token × List Char
  | 0, acc, cs => (.string (String.ofList acc.reverse), cs)
  | _, acc, [] => (.string (String.ofList acc.reverse), [])
  | n + 1, acc, c :: rest =>
    if c == quote then (.string (String.ofList acc.reverse), rest)
    else if isLineEnd c then (.badString (String.ofList acc.reverse), c :: rest)
    else if c == '\\' then
      match rest with
      | [] => (.string (String.ofList acc.reverse), [])
      | d :: _ =>
        if isLineEnd d then stringOnto quote n acc (dropLineEnd rest)
        else
          let (c, rest) := escaped rest
          stringOnto quote n (c :: acc) rest
    else stringOnto quote n (replaceNul c :: acc) rest

/-- The rest of a malformed `url(`: the length of its text and what follows its end. -/
def badUrlEnd : Nat → Nat → List Char → Nat × List Char
  | 0, k, cs => (k, cs)
  | _, k, [] => (k, [])
  | _ + 1, k, ')' :: rest => (k, rest)
  | n + 1, k, '\\' :: ')' :: rest => badUrlEnd n (k + 2) rest
  | n + 1, k, '\\' :: '\\' :: rest => badUrlEnd n (k + 2) rest
  | n + 1, k, _ :: rest => badUrlEnd n (k + 1) rest

/-- A malformed `url(` whose text starts at `start` and is known to go on at `cs`. -/
def badUrlFrom (start cs : List Char) : Token × List Char :=
  let known := start.length - cs.length
  let (k, rest) := badUrlEnd cs.length known cs
  (.badUrl (String.ofList (start.take k)), rest)

/-- Controls other than blanks. -/
def isControl (c : Char) : Bool :=
  let n := c.toNat
  (1 ≤ n && n ≤ 8) || n == 0x0B || (0x0E ≤ n && n ≤ 0x1F) || n == 0x7F

/-- Reads the text of a `url(` that is not quoted. -/
def urlOnto (start : List Char) : Nat → List Char → List Char → Token × List Char
  | 0, acc, cs => (.url (String.ofList acc.reverse), cs)
  | _, acc, [] => (.url (String.ofList acc.reverse), [])
  | n + 1, acc, c :: rest =>
    if c == ')' then (.url (String.ofList acc.reverse), rest)
    else if isMarkupBlank c then
      match rest.dropWhile isMarkupBlank with
      | [] => (.url (String.ofList acc.reverse), [])
      | ')' :: rest => (.url (String.ofList acc.reverse), rest)
      | rest => badUrlFrom start (rest.drop 1)
    else if isControl c || c == '"' || c == '\'' || c == '(' then badUrlFrom start rest
    else if c == '\\' then
      if escapes rest then
        let (c, rest) := escaped rest
        urlOnto start n (c :: acc) rest
      else badUrlFrom start rest
    else urlOnto start n (replaceNul c :: acc) rest

/-- Reads what follows `url(`; `none` where the address is quoted, which makes it a function. -/
def url? (cs : List Char) : Option (Token × List Char) :=
  match cs.dropWhile isMarkupBlank with
  | [] => some (.url "", [])
  | ')' :: rest => some (.url "", rest)
  | c :: rest =>
    if c == '"' || c == '\'' then none
    else some (urlOnto (c :: rest) (rest.length + 1) [] (c :: rest))

/-- Reads a name that may be followed by a parenthesis. -/
def identLike (cs : List Char) : Token × List Char :=
  let (n, rest) := name cs
  match rest with
  | '(' :: rest =>
    if asciiLower n == "url" then (url? rest).getD (.function n, rest) else (.function n, rest)
  | rest => (.ident n, rest)

/-- Whether a number starts here, at a digit or at a point before a digit. -/
def startsNumber : List Char → Bool
  | '.' :: c :: _ => c.isDigit
  | c :: _ => c.isDigit
  | [] => false

/-- A sign and what follows it. -/
def signOf : List Char → Option Bool × List Char
  | '-' :: rest => (some true, rest)
  | '+' :: rest => (some false, rest)
  | rest => (none, rest)

/-- The value of decimal digits. -/
def digitsValue (ds : List Char) : Float :=
  ds.foldl (fun x d => x * 10 + Float.ofNat (d.toNat - '0'.toNat)) 0

/-- The value of the decimal digits after a point. -/
def fractionValue (ds : List Char) : Float :=
  (ds.foldl (fun (x, factor) d => (x + Float.ofNat (d.toNat - '0'.toNat) * factor, factor * 0.1))
    ((0 : Float), (0.1 : Float))).1

/-- The fraction at the front of a text, with its digits. -/
def fraction? : List Char → Option (List Char × List Char)
  | '.' :: rest =>
    let ds := rest.takeWhile Char.isDigit
    if ds.isEmpty then none else some (ds, rest.drop ds.length)
  | _ => none

/-- The exponent at the front of a text: whether it is negative, and its digits. -/
def exponent? : List Char → Option (Bool × List Char × List Char)
  | c :: rest =>
    if c == 'e' || c == 'E' then
      let (sign, rest) := signOf rest
      let ds := rest.takeWhile Char.isDigit
      if ds.isEmpty then none else some (sign == some true, ds, rest.drop ds.length)
    else none
  | [] => none

/-- A whole number brought into the range of 32 bits. -/
def clamp (n : Int) : Int := max (-2147483648) (min 2147483647 n)

/-- Reads a number, with the unit or percent sign behind it. -/
def numeric (cs : List Char) : Token × List Char :=
  let (sign, rest) := signOf cs
  let whole := rest.takeWhile Char.isDigit
  let rest := rest.drop whole.length
  let (fraction, rest) := match fraction? rest with
    | some (ds, rest) => (some ds, rest)
    | none => (none, rest)
  let magnitude := digitsValue whole + fractionValue (fraction.getD [])
  let value := if sign == some true then -1 * magnitude else magnitude
  let (exponent, rest) := match exponent? rest with
    | some (negative, ds, rest) =>
      let e := digitsValue ds
      (some (if negative then -1 * e else e), rest)
    | none => (none, rest)
  let value := match exponent with
    | some e => value * Float.pow 10 e
    | none => value
  let wholeValue : Int := whole.foldl (fun n d => n * 10 + (d.toNat - '0'.toNat : Nat)) 0
  let int? := if fraction.isSome || exponent.isSome then none
    else some (clamp (if sign == some true then -wholeValue else wholeValue))
  match rest with
  | '%' :: rest => (.percentage ⟨sign.isSome, Single.ofFloat (value / 100), int?⟩, rest)
  | rest =>
    let n : Numeral := ⟨sign.isSome, Single.ofFloat value, int?⟩
    if startsName rest then
      let (unit, rest) := name rest
      (.dimension n unit, rest)
    else (.number n, rest)

/-- The text after a comment, given what follows its opening. -/
def afterComment : List Char → List Char
  | '*' :: '/' :: rest => rest
  | _ :: rest => afterComment rest
  | [] => []

/-- Reads the token at the front of a text; a comment gives none. -/
def next (c : Char) (rest : List Char) : Option Token × List Char :=
  let cs := c :: rest
  let one (t : Token) : Option Token × List Char := (some t, rest)
  let withEquals (t : Token) : Option Token × List Char :=
    match rest with
    | '=' :: rest => (some t, rest)
    | _ => one (.delim c)
  let read (r : Token × List Char) : Option Token × List Char := (some r.1, r.2)
  if isMarkupBlank c then
    let text := cs.takeWhile isMarkupBlank
    (some (.blank (String.ofList text)), cs.drop text.length)
  else if c == '"' || c == '\'' then read (stringOnto c (rest.length + 1) [] rest)
  else if c == '#' then
    if startsName rest then
      let (n, rest) := name rest
      (some (.idHash n), rest)
    else if rest.head?.any fun d => d.isDigit || d == '-' then
      let (n, rest) := name rest
      (some (.hash n), rest)
    else one (.delim '#')
  else if c == '$' then withEquals .endsWith
  else if c == '*' then withEquals .contains
  else if c == '^' then withEquals .startsWith
  else if c == '|' then withEquals .dashMatch
  else if c == '~' then withEquals .includes
  else if c == '(' then one .openParen
  else if c == ')' then one .closeParen
  else if c == '[' then one .openSquare
  else if c == ']' then one .closeSquare
  else if c == '{' then one .openCurly
  else if c == '}' then one .closeCurly
  else if c == ',' then one .comma
  else if c == ':' then one .colon
  else if c == ';' then one .semicolon
  else if c == '+' then if startsNumber rest then read (numeric cs) else one (.delim '+')
  else if c == '-' then
    if startsNumber rest then read (numeric cs)
    else match rest with
      | '-' :: '>' :: rest => (some .closeComment, rest)
      | _ => if startsName cs then read (identLike cs) else one (.delim '-')
  else if c == '.' then if startsNumber cs then read (numeric cs) else one (.delim '.')
  else if c == '/' then
    match rest with
    | '*' :: rest => (none, afterComment rest)
    | _ => one (.delim '/')
  else if c.isDigit then read (numeric cs)
  else if c == '<' then
    match rest with
    | '!' :: '-' :: '-' :: rest => (some .openComment, rest)
    | _ => one (.delim '<')
  else if c == '@' then
    if startsName rest then
      let (n, rest) := name rest
      (some (.atKeyword n), rest)
    else one (.delim '@')
  else if c == '\\' then if escapes rest then read (identLike cs) else one (.delim '\\')
  else if isNameStart c then read (identLike cs)
  else one (.delim c)

/-- Reads tokens on top of `acc`, last one first. The number bounds the length of the text. -/
def readOnto : Nat → List Char → List Token → List Token
  | 0, _, acc => acc.reverse
  | _, [], acc => acc.reverse
  | n + 1, c :: cs, acc =>
    match next c cs with
    | (some t, rest) => readOnto n rest (t :: acc)
    | (none, rest) => readOnto n rest acc

/-- The tokens of a text. -/
def read (cs : List Char) : List Token := readOnto cs.length cs []

/-- The token that closes what this one opens. -/
def closer? : Token → Option Token
  | .function _ | .openParen => some .closeParen
  | .openSquare => some .closeSquare
  | .openCurly => some .closeCurly
  | _ => none

/-- Whether a token can be read only as a mistake. -/
def isMistake : Token → Bool
  | .badUrl _ | .badString _ | .closeParen | .closeSquare | .closeCurly => true
  | _ => false

end Token

/-- A token, or a bracket with all that it encloses. -/
inductive Value
  | token (t : Token)
  | block (opening : Token) (content : List Value)
deriving Repr, Inhabited

namespace Value

/-- The token at the front of a value. -/
def head : Value → Token
  | .token t => t
  | .block t _ => t

/-- Reads values up to the given closing token on top of `acc`, last one first. The number bounds
the count of tokens. -/
def readOnto : Nat → Option Token → List Token → List Value → List Value × List Token
  | 0, _, ts, acc => (acc.reverse, ts)
  | _, _, [], acc => (acc.reverse, [])
  | n + 1, close, t :: ts, acc =>
    if close == some t then (acc.reverse, ts)
    else match t.closer? with
      | some c =>
        let (content, rest) := readOnto n (some c) ts []
        readOnto n close rest (.block t content :: acc)
      | none => readOnto n close ts (.token t :: acc)

/-- Folds tokens into values. -/
def ofTokens (ts : List Token) : List Value := (readOnto (ts.length + 1) none ts []).1

end Value

end PageCrawl.Selector
