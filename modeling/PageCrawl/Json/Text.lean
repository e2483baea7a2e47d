/-!
# Text in JSON

How a text is written as a JSON string. Quotes, backslashes and control characters are escaped,
every other character stands for itself; so a written text holds no line break, and a document
that is written without blanks is one line.
-/

namespace PageCrawl.Json

/-- The digit of a number below sixteen. -/
def hexDigit (n : Nat) : Char :=
  if n < 10 then Char.ofNat ('0'.toNat + n) else Char.ofNat ('a'.toNat + (n - 10))

/-- The characters that have an escape of one letter, with the letter. -/
def shortEscapes : List (Char × Char) :=
  [('"', '"'), ('\\', '\\'), ('\x08', 'b'), ('\t', 't'), ('\n', 'n'), ('\x0c', 'f'), ('\r', 'r')]

/-- How a character is written. -/
def escape (c : Char) : List Char :=
  match shortEscapes.lookup c with
  | some letter => ['\\', letter]
  | none =>
    if c.toNat < 0x20 then
      ['\\', 'u', '0', '0', hexDigit (c.toNat / 16), hexDigit (c.toNat % 16)]
    else [c]

/-- How a text is written, quotes included. -/
def quoted (cs : List Char) : List Char := '"' :: (cs.flatMap escape ++ ['"'])

/-- A member of an object: its name, and its value as it is written. -/
structure Member where
  name : String
  value : List Char
deriving Repr, DecidableEq, Inhabited

namespace Member

/-- A member whose value is a text. -/
def text (name value : String) : Member := ⟨name, quoted value.toList⟩

/-- A member whose value is a truth value. -/
def bool (name : String) (value : Bool) : Member :=
  ⟨name, if value then ['t', 'r', 'u', 'e'] else ['f', 'a', 'l', 's', 'e']⟩

/-- A member whose value is a number. -/
def nat (name : String) (value : Nat) : Member := ⟨name, Nat.toDigits 10 value⟩

/-- How a member is written. -/
def written (m : Member) : List Char := quoted m.name.toList ++ ':' :: m.value

end Member

/-- How an object with the given members is written. -/
def object (members : List Member) : String :=
  String.ofList ('{' :: (List.intercalate [','] (members.map Member.written) ++ ['}']))

end PageCrawl.Json
