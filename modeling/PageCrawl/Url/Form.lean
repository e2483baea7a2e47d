import PageCrawl.Url.Percent

/-!
# Form encoding

The way values of forms are put into addresses: letters, digits and `*`, `-`, `.`, `_` stand for
themselves, a blank is a plus sign, and all else is escaped. What is written holds none of the
characters that separate the parts of an address. `decode` reads it back.
-/

namespace PageCrawl.Url.Form

open Text Percent

/-- Whether a character stands for itself. -/
def isPlain (c : Char) : Bool := c.isAlphanum || ['*', '-', '.', '_'].contains c

/-- How a character is written. -/
def encodeChar (c : Char) : List Char :=
  if isPlain c then [c] else if c == ' ' then ['+'] else escapeChar c

/-- How a text is written. -/
def encode (cs : List Char) : List Char := cs.flatMap encodeChar

/-- The text that was written. -/
def decode (cs : List Char) : List Char :=
  Utf8.decode (Percent.decode (cs.map fun c => if c == '+' then ' ' else c))

end PageCrawl.Url.Form

namespace PageCrawl.Url.Template

/-- Fills a template of an address: an encoded text takes the place of the first pair of braces, or
follows a template without one. -/
def fillWith (encoded : List Char) : List Char → List Char
  | [] => encoded
  | '\x7b' :: '\x7d' :: rest => encoded ++ rest
  | c :: cs => c :: fillWith encoded cs

/-- The address of a request. -/
def fill (template request : String) : String :=
  String.ofList (fillWith (Form.encode request.toList) template.toList)

end PageCrawl.Url.Template
