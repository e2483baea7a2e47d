/-!
# Blank characters

Two notions of white space meet in this library, and mixing them up would change answers.

* `isBlank` is the Unicode property `White_Space`: what trimming a title, a cell or a setting
  removes, and what separates the classes of a `class` attribute.
* `isMarkupBlank` is the white space of markup and of style sheets: tab, line feed, form feed,
  carriage return and space.

`trim` removes blanks at both ends of a text, `words` splits a text at them.
-/

namespace PageCrawl.Text

/-- The characters of the Unicode property `White_Space`, in order. -/
def blanks : List Char :=
  ['\t', '\n', '\x0b', '\x0c', '\r', ' ', '\u0085', '\u00a0', '\u1680',
   '\u2000', '\u2001', '\u2002', '\u2003', '\u2004', '\u2005', '\u2006', '\u2007', '\u2008',
   '\u2009', '\u200a', '\u2028', '\u2029', '\u202f', '\u205f', '\u3000']

/-- Whether a character has the Unicode property `White_Space`. -/
def isBlank (c : Char) : Bool := blanks.contains c

/-- White space between the parts of a tag and inside selectors. -/
def isMarkupBlank (c : Char) : Bool :=
  c == ' ' || c == '\n' || c == '\t' || c == '\x0c' || c == '\r'

/-- A text without the blanks at its two ends. -/
def trim (cs : List Char) : List Char :=
  ((cs.dropWhile isBlank).reverse.dropWhile isBlank).reverse

/-- A string without the blanks at its two ends. -/
def trimmed (s : String) : String := String.ofList (trim s.toList)

/-- Where trimming the front stops, no blank stands. -/
theorem isBlank_head_dropWhile {cs : List Char} {c : Char} {rest : List Char}
    (h : cs.dropWhile isBlank = c :: rest) : isBlank c = false := by
  induction cs with
  | nil => simp at h
  | cons d ds ih =>
    rw [List.dropWhile_cons] at h
    split at h
    · exact ih h
    · next hd => cases h; simpa using hd

/-- Words of a text: its maximal runs without blanks, in order. -/
def words (cs : List Char) : List (List Char) :=
  let step (c : Char) (acc : List Char × List (List Char)) : List Char × List (List Char) :=
    if isBlank c then
      if acc.1.isEmpty then acc else ([], acc.1 :: acc.2)
    else (c :: acc.1, acc.2)
  let (word, rest) := cs.foldr step ([], [])
  if word.isEmpty then rest else word :: rest

/-- Lower case for the letters `A` to `Z` alone; every other character stands for itself. -/
def asciiLower (s : String) : String := String.ofList (s.toList.map Char.toLower)

/-- Equality up to the case of the letters `A` to `Z`. -/
def eqIgnoringCase (s t : String) : Bool := asciiLower s == asciiLower t

end PageCrawl.Text
