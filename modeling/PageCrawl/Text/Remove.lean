/-!
# Removing a text from a text

`removeAll` takes every occurrence of one text out of another, from the front on; occurrences that
overlap one taken before stay. What is left may hold the text again, made of what stood around the
occurrences.
-/

namespace PageCrawl.Text

/-- Drops as many characters as told, then takes out the occurrences of a text. -/
def removeAfter (dirt : List Char) : Nat → List Char → List Char
  | _, [] => []
  | k + 1, _ :: cs => removeAfter dirt k cs
  | 0, c :: cs =>
    if dirt.isPrefixOf (c :: cs) then removeAfter dirt (dirt.length - 1) cs
    else c :: removeAfter dirt 0 cs

/-- A text without the occurrences of another. An empty text occurs nowhere. -/
def removeAll (dirt cs : List Char) : List Char :=
  if dirt.isEmpty then cs else removeAfter dirt 0 cs

end PageCrawl.Text
