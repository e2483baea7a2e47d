/-!
# Parts of a text

`split` cuts a text at its marks. There is one part more than there are marks, and the parts with
the marks between them are the text.
-/

namespace PageCrawl.Text

/-- The parts of a text between marks. -/
def split (isMark : Char → Bool) : List Char → List (List Char)
  | [] => [[]]
  | c :: cs =>
    if isMark c then [] :: split isMark cs
    else
      match split isMark cs with
      | part :: rest => (c :: part) :: rest
      | [] => [[c]]

/-- There is always a part. -/
theorem split_ne_nil (isMark : Char → Bool) (cs : List Char) : split isMark cs ≠ [] := by
  cases cs with
  | nil => simp [split]
  | cons c cs =>
    rw [split]
    split
    · simp
    · split <;> simp

end PageCrawl.Text
