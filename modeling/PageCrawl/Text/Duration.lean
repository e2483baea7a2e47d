/-!
# Times as text

How a span of time is told: in seconds, with what is left over as a fraction, or in milliseconds
where it is less than a second.
-/

namespace PageCrawl.Text

/-- A time in milliseconds: whole seconds where there are any, with the rest as a fraction. -/
def durationText (ms : Nat) : String :=
  if ms == 0 then "0ns"
  else if ms < 1000 then ms.repr ++ "ms"
  else
    let rest := ms % 1000
    let digits := [rest / 100, rest / 10 % 10, rest % 10]
    let shown := (digits.reverse.dropWhile (· == 0)).reverse
    (ms / 1000).repr ++ (if shown.isEmpty then "" else "." ++ String.join (shown.map Nat.repr))
      ++ "s"

end PageCrawl.Text
