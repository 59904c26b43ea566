import ThingLink.Text.Integer

/-!
# Spans of time as texts

A span of whole milliseconds is shown in the largest of seconds and milliseconds
that it reaches, with the fraction it needs and no more: `2s`, `1.5s`, `61.001s`,
`250ms`.  The empty span is `0ns`.
-/

namespace ThingLink.Text

/-- The shortest fraction for `thousandths` of a unit, with its point. -/
def thousandths (n : Nat) : String :=
  let digits := paddedDigits 10 3 n
  let needed := (digits.reverse.dropWhile (· = '0')).reverse
  if needed.isEmpty then "" else "." ++ String.ofList needed

/-- A span of milliseconds in its largest unit. -/
def span (ms : Nat) : String :=
  if 1000 ≤ ms then decimal (ms / 1000) ++ thousandths (ms % 1000) ++ "s"
  else if 1 ≤ ms then decimal ms ++ "ms"
  else "0ns"

end ThingLink.Text
