/-!
# Runs of code points

A class of characters is a list of runs. A run goes from its first to its last
code point in steps, so that the alternating capital and small letters of the
extended Latin blocks make one run each. The runs of a list begin at increasing
code points, and a lookup stops at the first run that begins too late: for the
letters of a plain identifier it looks at a handful of runs.
-/

namespace Protogen

namespace Text

/-- The code points `first`, `first + step`, … up to `last`. -/
structure CodeRun where
  first : Nat
  last : Nat
  step : Nat
  deriving DecidableEq, Repr

namespace CodeRun

def contains (r : CodeRun) (n : Nat) : Bool :=
  decide (r.first ≤ n) && decide (n ≤ r.last) && (n - r.first) % r.step == 0

/-- Membership in a class whose runs begin at increasing code points. -/
def anyContains : List CodeRun → Nat → Bool
  | [], _ => false
  | r :: rs, n => if n < r.first then false else r.contains n || anyContains rs n

end CodeRun

end Text

end Protogen
