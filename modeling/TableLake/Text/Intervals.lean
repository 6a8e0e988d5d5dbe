/-
# TableLake.Text.Intervals — sets of characters

A set of characters is written as the closed intervals of their code points.
-/

namespace TableLake.Text

set_option autoImplicit false

/-- Closed intervals of code points. -/
abbrev Intervals := List (Nat × Nat)

/-- Whether a code point lies in a closed interval. -/
def within (low high n : Nat) : Bool := low ≤ n && n ≤ high

/-- Whether the character lies in one of the intervals. -/
def Intervals.contains (s : Intervals) (c : Char) : Bool :=
  s.any fun interval => within interval.1 interval.2 c.toNat

end TableLake.Text
