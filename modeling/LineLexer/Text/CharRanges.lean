/-!
# Ranges of code points

A set of characters given by the standard as a table is kept as the list of its maximal
ranges.
-/

namespace LineLexer.Text

/-- Inclusive ranges of code points, each given by its first and last element. -/
abbrev CharRanges := List (Nat × Nat)

/-- Whether the code point of `char` lies in one of the ranges. -/
def CharRanges.contains (ranges : CharRanges) (char : Char) : Bool :=
  ranges.any fun range => range.1 ≤ char.toNat && char.toNat ≤ range.2

end LineLexer.Text
