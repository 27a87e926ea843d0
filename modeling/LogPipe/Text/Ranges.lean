/-!
# Sets of characters as ranges

A character property is kept as the ascending list of the ranges of code points that have
it, both ends included.
-/

namespace LogPipe.Text

/-- Whether a code point lies in one of the ranges. -/
def inRanges (ranges : List (Nat × Nat)) (codePoint : Nat) : Bool :=
  ranges.any fun range => range.1 ≤ codePoint && codePoint ≤ range.2

end LogPipe.Text
