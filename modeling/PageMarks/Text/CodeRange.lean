/-! Sets of characters as closed ranges of code points. -/

namespace PageMarks.Text

abbrev CodeRanges := List (Nat × Nat)

namespace CodeRanges

def covers (ranges : CodeRanges) (c : Char) : Bool :=
  ranges.any fun (first, last) => first ≤ c.toNat && c.toNat ≤ last

/-- Ascending and apart. -/
def isOrdered : CodeRanges → Bool
  | [] => true
  | [(first, last)] => first ≤ last
  | (first, last) :: (next, stop) :: rest =>
    first ≤ last && last + 1 < next && isOrdered ((next, stop) :: rest)

end CodeRanges

end PageMarks.Text
