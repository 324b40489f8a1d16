import PageMarks.Geometry

/-! Paths in device space: moves, lines, cubic curves and closings, in drawing order. -/

namespace PageMarks

inductive PathElement (K : Type)
  | move (p : Point K)
  | line (p : Point K)
  | curve (c1 c2 p : Point K)
  | close
  deriving DecidableEq, Repr

abbrev Path (K : Type) := List (PathElement K)

end PageMarks
