import PageMarks.Path
import PageMarks.Decimal.Text

/-! Paths written as path data: one letter and its coordinates per element. -/

namespace PageMarks

def Point.svg (p : Point Float) : String :=
  Decimal.plainText p.x ++ "," ++ Decimal.plainText p.y

def PathElement.svg : PathElement Float → String
  | move p => "M" ++ p.svg
  | line p => "L" ++ p.svg
  | curve c1 c2 p => "C" ++ c1.svg ++ " " ++ c2.svg ++ " " ++ p.svg
  | close => "Z"

def Path.svg (path : Path Float) : String :=
  " ".intercalate (path.map PathElement.svg)

end PageMarks
