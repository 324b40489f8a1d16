import PageMarks.Scalar

/-! How paths are filled and stroked. -/

namespace PageMarks

inductive FillRule
  | nonzero
  | evenOdd
  deriving DecidableEq, Repr

def FillRule.text : FillRule → String
  | nonzero => "nonzero"
  | evenOdd => "evenodd"

inductive LineCap
  | butt
  | round
  | square
  deriving DecidableEq, Repr

def LineCap.ofInt? : Int → Option LineCap
  | 0 => some butt
  | 1 => some round
  | 2 => some square
  | _ => none

inductive LineJoin
  | miter
  | round
  | bevel
  deriving DecidableEq, Repr

def LineJoin.ofInt? : Int → Option LineJoin
  | 0 => some miter
  | 1 => some round
  | 2 => some bevel
  | _ => none

/-- Alternating dash and gap lengths, begun `phase` into the pattern; no lengths mean a solid line. -/
structure Dash (K : Type) where
  lengths : List K
  phase : K
  deriving DecidableEq, Repr

def Dash.solid {K : Type} [Scalar K] : Dash K := ⟨[], Scalar.zero⟩

inductive PaintOp
  | stroke
  | fill (rule : FillRule)
  | fillStroke (rule : FillRule)
  | noPaint
  deriving DecidableEq, Repr

def PaintOp.text : PaintOp → String
  | stroke => "stroke"
  | fill _ => "fill"
  | fillStroke _ => "fill_stroke"
  | noPaint => "none"

def PaintOp.rule? : PaintOp → Option FillRule
  | fill rule | fillStroke rule => some rule
  | stroke | noPaint => none

end PageMarks
