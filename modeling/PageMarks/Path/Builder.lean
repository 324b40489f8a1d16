import PageMarks.Path

/-!
The path under construction. Points are mapped into device space as they arrive, so a later change
of the matrix leaves what is already drawn where it is.
-/

namespace PageMarks

/-- `primitives` counts drawing steps; a rectangle is one. `thinFirst` says that the first step was
a rectangle at most one unit wide or high. -/
structure PathBuilder (K : Type) where
  path : Path K
  current : Option (Point K)
  start : Option (Point K)
  ctm : Matrix K
  primitives : Nat
  thinFirst : Bool

namespace PathBuilder

variable {K : Type} [Scalar K]

def empty (ctm : Matrix K) : PathBuilder K := ⟨[], none, none, ctm, 0, false⟩

def setMatrix (ctm : Matrix K) (b : PathBuilder K) : PathBuilder K := { b with ctm }

def isEmpty (b : PathBuilder K) : Bool := b.path.isEmpty

/-- Nothing drawn, or one thin rectangle: filling alone would leave no visible mark. -/
def isDegenerate (b : PathBuilder K) : Bool :=
  b.primitives == 0 || (b.primitives == 1 && b.thinFirst)

def countPrimitive (thin : Bool) (b : PathBuilder K) : PathBuilder K :=
  { b with
    thinFirst := if b.primitives = 0 then thin else b.thinFirst
    primitives := b.primitives + 1 }

def pushMove (x y : K) (b : PathBuilder K) : PathBuilder K :=
  let p := b.ctm.apply x y
  { b with path := b.path ++ [.move p], current := some p, start := some p }

def pushLine (x y : K) (b : PathBuilder K) : PathBuilder K :=
  let p := b.ctm.apply x y
  { b with path := b.path ++ [.line p], current := some p }

def pushCurve (c1 c2 p : Point K) (b : PathBuilder K) : PathBuilder K :=
  { b with path := b.path ++ [.curve c1 c2 p], current := some p }

def moveTo (x y : K) (b : PathBuilder K) : PathBuilder K :=
  (b.countPrimitive false).pushMove x y

def lineTo (x y : K) (b : PathBuilder K) : PathBuilder K :=
  (b.countPrimitive false).pushLine x y

def curveTo (x1 y1 x2 y2 x3 y3 : K) (b : PathBuilder K) : PathBuilder K :=
  (b.countPrimitive false).pushCurve
    (b.ctm.apply x1 y1) (b.ctm.apply x2 y2) (b.ctm.apply x3 y3)

def curveFromCurrent (x2 y2 x3 y3 : K) (b : PathBuilder K) : PathBuilder K :=
  match b.current with
  | none => b
  | some c1 => (b.countPrimitive false).pushCurve c1 (b.ctm.apply x2 y2) (b.ctm.apply x3 y3)

def curveIntoEnd (x1 y1 x3 y3 : K) (b : PathBuilder K) : PathBuilder K :=
  let p := b.ctm.apply x3 y3
  (b.countPrimitive false).pushCurve (b.ctm.apply x1 y1) p p

def close (b : PathBuilder K) : PathBuilder K :=
  if b.path.isEmpty then b
  else { b with path := b.path ++ [.close], current := b.start.or b.current }

def rectangle (x y width height : K) (b : PathBuilder K) : PathBuilder K :=
  let thin (side : K) : Bool := Scalar.le (Scalar.abs side) Scalar.one
  ((((b.countPrimitive (thin width || thin height)).pushMove x y).pushLine (x + width) y).pushLine
    (x + width) (y + height)).pushLine x (y + height) |>.close

def reset (b : PathBuilder K) : PathBuilder K := empty b.ctm

end PathBuilder
end PageMarks
