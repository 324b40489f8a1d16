import PageMarks.Path.Builder
import PageMarks.Proofs.Geometry.Exact

/-!
Paths under a matrix. A builder maps points as they arrive, so following its matrix by another one
has the effect of mapping the path that is built, whatever is drawn and wherever the matrix changes.
Which path is too thin to show is decided before points are mapped, and stays as it is.
-/

namespace PageMarks

variable {K : Type} [Scalar K]

def Point.through (m : Matrix K) (p : Point K) : Point K := m.apply p.x p.y

def PathElement.through (m : Matrix K) : PathElement K → PathElement K
  | move p => move (p.through m)
  | line p => line (p.through m)
  | curve c1 c2 p => curve (c1.through m) (c2.through m) (p.through m)
  | close => close

def Path.through (m : Matrix K) (path : Path K) : Path K := path.map (PathElement.through m)

namespace PathBuilder

def through (m : Matrix K) (b : PathBuilder K) : PathBuilder K :=
  { b with
    path := Path.through m b.path
    current := b.current.map (Point.through m)
    start := b.start.map (Point.through m)
    ctm := b.ctm.followedBy m }

variable (m : Matrix K) (b : PathBuilder K)

theorem through_isEmpty : (Path.through m b.path).isEmpty = b.path.isEmpty := List.isEmpty_map

theorem through_isDegenerate : (b.through m).isDegenerate = b.isDegenerate := rfl

theorem through_current_isSome : (b.through m).current.isSome = b.current.isSome :=
  Option.isSome_map

theorem through_empty (ctm : Matrix K) : (empty ctm).through m = empty (ctm.followedBy m) := rfl

theorem through_reset : (b.through m).reset = b.reset.through m := rfl

theorem through_setMatrix (ctm : Matrix K) :
    (b.through m).setMatrix (ctm.followedBy m) = (b.setMatrix ctm).through m := rfl

theorem through_countPrimitive (thin : Bool) :
    (b.through m).countPrimitive thin = (b.countPrimitive thin).through m := rfl

/-- Drawing `f` and mapping can be exchanged. -/
def Maps (m : Matrix K) (f : PathBuilder K → PathBuilder K) : Prop :=
  ∀ b, f (b.through m) = (f b).through m

theorem pushCurve_through (c1 c2 p : Point K) :
    (b.through m).pushCurve (c1.through m) (c2.through m) (p.through m) =
      (b.pushCurve c1 c2 p).through m := by
  simp [pushCurve, through, Path.through, PathElement.through]

theorem close_maps : Maps m close := by
  intro b
  simp only [close, show (b.through m).path = Path.through m b.path from rfl, through_isEmpty]
  split
  · rfl
  · cases start : b.start <;> simp [through, Path.through, PathElement.through, start]

section

variable [Scalar.Exact K]

theorem apply_through (x y : K) :
    (b.through m).ctm.apply x y = (b.ctm.apply x y).through m :=
  Matrix.apply_followedBy b.ctm m x y

theorem pushMove_maps (x y : K) : Maps m (pushMove x y) := by
  intro b
  simp only [pushMove, apply_through]
  simp [through, Path.through, PathElement.through]

theorem pushLine_maps (x y : K) : Maps m (pushLine x y) := by
  intro b
  simp only [pushLine, apply_through]
  simp [through, Path.through, PathElement.through]

theorem moveTo_maps (x y : K) : Maps m (moveTo x y) := fun b =>
  pushMove_maps m x y (b.countPrimitive false)

theorem lineTo_maps (x y : K) : Maps m (lineTo x y) := fun b =>
  pushLine_maps m x y (b.countPrimitive false)

theorem curveTo_maps (x1 y1 x2 y2 x3 y3 : K) : Maps m (curveTo x1 y1 x2 y2 x3 y3) := by
  intro b
  simp only [curveTo, apply_through, through_countPrimitive]
  exact pushCurve_through m _ _ _ _

/-- The first control point is taken from the path and not mapped again. -/
theorem curveFromCurrent_maps (x2 y2 x3 y3 : K) : Maps m (curveFromCurrent x2 y2 x3 y3) := by
  intro b
  simp only [curveFromCurrent, apply_through, through_countPrimitive]
  cases current : b.current with
  | none => simp only [through, current, Option.map_none]
  | some c1 =>
    have mapped : (b.through m).current = some (c1.through m) := by simp [through, current]
    rw [mapped]
    exact pushCurve_through m _ _ _ _

theorem curveIntoEnd_maps (x1 y1 x3 y3 : K) : Maps m (curveIntoEnd x1 y1 x3 y3) := by
  intro b
  simp only [curveIntoEnd, apply_through, through_countPrimitive]
  exact pushCurve_through m _ _ _ _

theorem rectangle_maps (x y width height : K) : Maps m (rectangle x y width height) := by
  intro b
  simp only [rectangle, through_countPrimitive, pushMove_maps m x y _, pushLine_maps m _ _ _,
    close_maps m _]

end
end PathBuilder
end PageMarks
