import PageMarks.Path

/-!
The bounding box of a path: the union of the boxes of its segments. A curve's box is reached at
its ends and where a coordinate has an extremum in between.
-/

namespace PageMarks

variable {K : Type} [Scalar K]

open Scalar (ofInt zero one)

inductive Segment (K : Type)
  | line (p0 p1 : Point K)
  | curve (p0 p1 p2 p3 : Point K)

/-- Real roots of `c0 + c1 t + c2 t²` in ascending order. A leading coefficient too small to divide
by leaves a linear equation. -/
def quadraticRoots (c0 c1 c2 : K) : List K :=
  let r := one / c2
  let s0 := c0 * r
  let s1 := c1 * r
  if !Scalar.isFinite s0 || !Scalar.isFinite s1 then
    let root := -c0 / c1
    if Scalar.isFinite root then [root]
    else if Scalar.eq c0 zero && Scalar.eq c1 zero then [zero]
    else []
  else
    let half : K := one / ofInt 2
    let discriminant := s1 * s1 - ofInt 4 * s0
    let pair (first : K) : List K :=
      let second := s0 / first
      if !Scalar.isFinite second then [first]
      else if Scalar.lt first second then [first, second]
      else [second, first]
    if !Scalar.isFinite discriminant then pair (-s1)
    else if Scalar.lt discriminant zero then []
    else if Scalar.eq discriminant zero then [-half * s1]
    else pair (-half * (s1 + Scalar.copySign (Scalar.sqrt discriminant) s1))

namespace Segment

/-- Parameters strictly inside the curve where one coordinate, with control values `p0 … p3`,
stands still. -/
def stationary (p0 p1 p2 p3 : K) : List K :=
  let d0 := p1 - p0
  let d1 := p2 - p1
  let d2 := p3 - p2
  let roots := quadraticRoots d0 (ofInt 2 * (d1 - d0)) (d0 - ofInt 2 * d1 + d2)
  roots.filter fun t => Scalar.lt zero t && Scalar.lt t one

def cubicAt (p0 p1 p2 p3 t : K) : K :=
  let u := one - t
  p0 * (u * u * u) + (p1 * (u * u * ofInt 3) + (p2 * (u * ofInt 3) + p3 * t) * t) * t

def box : Segment K → Rect K
  | line p0 p1 => Rect.ofCorners p0 p1
  | curve p0 p1 p2 p3 =>
    let ts := stationary p0.x p1.x p2.x p3.x ++ stationary p0.y p1.y p2.y p3.y
    (ts.mergeSort Scalar.le).foldl
      (fun r t => r.insert ⟨cubicAt p0.x p1.x p2.x p3.x t, cubicAt p0.y p1.y p2.y p3.y t⟩)
      (Rect.ofCorners p0 p3)

end Segment

namespace Path

/-- Segments of a path whose pen stands at `last` in a subpath begun at `start`. Closing draws a
line only when the pen is away from the start. -/
def segmentsFrom (start last : Point K) : Path K → List (Segment K)
  | [] => []
  | .move p :: rest => segmentsFrom p p rest
  | .line p :: rest => .line last p :: segmentsFrom start p rest
  | .curve c1 c2 p :: rest => .curve last c1 c2 p :: segmentsFrom start p rest
  | .close :: rest =>
    if last.same start then segmentsFrom start start rest
    else .line last start :: segmentsFrom start start rest

/-- A path that does not begin with a move starts at the end of its first element. -/
def segments : Path K → List (Segment K)
  | [] => []
  | .close :: rest => segments rest
  | e@(.move p) :: rest | e@(.line p) :: rest | e@(.curve _ _ p) :: rest =>
    segmentsFrom p p (e :: rest)

def extent (path : Path K) : Rect K :=
  match path.segments.map Segment.box with
  | [] => Rect.zero
  | first :: rest => rest.foldl Rect.union first

end Path
end PageMarks
