import PageMarks.Path.Extent
import PageMarks.Style

/-!
The clip region: the paths it was cut to, innermost last, and a box that holds their common part.
-/

namespace PageMarks

structure ClipPath (K : Type) where
  path : Path K
  rule : FillRule

inductive ClipRegion (K : Type)
  | unbounded
  | empty
  | paths (paths : List (ClipPath K)) (bounds : Rect K)

namespace ClipRegion

variable {K : Type} [Scalar K]

/-- Cut the region to a path. A path without elements, or one whose box has no point in common with
the region's, leaves nothing. -/
def intersect (path : Path K) (rule : FillRule) (region : ClipRegion K) : ClipRegion K :=
  if path.isEmpty then empty
  else
    match region with
    | empty => empty
    | unbounded => paths [⟨path, rule⟩] path.extent
    | paths installed bounds =>
      match bounds.overlap? path.extent with
      | none => empty
      | some bounds => paths (installed ++ [⟨path, rule⟩]) bounds

def bounds? : ClipRegion K → Option (Rect K)
  | unbounded => none
  | empty => some Rect.zero
  | paths _ bounds => some bounds

def isEmpty : ClipRegion K → Bool
  | empty => true
  | _ => false

def isUnbounded : ClipRegion K → Bool
  | unbounded => true
  | _ => false

def toList : ClipRegion K → List (ClipPath K)
  | paths installed _ => installed
  | _ => []

end ClipRegion
end PageMarks
