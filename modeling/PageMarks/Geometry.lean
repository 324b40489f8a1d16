import PageMarks.Scalar

/-!
Points, boxes and affine maps of the page plane. A matrix `[a b c d e f]` acts on row vectors, so
`m.followedBy base` applies `m` first.
-/

namespace PageMarks

structure Point (K : Type) where
  x : K
  y : K
  deriving DecidableEq, Repr

structure Rect (K : Type) where
  x0 : K
  y0 : K
  x1 : K
  y1 : K
  deriving DecidableEq, Repr

structure Matrix (K : Type) where
  a : K
  b : K
  c : K
  d : K
  e : K
  f : K
  deriving DecidableEq, Repr

variable {K : Type} [Scalar K]

namespace Point

def same (p q : Point K) : Bool := Scalar.eq p.x q.x && Scalar.eq p.y q.y

end Point

namespace Matrix

open Scalar (zero one)

def identity : Matrix K := ⟨one, zero, zero, one, zero, zero⟩

def translation (tx ty : K) : Matrix K := ⟨one, zero, zero, one, tx, ty⟩

/-- `m`, then `base`. -/
def followedBy (m base : Matrix K) : Matrix K where
  a := base.a * m.a + base.c * m.b
  b := base.b * m.a + base.d * m.b
  c := base.a * m.c + base.c * m.d
  d := base.b * m.c + base.d * m.d
  e := base.a * m.e + base.c * m.f + base.e
  f := base.b * m.e + base.d * m.f + base.f

def apply (m : Matrix K) (x y : K) : Point K :=
  ⟨m.a * x + m.c * y + m.e, m.b * x + m.d * y + m.f⟩

def origin (m : Matrix K) : Point K := ⟨m.e, m.f⟩

def toList (m : Matrix K) : List K := [m.a, m.b, m.c, m.d, m.e, m.f]

def ofList? : List K → Option (Matrix K)
  | [a, b, c, d, e, f] => some ⟨a, b, c, d, e, f⟩
  | _ => none

end Matrix

namespace Rect

def zero : Rect K := ⟨Scalar.zero, Scalar.zero, Scalar.zero, Scalar.zero⟩

def width (r : Rect K) : K := r.x1 - r.x0

def height (r : Rect K) : K := r.y1 - r.y0

def ordered (r : Rect K) : Rect K where
  x0 := Scalar.min r.x0 r.x1
  y0 := Scalar.min r.y0 r.y1
  x1 := Scalar.max r.x0 r.x1
  y1 := Scalar.max r.y0 r.y1

def ofCorners (p q : Point K) : Rect K := ordered ⟨p.x, p.y, q.x, q.y⟩

def union (r s : Rect K) : Rect K where
  x0 := Scalar.min r.x0 s.x0
  y0 := Scalar.min r.y0 s.y0
  x1 := Scalar.max r.x1 s.x1
  y1 := Scalar.max r.y1 s.y1

def insert (r : Rect K) (p : Point K) : Rect K := r.union ⟨p.x, p.y, p.x, p.y⟩

def overlap? (r s : Rect K) : Option (Rect K) :=
  let x0 := Scalar.max r.x0 s.x0
  let y0 := Scalar.max r.y0 s.y0
  let x1 := Scalar.min r.x1 s.x1
  let y1 := Scalar.min r.y1 s.y1
  if Scalar.le x0 x1 && Scalar.le y0 y1 then some ⟨x0, y0, x1, y1⟩ else none

def toList (r : Rect K) : List K := [r.x0, r.y0, r.x1, r.y1]

def ofList? : List K → Option (Rect K)
  | [x0, y0, x1, y1] => some ⟨x0, y0, x1, y1⟩
  | _ => none

end Rect
end PageMarks
