import Mathlib.Order.Lattice
import PageMarks.Path.Extent
import PageMarks.Proofs.Geometry.Exact

/-!
Coordinates in a linear order. Every value is a number there, and values that compare as equal are the
same, so that a box is a product of two closed intervals. The common part of two boxes holds the points
that both hold, and the box of every path has its corners in order.
-/

namespace PageMarks

/-- Coordinates compare as their linear order says. -/
class Scalar.Ordered (K : Type) [Scalar K] [LinearOrder K] : Prop where
  lt_iff (a b : K) : Scalar.lt a b ↔ a < b
  le_iff (a b : K) : Scalar.le a b ↔ a ≤ b
  eq_iff (a b : K) : Scalar.eq a b ↔ a = b

instance : Scalar.Ordered ℚ where
  lt_iff _ _ := decide_eq_true_iff
  le_iff _ _ := decide_eq_true_iff
  eq_iff _ _ := beq_iff_eq

variable {K : Type}

section

variable [Scalar K] [LinearOrder K] [Scalar.Ordered K]

theorem Scalar.max_eq_max (a b : K) : Scalar.max a b = Max.max a b := by
  have self : Scalar.eq a a = true := (Scalar.Ordered.eq_iff a a).mpr rfl
  have less := Scalar.Ordered.lt_iff a b
  rw [Scalar.max, self, max_def_lt]
  by_cases below : a < b <;> simp_all

theorem Scalar.min_eq_min (a b : K) : Scalar.min a b = Min.min a b := by
  have self : Scalar.eq a a = true := (Scalar.Ordered.eq_iff a a).mpr rfl
  have less := Scalar.Ordered.lt_iff b a
  rw [Scalar.min, self, min_comm, min_def_lt]
  by_cases below : b < a <;> simp_all

end

namespace Rect

structure Proper [LE K] (r : Rect K) : Prop where
  x : r.x0 ≤ r.x1
  y : r.y0 ≤ r.y1

structure Holds [LE K] (r : Rect K) (p : Point K) : Prop where
  left : r.x0 ≤ p.x
  right : p.x ≤ r.x1
  bottom : r.y0 ≤ p.y
  top : p.y ≤ r.y1

structure Within [LE K] (r s : Rect K) : Prop where
  left : s.x0 ≤ r.x0
  right : r.x1 ≤ s.x1
  bottom : s.y0 ≤ r.y0
  top : r.y1 ≤ s.y1

variable [LinearOrder K] {r s : Rect K}

theorem Proper.holds_first (proper : r.Proper) : r.Holds ⟨r.x0, r.y0⟩ :=
  ⟨le_rfl, proper.x, le_rfl, proper.y⟩

theorem Proper.holds_last (proper : r.Proper) : r.Holds ⟨r.x1, r.y1⟩ :=
  ⟨proper.x, le_rfl, proper.y, le_rfl⟩

theorem Proper.within (proper : r.Proper) (inside : ∀ p, r.Holds p → s.Holds p) : r.Within s := by
  have first := inside _ proper.holds_first
  have last := inside _ proper.holds_last
  exact ⟨first.left, last.right, first.bottom, last.top⟩

theorem Within.antisymm (inside : r.Within s) (outside : s.Within r) : r = s := by
  obtain ⟨x0, y0, x1, y1⟩ := r
  obtain ⟨u0, v0, u1, v1⟩ := s
  simp only [mk.injEq]
  exact ⟨le_antisymm outside.left inside.left, le_antisymm outside.bottom inside.bottom,
    le_antisymm inside.right outside.right, le_antisymm inside.top outside.top⟩

theorem Proper.eq_of_holds (proper : r.Proper) (other : s.Proper)
    (same : ∀ p, r.Holds p ↔ s.Holds p) : r = s :=
  (proper.within fun p => (same p).mp).antisymm (other.within fun p => (same p).mpr)

theorem holds_both (r s : Rect K) (p : Point K) :
    (r.Holds p ∧ s.Holds p) ↔
      Holds ⟨max r.x0 s.x0, max r.y0 s.y0, min r.x1 s.x1, min r.y1 s.y1⟩ p := by
  constructor
  · rintro ⟨first, second⟩
    exact ⟨max_le first.left second.left, le_min first.right second.right,
      max_le first.bottom second.bottom, le_min first.top second.top⟩
  · rintro ⟨left, right, bottom, top⟩
    exact ⟨⟨(le_max_left ..).trans left, right.trans (min_le_left ..),
        (le_max_left ..).trans bottom, top.trans (min_le_left ..)⟩,
      ⟨(le_max_right ..).trans left, right.trans (min_le_right ..),
        (le_max_right ..).trans bottom, top.trans (min_le_right ..)⟩⟩

variable [Scalar K] [Scalar.Ordered K]

/-- Boxes overlap in the points they both hold, if there are any: those on a common edge are. -/
theorem overlap?_cases (r s : Rect K) :
    (∃ t, r.overlap? s = some t ∧ t.Proper ∧ ∀ p, t.Holds p ↔ r.Holds p ∧ s.Holds p) ∨
      (r.overlap? s = none ∧ ¬ ∃ p, r.Holds p ∧ s.Holds p) := by
  simp only [overlap?, Scalar.max_eq_max, Scalar.min_eq_min, Bool.and_eq_true, Scalar.Ordered.le_iff]
  by_cases meet : max r.x0 s.x0 ≤ min r.x1 s.x1 ∧ max r.y0 s.y0 ≤ min r.y1 s.y1
  · exact .inl ⟨_, if_pos meet, ⟨meet.1, meet.2⟩, fun p => (holds_both r s p).symm⟩
  · refine .inr ⟨if_neg meet, ?_⟩
    rintro ⟨p, both⟩
    have held := (holds_both r s p).mp both
    exact meet ⟨held.left.trans held.right, held.bottom.trans held.top⟩

omit [Scalar.Ordered K] in
theorem zero_proper : (zero : Rect K).Proper := ⟨le_rfl, le_rfl⟩

theorem ordered_proper (r : Rect K) : r.ordered.Proper := by
  constructor
  all_goals simp only [ordered, Scalar.min_eq_min, Scalar.max_eq_max]; exact min_le_max

theorem union_proper (first : r.Proper) (s : Rect K) : (r.union s).Proper := by
  constructor
  all_goals simp only [union, Scalar.min_eq_min, Scalar.max_eq_max]
  · exact (min_le_left ..).trans (first.x.trans (le_max_left ..))
  · exact (min_le_left ..).trans (first.y.trans (le_max_left ..))

end Rect

variable [Scalar K] [LinearOrder K] [Scalar.Ordered K]

theorem Segment.box_proper (segment : Segment K) : segment.box.Proper := by
  have grown (points : List K) (place : K → Point K) (r : Rect K) (proper : r.Proper) :
      (points.foldl (fun r t => r.insert (place t)) r).Proper := by
    induction points generalizing r with
    | nil => exact proper
    | cons t rest ih => exact ih _ (Rect.union_proper proper _)
  cases segment with
  | line p0 p1 => exact Rect.ordered_proper _
  | curve p0 p1 p2 p3 => exact grown _ _ _ (Rect.ordered_proper _)

theorem Path.extent_proper (path : Path K) : path.extent.Proper := by
  have grown (boxes : List (Rect K)) (r : Rect K) (proper : r.Proper) :
      (boxes.foldl Rect.union r).Proper := by
    induction boxes generalizing r with
    | nil => exact proper
    | cons box rest ih => exact ih _ (Rect.union_proper proper _)
  unfold Path.extent
  rcases boxes : path.segments with _ | ⟨first, rest⟩
  · exact Rect.zero_proper
  · exact grown _ _ first.box_proper

end PageMarks
