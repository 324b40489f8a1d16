import Mathlib.Algebra.Order.Ring.Rat
import Mathlib.Data.Rat.Sqrt
import Mathlib.Tactic.Ring
import PageMarks.Geometry

/-!
Exact arithmetic. Machine floats round, so what is true of products of matrices is stated for
coordinates that obey the laws of a commutative ring; the rationals are such coordinates. Over them
matrices compose associatively, and a matrix acts on a point as its factors do one after another.
-/

namespace PageMarks

open Scalar (zero one)

/-- Sums and products of coordinates are exact. -/
class Scalar.Exact (K : Type) [Scalar K] : Prop where
  add_assoc (a b c : K) : a + b + c = a + (b + c)
  add_comm (a b : K) : a + b = b + a
  zero_add (a : K) : zero + a = a
  neg_add_cancel (a : K) : -a + a = zero
  mul_assoc (a b c : K) : a * b * c = a * (b * c)
  mul_comm (a b : K) : a * b = b * a
  one_mul (a : K) : one * a = a
  mul_add (a b c : K) : a * (b + c) = a * b + a * c

section

variable {K : Type} [Scalar K] [Scalar.Exact K]

namespace Scalar.Exact

theorem add_zero (a : K) : a + zero = a := by rw [add_comm, zero_add]

theorem add_mul (a b c : K) : (a + b) * c = a * c + b * c := by
  rw [mul_comm, mul_add, mul_comm c a, mul_comm c b]

theorem mul_zero (a : K) : a * zero = zero := by
  have doubled : a * zero + a * zero = a * zero := by rw [← mul_add, zero_add]
  calc a * zero
    _ = -(a * zero) + a * zero + a * zero := by rw [neg_add_cancel, zero_add]
    _ = -(a * zero) + a * zero := by rw [add_assoc, doubled]
    _ = zero := neg_add_cancel _

variable (K) in
abbrev semiring : CommSemiring K where
  add_assoc := add_assoc
  add_comm := add_comm
  zero := zero
  zero_add := zero_add
  add_zero := add_zero
  mul_assoc := mul_assoc
  mul_comm := mul_comm
  one := one
  one_mul := one_mul
  mul_one a := (mul_comm a one).trans (one_mul a)
  left_distrib := mul_add
  right_distrib := add_mul
  zero_mul a := (mul_comm zero a).trans (mul_zero a)
  mul_zero := mul_zero
  nsmul := @nsmulRec K ⟨zero⟩ _

end Scalar.Exact

namespace Matrix

theorem followedBy_assoc (l m n : Matrix K) :
    (l.followedBy m).followedBy n = l.followedBy (m.followedBy n) := by
  let _ := Scalar.Exact.semiring K
  simp only [followedBy, Matrix.mk.injEq]
  refine ⟨?_, ?_, ?_, ?_, ?_, ?_⟩ <;> ring

theorem identity_followedBy (m : Matrix K) : identity.followedBy m = m := by
  let _ := Scalar.Exact.semiring K
  have unit : (one : K) = 1 := rfl
  have null : (zero : K) = 0 := rfl
  simp only [followedBy, identity, unit, null, mul_one, mul_zero, add_zero, zero_add]

theorem apply_followedBy (m base : Matrix K) (x y : K) :
    (m.followedBy base).apply x y = base.apply (m.apply x y).x (m.apply x y).y := by
  let _ := Scalar.Exact.semiring K
  simp only [followedBy, apply, Point.mk.injEq]
  constructor <;> ring

theorem translation_translation (tx ty sx sy : K) :
    (translation tx ty).followedBy (translation sx sy) = translation (tx + sx) (ty + sy) := by
  let _ := Scalar.Exact.semiring K
  have unit : (one : K) = 1 := rfl
  have null : (zero : K) = 0 := rfl
  simp only [followedBy, translation, unit, null, one_mul, zero_mul, mul_zero, add_zero, zero_add]

theorem translation_followedBy_inj {tx ty : K} {m n : Matrix K} :
    (translation tx ty).followedBy m = (translation tx ty).followedBy n ↔ m = n := by
  constructor
  · intro same
    have undone (l : Matrix K) :
        (translation (-tx) (-ty)).followedBy ((translation tx ty).followedBy l) = l := by
      rw [← followedBy_assoc, translation_translation, Scalar.Exact.neg_add_cancel,
        Scalar.Exact.neg_add_cancel]
      exact identity_followedBy l
    rw [← undone m, same, undone]
  · intro same
    rw [same]

end Matrix
end

/-- Square roots are exact where they are rational, and otherwise those of the whole parts. -/
instance : Scalar ℚ where
  ofInt n := n
  ofSingle x :=
    match Decimal.Binary.ofFloat x.toFloat with
    | .nan | .infinite _ => 0
    | .finite negative m e => (if negative then -1 else 1) * m * 2 ^ e
  lt a b := a < b
  le a b := a ≤ b
  eq a b := a == b
  abs a := |a|
  sqrt := Rat.sqrt
  copySign a b := if b < 0 then -|a| else |a|
  isFinite _ := true
  truncate low high a := max low (min high (a.num.tdiv a.den))

instance : Scalar.Exact ℚ where
  add_assoc := Rat.add_assoc
  add_comm := Rat.add_comm
  zero_add := Rat.zero_add
  neg_add_cancel := Rat.neg_add_cancel
  mul_assoc := Rat.mul_assoc
  mul_comm := Rat.mul_comm
  one_mul := Rat.one_mul
  mul_add := Rat.mul_add

end PageMarks
