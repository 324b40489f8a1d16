import PageMarks.Bound
import PageMarks.Decimal.Binary

/-!
Coordinates. Everything that is computed on a page is written over this class, so that the same
definitions run on machine floats and can be reasoned about over exact numbers.
-/

namespace PageMarks

class Scalar (K : Type) extends Add K, Sub K, Mul K, Div K, Neg K where
  ofInt : Int → K
  ofSingle : Float32 → K
  lt : K → K → Bool
  le : K → K → Bool
  /-- Numeric equality; a value that is no number differs from itself. -/
  eq : K → K → Bool
  abs : K → K
  sqrt : K → K
  copySign : K → K → K
  isFinite : K → Bool
  /-- Toward zero, into the given bounds. -/
  truncate : Int → Int → K → Int

namespace Scalar

variable {K : Type} [Scalar K]

def zero : K := ofInt 0

def one : K := ofInt 1

/-- The larger operand; one that is no number loses, and the first wins a tie. -/
def max (a b : K) : K := if !eq a a then b else if lt a b then b else a

/-- The smaller operand; one that is no number loses, and the first wins a tie. -/
def min (a b : K) : K := if !eq a a then b else if lt b a then b else a

def toWord (x : K) : Nat := (truncate 0 (Bound.word - 1) x).toNat

def toInteger (x : K) : Int := truncate (-Bound.long) (Bound.long - 1) x

end Scalar

instance : Scalar Float where
  ofInt := Float.ofInt
  ofSingle := Float32.toFloat
  lt a b := a < b
  le a b := a ≤ b
  eq a b := a == b
  abs := Float.abs
  sqrt := Float.sqrt
  copySign a b :=
    match Decimal.Binary.ofFloat b with
    | .nan => a.abs
    | .infinite negative | .finite negative _ _ => if negative then -a.abs else a.abs
  isFinite := Float.isFinite
  truncate low high x := (Decimal.Binary.ofFloat x).truncate low high

end PageMarks
