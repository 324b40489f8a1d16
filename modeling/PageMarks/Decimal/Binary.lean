/-!
Binary floating-point values taken apart: sign, magnitude `m · 2^e`, or one of the special values.
-/

namespace PageMarks.Decimal

inductive Binary
  | nan
  | infinite (negative : Bool)
  /-- The value `m · 2^e`, with the sign kept apart so that both zeros are told apart. -/
  | finite (negative : Bool) (m : Nat) (e : Int)
  deriving DecidableEq, Repr

def Binary.ofFields (negative : Bool) (exponent fraction : Nat) : Binary :=
  if exponent = 2047 then
    if fraction = 0 then .infinite negative else .nan
  else if exponent = 0 then .finite negative fraction (-1074)
  else .finite negative (Nat.pow 2 52 + fraction) (exponent - 1075)

def Binary.ofFloat (x : Float) : Binary :=
  let bits := x.toBits.toNat
  ofFields (bits / Nat.pow 2 63 = 1) (bits / Nat.pow 2 52 % Nat.pow 2 11) (bits % Nat.pow 2 52)

def floorScaled (m : Nat) (e : Int) : Nat :=
  if 0 ≤ e then m * Nat.pow 2 e.toNat else m / Nat.pow 2 (-e).toNat

/-- Toward zero, into `[low, high]`; a value that is no number counts as zero. -/
def Binary.truncate (low high : Int) : Binary → Int
  | .nan => 0
  | .infinite negative => if negative then low else high
  | .finite negative m e =>
    let whole : Int := floorScaled m e
    max low (min high (if negative then -whole else whole))

end PageMarks.Decimal
