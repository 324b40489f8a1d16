import PageMarks.Decimal.Shortest

/-!
Written forms of numbers: the shortest digits without an exponent, the shortest digits with one for
very large or small values, and a fixed number of places.
-/

namespace PageMarks.Decimal

def digitText (n : Nat) : String := String.ofList (Nat.toDigits 10 n)

def zeros (n : Nat) : String := String.ofList (List.replicate n '0')

def placesText (n places : Nat) : String :=
  if places = 0 then digitText n
  else
    let fraction := digitText (n % Nat.pow 10 places)
    digitText (n / Nat.pow 10 places) ++ "." ++ zeros (places - fraction.length) ++ fraction

def Digits.positional (d : Digits) : String :=
  if 0 ≤ d.exponent then digitText (d.digits * Nat.pow 10 d.exponent.toNat)
  else placesText d.digits (-d.exponent).toNat

def Digits.scientific (d : Digits) : String :=
  let text := digitText d.digits
  let exponent := d.exponent + (text.length - 1 : Nat)
  let mantissa := if text.length = 1 then text else placesText d.digits (text.length - 1)
  let mark := if exponent < 0 then "e-" else "e"
  mantissa ++ mark ++ digitText exponent.natAbs

def sign (negative : Bool) : String := if negative then "-" else ""

def roundDiv (tie : Tie) (num den : Nat) : Nat :=
  let below := num / den
  let twice := 2 * (num % den)
  if twice < den then below else if den < twice then below + 1 else tie.choose below

def specialText : Binary → Option String
  | .nan => some "NaN"
  | .infinite negative => some (sign negative ++ "inf")
  | .finite .. => none

/-- Shortest digits, halves up, never an exponent, no point for whole numbers; minus zero keeps its
sign. -/
def plainText (x : Float) : String :=
  match Binary.ofFloat x with
  | .finite negative m e => sign negative ++ (shortest .up m e).positional
  | b => (specialText b).getD ""

/-- Exactly `places` places, rounding the exact value; a half goes to the even neighbour. -/
def fixedText (places : Nat) (x : Float) : String :=
  match Binary.ofFloat x with
  | .finite negative m e =>
    let num := m * Nat.pow 10 places * Nat.pow 2 e.toNat
    sign negative ++ placesText (roundDiv .toEven num (Nat.pow 2 (-e).toNat)) places
  | b => (specialText b).getD ""

/-- Shortest digits with at least one place, positional from `1e-5` up to `1e16`; nothing for
a value that is no finite number. -/
def exponentText? (x : Float) : Option String :=
  match Binary.ofFloat x with
  | .finite negative m e =>
    let d := shortest .toEven m e
    let leading := d.exponent + (digitText d.digits).length
    let text :=
      if d.digits = 0 then "0.0"
      else if leading ≤ -5 ∨ 16 < leading then d.scientific
      else if 0 ≤ d.exponent then d.positional ++ ".0"
      else d.positional
    some (sign negative ++ text)
  | _ => none

end PageMarks.Decimal
