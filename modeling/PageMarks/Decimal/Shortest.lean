import PageMarks.Decimal.Binary

/-!
The fewest decimal digits that read back as a given binary value. The reals that round to
`m · 2^e` form an interval; the answer is the coarsest decimal grid with a point in it, and of two
such points the nearer one. Where both are equally near, the caller says which it wants.
-/

namespace PageMarks.Decimal

inductive Tie
  | toEven
  | up
  deriving DecidableEq, Repr

def Tie.choose (below : Nat) : Tie → Nat
  | toEven => if below % 2 = 0 then below else below + 1
  | up => below + 1

structure Digits where
  digits : Nat
  exponent : Int
  deriving DecidableEq, Repr

/-- Bounds of the rounding interval of `m · 2^e`, in units of `2^(e-2)`. Below a power of two the
neighbour is half as far away. -/
structure Interval where
  low : Nat
  value : Nat
  high : Nat
  closed : Bool

def Interval.around (m : Nat) (e : Int) : Interval where
  low := if m = Nat.pow 2 52 ∧ -1074 < e then 4 * m - 1 else 4 * m - 2
  value := 4 * m
  high := 4 * m + 2
  closed := m % 2 = 0

structure Grid where
  num : Nat
  den : Nat

def Grid.ofPowers (u p : Int) : Grid where
  num := Nat.pow 2 u.toNat * Nat.pow 10 (-p).toNat
  den := Nat.pow 2 (-u).toNat * Nat.pow 10 p.toNat

def Interval.holds (i : Interval) (g : Grid) (point : Nat) : Bool :=
  let low := i.low * g.num
  let high := i.high * g.num
  let mark := point * g.den
  if i.closed then low ≤ mark && mark ≤ high else low < mark && mark < high

/-- The grid point of the interval nearest its value. -/
def Interval.nearest? (i : Interval) (tie : Tie) (g : Grid) : Option Nat :=
  let below := i.value * g.num / g.den
  let above := below + 1
  let toBelow := i.value * g.num - below * g.den
  let toAbove := above * g.den - i.value * g.num
  match i.holds g below && below != 0, i.holds g above with
  | false, false => none
  | true, false => some below
  | false, true => some above
  | true, true =>
    if toBelow < toAbove then some below
    else if toAbove < toBelow then some above
    else some (tie.choose below)

def Interval.search (i : Interval) (tie : Tie) (u : Int) : Nat → Int → Digits
  | 0, p => ⟨i.value * (Grid.ofPowers u p).num / (Grid.ofPowers u p).den, p⟩
  | steps + 1, p =>
    match i.nearest? tie (Grid.ofPowers u p) with
    | some digits => ⟨digits, p⟩
    | none => i.search tie u steps (p - 1)

def leadingPower (m : Nat) (e : Int) : Int :=
  ((m.log2 : Int) + 1 + e) * 30103 / 100000 + 1

def stripZeros : Nat → Nat → Int → Digits
  | 0, n, p => ⟨n, p⟩
  | steps + 1, n, p => if n % 10 = 0 ∧ n ≠ 0 then stripZeros steps (n / 10) (p + 1) else ⟨n, p⟩

def shortest (tie : Tie) (m : Nat) (e : Int) : Digits :=
  if m = 0 then ⟨0, 0⟩
  else
    let d := (Interval.around m e).search tie (e - 2) 24 (leadingPower m e)
    stripZeros 20 d.digits d.exponent

end PageMarks.Decimal
