import PageMarks.Failure
import PageMarks.Operation

/-!
Operands read as what an operator wants. One that is missing or of another type makes a warning, and
the operator is skipped.
-/

namespace PageMarks.Operation

variable {α β : Type}

def malformed (op : Operation) (wanted : String) : Except Signal β :=
  .error (.warn .malformedOperands
    ("'" ++ op.operator ++ "' expects " ++ wanted ++ ", got " ++ toString op.operands.length ++
      " operand(s)"))

def require (op : Operation) (wanted : String) : Option β → Except Signal β
  | none => op.malformed wanted
  | some value => .ok value

def operand (op : Operation) (wanted : String) (read : Object → Option β) (i : Nat) :
    Except Signal β :=
  op.require (wanted ++ " at position " ++ toString i) ((op.operands[i]?).bind read)

/-- An integer, or a real without a fraction. -/
def integer? : Object → Option Int
  | .integer n => some n
  | .real x =>
    let value := x.toFloat
    if value.isFinite && value == value.floor then some (Scalar.toInteger value) else none
  | _ => none

def number {K : Type} [Scalar K] (op : Operation) : Nat → Except Signal K :=
  op.operand "a number" Object.number?

def integer (op : Operation) : Nat → Except Signal Int := op.operand "an integer" integer?

def name (op : Operation) : Nat → Except Signal String := op.operand "a name" Object.name?

def string (op : Operation) : Nat → Except Signal Bytes := op.operand "a string" Object.string?

def array (op : Operation) : Nat → Except Signal (List Object) :=
  op.operand "an array" Object.array?

def dictionary? (op : Operation) (i : Nat) : Option Dictionary :=
  (op.operands[i]?).bind Object.dictionary?

def lastName? (op : Operation) : Option String := op.operands.getLast?.bind Object.name?

/-- The numbers before the first operand that is none, as color components. -/
def components : List Object → List Float32
  | [] => []
  | value :: rest =>
    match value.single? with
    | none => []
    | some x => x :: components rest

variable (op : Operation) (read : Object → Option α)

def leading? (n : Nat) : Option (List α) :=
  if n ≤ op.operands.length then (op.operands.take n).mapM read else none

def one (f : α → β) : Except Signal β :=
  op.require "1 numbers" <|
    match op.leading? read 1 with
    | some [x] => some (f x)
    | _ => none

def two (f : α → α → β) : Except Signal β :=
  op.require "2 numbers" <|
    match op.leading? read 2 with
    | some [x, y] => some (f x y)
    | _ => none

def three (f : α → α → α → β) : Except Signal β :=
  op.require "3 numbers" <|
    match op.leading? read 3 with
    | some [x, y, z] => some (f x y z)
    | _ => none

def four (f : α → α → α → α → β) : Except Signal β :=
  op.require "4 numbers" <|
    match op.leading? read 4 with
    | some [x1, x2, x3, x4] => some (f x1 x2 x3 x4)
    | _ => none

def six (f : α → α → α → α → α → α → β) : Except Signal β :=
  op.require "6 numbers" <|
    match op.leading? read 6 with
    | some [x1, x2, x3, x4, x5, x6] => some (f x1 x2 x3 x4 x5 x6)
    | _ => none

end PageMarks.Operation
