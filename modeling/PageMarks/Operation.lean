import PageMarks.Object
import PageMarks.Operator

/-! One operator token with the operands written before it. -/

namespace PageMarks

structure Operation where
  operator : String
  operands : List Object

def Operation.kind? (op : Operation) : Option Operator := Operator.ofToken? op.operator

end PageMarks
