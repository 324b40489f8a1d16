/-! Recoverable conditions, with the operation and the resource they are about. -/

namespace PageMarks

inductive WarningCode
  | unsupportedOperator
  | malformedOperands
  | missingResource
  | missingFont
  | unexpectedPhase
  | noCurrentPoint
  | unresolvedColorSpace
  | defaultColorSpace
  | unbalancedMarkedContent
  | unbalancedCompatibility
  | formDepthExceeded
  | other
  deriving DecidableEq, Repr

def WarningCode.text : WarningCode → String
  | unsupportedOperator => "UNSUPPORTED_OPERATOR"
  | malformedOperands => "MALFORMED_OPERANDS"
  | missingResource => "MISSING_RESOURCE"
  | missingFont => "MISSING_FONT"
  | unexpectedPhase => "UNEXPECTED_PHASE"
  | noCurrentPoint => "NO_CURRENT_POINT"
  | unresolvedColorSpace => "UNRESOLVED_COLOR_SPACE"
  | defaultColorSpace => "DEFAULT_COLOR_SPACE"
  | unbalancedMarkedContent => "UNBALANCED_MARKED_CONTENT"
  | unbalancedCompatibility => "UNBALANCED_COMPATIBILITY"
  | formDepthExceeded => "FORM_DEPTH_EXCEEDED"
  | other => "OTHER"

structure Warning where
  code : WarningCode
  description : String
  operator : Option String
  /-- Position of the operation in its content. -/
  index : Option Nat
  resource : Option String
  deriving DecidableEq, Repr

namespace Warning

def plain (code : WarningCode) (description : String) : Warning :=
  ⟨code, description, none, none, none⟩

def aboutResource (code : WarningCode) (description name : String) : Warning :=
  ⟨code, description, none, none, some name⟩

def attach (operator : String) (index : Nat) (w : Warning) : Warning :=
  if w.operator.isSome then w else { w with operator := some operator, index := some index }

def text (w : Warning) : String :=
  let resource := match w.resource with
    | none => ""
    | some name => " [resource /" ++ name ++ "]"
  let operator := match w.operator, w.index with
    | none, _ => ""
    | some operator, none => " [operator '" ++ operator ++ "']"
    | some operator, some index => " [operator '" ++ operator ++ "' #" ++ toString index ++ "]"
  "[" ++ w.code.text ++ "] " ++ w.description ++ resource ++ operator

end Warning
end PageMarks
