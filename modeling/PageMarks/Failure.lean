import PageMarks.Graphics.Stack
import PageMarks.Resource.Error
import PageMarks.Warning

/-! Fatal conditions, and how one step of interpretation can end other than well. -/

namespace PageMarks

inductive ResourceKind
  | colorSpace
  | font
  | pattern
  | shading
  | parameters
  | properties
  | xobject
  deriving DecidableEq, Repr

def ResourceKind.text : ResourceKind → String
  | colorSpace => "color space"
  | font => "font"
  | pattern => "pattern"
  | shading => "shading"
  | parameters => "ExtGState"
  | properties => "properties"
  | xobject => "XObject"

inductive Failure
  | stack (error : StackError)
  | device (message : String)
  | resolve (kind : ResourceKind) (name : String) (source : ResolveError)
  | unexpected (operator message : String)

def Failure.message : Failure → String
  | stack error => error.message
  | device message => "device failure: " ++ message
  | resolve kind name source =>
    "failed to resolve " ++ kind.text ++ " /" ++ name ++ ": " ++ source.message
  | unexpected operator message =>
    "unexpected failure in '" ++ operator ++ "': " ++ message

/-- `fatal` has yet to be offered to the handler; `abort` was offered and re-raised. -/
inductive Signal
  | unsupported
  | warning (warning : Warning)
  | fatal (failure : Failure)
  | abort (failure : Failure)

abbrev Outcome := Except Signal Unit

def Signal.warn (code : WarningCode) (description : String) : Signal :=
  .warning (.plain code description)

end PageMarks
