import PageMarks.PageRange

/-!
Command-line arguments. Options may stand anywhere after the command, each at most once, with their
value in the next argument or after an equals sign.
-/

namespace PageMarks.Command

inductive Kept
  | paths
  | text
  | images
  deriving DecidableEq, Repr

def Kept.ofText? : String → Option Kept
  | "paths" => some paths
  | "text" => some text
  | "images" => some images
  | _ => none

inductive Format
  | json
  | text
  deriving DecidableEq, Repr

def Format.ofText? : String → Option Format
  | "json" => some json
  | "text" => some text
  | _ => none

structure Selection where
  file : String
  pages : Option String

structure TraceOptions where
  only : Option Kept
  format : Format
  formDepth : Nat
  stackDepth : Nat
  clipHints : Bool

def TraceOptions.default : TraceOptions := ⟨none, .json, 10, 500, false⟩

inductive Request
  | trace (selection : Selection) (options : TraceOptions)
  | operations (selection : Selection)

def Request.file : Request → String
  | trace selection _ | operations selection => selection.file

structure Arguments where
  plain : List String
  options : List (String × String)

namespace Arguments

def withOption (name value : String) (a : Arguments) : Option Arguments :=
  if a.options.any (·.1 == name) then none
  else some { a with options := (name, value) :: a.options }

def withPlain (arg : String) (a : Arguments) : Arguments := { a with plain := arg :: a.plain }

def splitValue (arg : List Char) : List Char × Option (List Char) :=
  match arg.dropWhile (· != '=') with
  | [] => (arg, none)
  | _ :: value => (arg.takeWhile (· != '='), some value)

/-- A lone hyphen is no option. -/
def looksLikeOption (arg : String) : Bool := arg.startsWith "-" && arg != "-"

/-- `takesValue` knows the options: whether a value follows, or nothing for a stranger. -/
def read (takesValue : String → Option Bool) : List String → Option Arguments
  | [] => some ⟨[], []⟩
  | "--" :: rest => some ⟨rest, []⟩
  | arg :: rest =>
    if arg.startsWith "--" then
      let (name, value) := splitValue (arg.toList.drop 2)
      let name := String.ofList name
      match takesValue name, value, rest with
      | some false, none, rest => (read takesValue rest).bind (withOption name "")
      | some true, some value, rest =>
        (read takesValue rest).bind (withOption name (String.ofList value))
      | some true, none, value :: rest =>
        if looksLikeOption value then none
        else (read takesValue rest).bind (withOption name value)
      | _, _, _ => none
    else if looksLikeOption arg then none
    else (read takesValue rest).map (withPlain arg)

def get? (a : Arguments) (name : String) : Option String := a.options.lookup name

def file? (a : Arguments) : Option String :=
  match a.plain with
  | [file] => if file.isEmpty then none else some file
  | _ => none

def value? {α : Type} (a : Arguments) (name : String) (default : α) (read : String → Option α) :
    Option α :=
  match a.get? name with
  | none => some default
  | some text => read text

end Arguments

def depth? (text : String) : Option Nat := PageRange.number? Bound.size text.toList

def traceOption : String → Option Bool
  | "pages" | "only" | "format" | "max-form-depth" | "max-stack-depth" => some true
  | "clip-hints" => some false
  | _ => none

def operationsOption : String → Option Bool
  | "pages" => some true
  | _ => none

def readTrace (args : List String) : Option Request := do
  let a ← Arguments.read traceOption args
  let file ← a.file?
  let default := TraceOptions.default
  let only ← a.value? "only" none fun text => (Kept.ofText? text).map some
  let format ← a.value? "format" default.format Format.ofText?
  let formDepth ← a.value? "max-form-depth" default.formDepth depth?
  let stackDepth ← a.value? "max-stack-depth" default.stackDepth depth?
  let clipHints := (a.get? "clip-hints").isSome
  return .trace ⟨file, a.get? "pages"⟩ ⟨only, format, formDepth, stackDepth, clipHints⟩

def readOperations (args : List String) : Option Request := do
  let a ← Arguments.read operationsOption args
  let file ← a.file?
  return .operations ⟨file, a.get? "pages"⟩

/-- The request of a command line, or nothing when it makes no sense. -/
def Request.ofArguments? : List String → Option Request
  | "trace" :: args => readTrace args
  | "ops" :: args => readOperations args
  | _ => none

end PageMarks.Command
