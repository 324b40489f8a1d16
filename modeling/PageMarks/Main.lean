import PageMarks.Command
import PageMarks.Document.Base85
import PageMarks.Document.Json
import PageMarks.Json.Reader

/-!
The program. Documents are files of the data format, with an object table and a trailer; a command
line that makes no sense is answered with a reminder.
-/

namespace PageMarks.Command

def usageCode : UInt32 := 2

def usage : String :=
  "usage: trace FILE [--pages RANGE] [--only paths|text|images] [--format json|text]\n" ++
  "             [--max-form-depth N] [--max-stack-depth N] [--clip-hints]\n" ++
  "       ops FILE [--pages RANGE]"

def readDocument (file : String) : IO (Except FileError Document) := do
  match ← (IO.FS.readFile file).toBaseIO with
  | .error _ => return .error (.notFound file)
  | .ok text =>
    match (Json.ofText? text).bind Document.ofJson? with
    | none => return .error (.notDocument file)
    | some doc => return .ok doc

def respond [Decoder] (request : Request) : IO UInt32 := do
  let output := answer (← readDocument request.file) request
  output.out.forM fun line => IO.println line.render
  output.err.forM fun line => IO.eprintln line
  return output.code.toUInt32

end PageMarks.Command

def main (args : List String) : IO UInt32 := do
  match PageMarks.Command.Request.ofArguments? args with
  | some request => @PageMarks.Command.respond PageMarks.Base85.decoder request
  | none =>
    IO.eprintln PageMarks.Command.usage
    return PageMarks.Command.usageCode
