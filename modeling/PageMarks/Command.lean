import PageMarks.Command.Arguments
import PageMarks.Device.Filter
import PageMarks.Engine
import PageMarks.Interpreter
import PageMarks.Mark
import PageMarks.Page
import PageMarks.Report.Mark
import PageMarks.Report.Operation

/-! The commands: report the marks of pages, or the operations in their content. -/

namespace PageMarks.Command

inductive FileError
  | notFound (file : String)
  | notDocument (file : String)

def FileError.message : FileError → String
  | notFound file => "file not found: " ++ file
  | notDocument file => "failed to open document: " ++ file

inductive Line
  | value (json : Json)
  | text (text : String)

def Line.render : Line → String
  | value j => j.render
  | text t => t

/-- What a command writes, and the code it ends with: 0 when all went well. -/
structure Output where
  out : List Line
  err : List String
  code : Nat

namespace Output

def failure (code : Nat) (message : String) : Output := ⟨[], [message], code⟩

def andThen (first : Output) (more : Output) : Output :=
  if first.code = 0 then ⟨first.out ++ more.out, first.err ++ more.err, more.code⟩ else first

def empty : Output := ⟨[], [], 0⟩

end Output

/-- Files that cannot be read, pages that cannot be selected, runs that were broken off. -/
def unreadableCode : Nat := 1

def selectionCode : Nat := 2

def brokenOffCode : Nat := 3

def selectPages (pages : Option String) (doc : Document) : Except PageRange.Error (List Nat) :=
  let count := doc.pages.length
  match pages with
  | none => .ok (List.range' 1 count)
  | some text => PageRange.select text count

def suppressed : Option Kept → Categories
  | none => .none
  | some .paths => .ofList [.text, .images]
  | some .text => .ofList [.paths, .images]
  | some .images => .ofList [.paths, .text]

def markLine (format : Format) (page : Nat) (mark : Mark Float) : Line :=
  match format with
  | .json => .value (Report.markJson page mark)
  | .text => .text (Report.markText page mark)

def warningLine (page : Nat) (warning : Warning) : String :=
  "warning: page " ++ toString page ++ ": " ++ warning.text

def tracePage [Decoder] (options : TraceOptions) (page : Page Float) : Output :=
  let device : Device Float Resource.Scope (Engine Float (List (Mark Float))) :=
    (Engine.device .recorder options.clipHints).filter (suppressed options.only)
  let host := Host.of device (Records.handler false) fun _ => false
  let engine := Engine.start (.initial .identity) options.stackDepth []
  let (ending, engine, records) :=
    Interpreter.process host Resource.Scope.resolver options.formDepth page.scope page.operations
      (engine, .empty)
  let marks := engine.surface.map (markLine options.format page.number)
  let warnings := records.warnings.map (warningLine page.number)
  match ending with
  | .ok _ => ⟨marks, warnings, 0⟩
  | .error failure =>
    let message := "Error: page " ++ toString page.number ++ ": " ++ failure.message
    ⟨marks, warnings ++ [message], brokenOffCode⟩

def listPage (page : Page Float) : Output :=
  let line entry := Line.value (Report.operationJson page.number entry.2 entry.1)
  ⟨page.operations.zipIdx.map line, [], 0⟩

def forPages [Decoder] (doc : Document) (act : Page Float → Output) (pages : List Nat) : Output :=
  pages.foldl (fun output number => output.andThen <|
    match (Page.load doc number : Except PageError (Page Float)) with
    | .error e =>
      .failure unreadableCode ("Error reading page " ++ toString number ++ ": " ++ e.message)
    | .ok page => act page) .empty

def withSelection [Decoder] (document : Except FileError Document) (pages : Option String)
    (act : Page Float → Output) : Output :=
  match document with
  | .error e => .failure unreadableCode ("Error: " ++ e.message)
  | .ok doc =>
    match selectPages pages doc with
    | .error e => .failure selectionCode ("Error: " ++ e.message)
    | .ok pages => forPages doc act pages

def answer [Decoder] (document : Except FileError Document) : Request → Output
  | .trace selection options => withSelection document selection.pages (tracePage options)
  | .operations selection => withSelection document selection.pages listPage

end PageMarks.Command
