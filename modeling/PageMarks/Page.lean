import PageMarks.Document.PageTree
import PageMarks.Resource.Scope

/-! A page with its content read and its resources found. -/

namespace PageMarks

inductive PageFault
  | contentsItem (error : DocumentError)
  | contentsKind
  | parentReference (error : DocumentError)
  | parentChain

def PageFault.text : PageFault → String
  | contentsItem error => "/Contents array item: " ++ error.message
  | contentsKind => "/Contents is neither a stream nor an array"
  | parentReference error => "invalid /Parent reference: " ++ error.message
  | parentChain => "/Parent chain does not terminate"

inductive PageError
  | outOfRange (page count : Nat)
  | malformed (fault : PageFault)
  | content (error : Content.Error)
  | resolve (error : ResolveError)
  | document (error : DocumentError)

def PageError.message : PageError → String
  | outOfRange page count =>
    "page " ++ toString page ++ " out of range (document has " ++ toString count ++ " pages)"
  | malformed fault => "malformed page: " ++ fault.text
  | content error => "invalid page content: " ++ error.message
  | resolve error => error.message
  | document error => error.message

structure Page (K : Type) where
  number : Nat
  id : ObjectId
  operations : List Operation
  scope : Resource.Scope
  mediaBox : Option (Rect K)

namespace Page

/-- Nodes looked at on the way up before a page tree counts as endless. -/
def ancestorLimit : Nat := 64

/-- The value of a key on a node or its nearest ancestor that has it. -/
def inherited? (doc : Document) (key : String) :
    Nat → ObjectId → Except PageError (Option Object)
  | 0, _ => .error (.malformed .parentChain)
  | room + 1, id =>
    match doc.getDictionary id with
    | .error e => .error (.document e)
    | .ok node =>
      match node.entry? key with
      | some value => .ok (some value)
      | none =>
        match node.entry? "Parent" with
        | none => .ok none
        | some (.reference parent) => inherited? doc key room parent
        | some other =>
          .error (.malformed (.parentReference (.wrongType "Reference" other.kind)))

def streamOf [Decoder] (doc : Document) (item : Object) : Except PageError Bytes :=
  match doc.resolve item with
  | .error e => .error (.resolve (.document e))
  | .ok (.stream entries data) =>
    (Document.streamData entries data).mapError fun e => .resolve (.document e)
  | .ok other => .error (.malformed (.contentsItem (.wrongType "Stream" other.kind)))

/-- Streams one after another, a space before each that does not come first. -/
def joinStreams [Decoder] (doc : Document) (bytes : Bytes) : List Object → Except PageError Bytes
  | [] => .ok bytes
  | item :: rest =>
    match streamOf doc item with
    | .error e => .error e
    | .ok data =>
      joinStreams doc ((if bytes.isEmpty then [] else bytes ++ [32]) ++ data) rest

def contentBytes [Decoder] (doc : Document) (node : Dictionary) : Except PageError Bytes :=
  match node.entry? "Contents" with
  | none => .ok []
  | some value =>
    match doc.resolve value with
    | .error e => .error (.resolve (.document e))
    | .ok (.stream entries data) =>
      (Document.streamData entries data).mapError fun e => .resolve (.document e)
    | .ok (.array items) => joinStreams doc [] items
    | .ok .null => .ok []
    | .ok _ => .error (.malformed .contentsKind)

def scopeOf (doc : Document) (id : ObjectId) : Except PageError Resource.Scope := do
  match ← inherited? doc "Resources" ancestorLimit id with
  | none => return ⟨doc, []⟩
  | some value => (Resource.Scope.ofObject doc value).mapError .resolve

variable {K : Type} [Scalar K]

/-- Four numbers, corners in order; anything else counts as absent. -/
def boxOf? (doc : Document) (value : Object) : Option (Rect K) := do
  let items ← (doc.resolve? value).bind Object.array?
  let numbers ← Object.numbers? items
  (Rect.ofList? numbers).map Rect.ordered

def load [Decoder] (doc : Document) (number : Nat) : Except PageError (Page K) := do
  let id ← match doc.page? number with
    | none => throw (.outOfRange number doc.pages.length)
    | some id => pure id
  let node ← (doc.getDictionary id).mapError .document
  let bytes ← contentBytes doc node
  let operations ← (Content.operations bytes).mapError .content
  let scope ← scopeOf doc id
  let mediaBox := (← inherited? doc "MediaBox" ancestorLimit id).bind (boxOf? doc)
  return { number, id, operations, scope, mediaBox }

end Page
end PageMarks
