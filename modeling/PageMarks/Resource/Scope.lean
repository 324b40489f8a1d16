import PageMarks.Content.Stream
import PageMarks.Resource.ColorSpace
import PageMarks.Resource.Font

/-! The scope of a resource dictionary in a document. -/

namespace PageMarks.Resource

structure Scope where
  document : Document
  entries : Dictionary

variable {K : Type} [Scalar K]

def dash? (doc : Document) (entries : Dictionary) : Except ResolveError (Option (Dash K)) := do
  match ← followed? doc entries "D" with
  | some (.array (.array lengths :: phase :: _)) =>
    return some ⟨Object.numbersOf lengths, phase.number?.getD Scalar.zero⟩
  | _ => return none

def blendMode? (entries : Dictionary) : Option String :=
  match entries.entry? "BM" with
  | some (.array modes) => modes.head?.bind Object.name?
  | some value => value.name?
  | none => none

def parameters (doc : Document) (entries : Dictionary) :
    Except ResolveError (Parameters K) := do
  let dash ← dash? doc entries
  return {
    dash
    lineWidth := entries.number? "LW"
    lineCap := (entries.long? "LC").bind LineCap.ofInt?
    lineJoin := (entries.long? "LJ").bind LineJoin.ofInt?
    miterLimit := entries.number? "ML"
    renderingIntent := entries.name? "RI"
    flatness := entries.number? "FL"
    strokeAlpha := entries.number? "CA"
    fillAlpha := entries.number? "ca"
    blendMode := blendMode? entries
    strokeAdjustment := match entries.entry? "SA" with
      | some (.boolean value) => some value
      | _ => none
    fontSize := ((entries.array? "Font").bind (·[1]?)).bind Object.number? }

def spaceEntry? [Decoder] (doc : Document) (entries : Dictionary) : Lookup ColorSpace :=
  match entries.entry? "ColorSpace" with
  | none => .ok none
  | some value => (colorSpace (some doc) value).map some

namespace Scope

def ofObject (doc : Document) (value : Object) : Except ResolveError Scope :=
  match doc.resolve value with
  | .error e => .error (.document e)
  | .ok (.dictionary entries) => .ok ⟨doc, entries⟩
  | .ok _ => .error .resourcesNotDictionary

def find? (s : Scope) (category name : String) : Lookup Object :=
  match s.entries.entry? category with
  | none => .ok none
  | some table =>
    match s.document.resolve table with
    | .error e => .error (.document e)
    | .ok (.dictionary entries) => followed? s.document entries name
    | .ok _ => .error (.categoryNotDictionary category)

def lookup {α : Type} (s : Scope) (category name : String)
    (read : Object → Except ResolveError α) : Lookup α :=
  match s.find? category name with
  | .error e => .error e
  | .ok none => .ok none
  | .ok (some value) => (read value).map some

def entriesOf (kind : DictionaryKind) (name : String) : Object → Except ResolveError Dictionary
  | .dictionary entries => .ok entries
  | _ => .error (.notDictionary kind name)

def headerOf (kind : DictionaryKind) (name : String) : Object → Except ResolveError Dictionary
  | .dictionary entries | .stream entries _ => .ok entries
  | _ => .error (.notDictionary kind name)

def colorSpace [Decoder] (s : Scope) (name : String) : Lookup ColorSpace :=
  s.lookup "ColorSpace" name (Resource.colorSpace (some s.document))

def font (s : Scope) (name : String) : Lookup (Font K) :=
  s.lookup "Font" name fun value => do
    Resource.font s.document name (← entriesOf .font name value)

def pattern (s : Scope) (name : String) : Lookup (Pattern K) :=
  s.lookup "Pattern" name fun value => do
    let entries ← headerOf .pattern name value
    return ⟨(entries.long? "PatternType").getD 1, entries.matrix, entries⟩

def shading [Decoder] (s : Scope) (name : String) : Lookup Shading :=
  s.lookup "Shading" name fun value => do
    let entries ← headerOf .shading name value
    let space ← spaceEntry? s.document entries
    return ⟨(entries.long? "ShadingType").getD 0, space, entries⟩

def parameters (s : Scope) (name : String) : Lookup (Parameters K) :=
  s.lookup "ExtGState" name fun value => do
    Resource.parameters s.document (← entriesOf .parameters name value)

def properties (s : Scope) (name : String) : Lookup Dictionary :=
  s.lookup "Properties" name (entriesOf .propertyList name)

def form [Decoder] (s : Scope) (entries : Dictionary) (data : Bytes) :
    Except ResolveError (Form K Scope) := do
  let bytes ← (Document.streamData entries data).mapError .document
  let content ← (Content.operations bytes).mapError .content
  let scope ← match entries.entry? "Resources" with
    | none => pure none
    | some value => (ofObject s.document value).map some
  return ⟨entries.matrix, entries.boundingBox?, content, scope⟩

def image [Decoder] (s : Scope) (entries : Dictionary) : Except ResolveError Image := do
  let space ← spaceEntry? s.document entries
  return {
    space, entries
    width := (entries.word? "Width").getD 0
    height := (entries.word? "Height").getD 0
    bitsPerComponent := entries.word? "BitsPerComponent"
    isMask := entries.flag "ImageMask" }

def xobject [Decoder] (s : Scope) (name : String) : Lookup (XObject K Scope) :=
  s.lookup "XObject" name fun
    | .stream entries data =>
      match Dictionary.name? entries "Subtype" with
      | some "Form" => (s.form entries data).map .form
      | some "Image" => (s.image entries).map .image
      | some "PS" => .ok .postScript
      | other => .error (.unknownSubtype name other)
    | _ => .error (.notStream name)

def resolver [Decoder] : Resolver K Scope where
  colorSpace := colorSpace
  font := font
  pattern := pattern
  shading := shading
  parameters := parameters
  properties := properties
  xobject := xobject

end Scope
end PageMarks.Resource
