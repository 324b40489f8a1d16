import PageMarks.Device
import PageMarks.Operand
import PageMarks.Resource.InlineImage

/-!
What one operation asks of a device, worked out before any callback is made: operands are checked
and names resolved first, so that an operation that fails here leaves no trace.
-/

namespace PageMarks.Interpreter

/-- What a sequence of operations is run in. The default spaces stand in for the device families;
`sections` counts open compatibility sections. -/
structure Frame (R : Type) where
  scope : R
  gray : Option ColorSpace
  rgb : Option ColorSpace
  cmyk : Option ColorSpace
  sections : Nat

def Frame.default? {R : Type} (f : Frame R) : ColorSpace → Option ColorSpace
  | .deviceGray => f.gray
  | .deviceRGB => f.rgb
  | .deviceCMYK => f.cmyk
  | _ => none

inductive Sequel (K R : Type)
  | nothing
  | report (warning : Warning)
  | enter (name : String) (form : Form K R)

/-- Callbacks in order, broken off at the first that does not go well, and the compatibility
sections open from then on. -/
structure Plan (K R : Type) where
  calls : List (Callback K R)
  sequel : Sequel K R
  sections : Nat

def missing (kind : ResourceKind) (name : String) : Warning :=
  .aboutResource .missingResource
    (kind.text ++ " /" ++ name ++ " is not in the resource dictionary") name

def complain {α : Type} (op : Operation) (detail : String) : Except Signal α :=
  .error (.warn .malformedOperands ("'" ++ op.operator ++ "': " ++ detail))

inductive Found (α : Type)
  | present (value : α)
  | declined
  | missing

def search {α : Type} (features : Features) (kind : ResourceKind) (name : String)
    (lookup : String → Lookup α) : Except Signal (Found α) :=
  if features kind then
    match lookup name with
    | .error source => .error (.fatal (.resolve kind name source))
    | .ok none => .ok .missing
    | .ok (some value) => .ok (.present value)
  else .ok .declined

def resource {α : Type} (features : Features) (kind : ResourceKind) (name : String)
    (lookup : String → Lookup α) : Except Signal (Option α) := do
  match ← search features kind name lookup with
  | .present value => return some value
  | .declined => return none
  | .missing => throw (.warning (missing kind name))

section

variable {K R : Type} [Scalar K] (resolver : Resolver K R) (features : Features)
  (frame : Frame R) (op : Operation)

def spaceNamed (name : String) : Except Signal (Option ColorSpace) :=
  match ColorSpace.ofDeviceName? name with
  | some space => .ok (some ((frame.default? space).getD space))
  | none => resource features .colorSpace name (resolver.colorSpace frame.scope)

/-- A property list is written in place or named. -/
def propertyList : Except Signal (Option String × Option Dictionary) := do
  match op.dictionary? 1 with
  | some entries => return (none, some entries)
  | none =>
    let name ← op.name 1
    let entries ← resource features .properties name (resolver.properties frame.scope)
    return (some name, entries)

def textItem : Object → Except Signal (TextItem K)
  | .string bytes _ => .ok (.text bytes)
  | other =>
    match (other.number? : Option K) with
    | some value => .ok (.adjust value)
    | none => complain op "array entries must be strings or numbers"

def dashLength (value : Object) : Except Signal K :=
  match (value.number? : Option K) with
  | some length => .ok length
  | none => complain op "dash lengths must be numbers"

def numbered {α : Type} (what : String) (choose : Int → Option α) : Except Signal α := do
  let value ← op.integer 0
  match choose value with
  | some choice => return choice
  | none => complain op ("unknown " ++ what ++ " " ++ toString value)

def dash : Except Signal (Dash K) := do
  let lengths ← (← op.array 0).mapM (dashLength op)
  return ⟨lengths, ← op.number 1⟩

/-- A color, or with a name behind the components a pattern. -/
def colorOrPattern (side : Side) : Except Signal (Callback K R) := do
  let components := Operation.components op.operands
  match op.lastName? with
  | none => return .color side components
  | some name =>
    let pattern ← resource features .pattern name (resolver.pattern frame.scope)
    return .pattern side components name pattern

def selectSpace (side : Side) : Except Signal (Callback K R) := do
  let name ← op.name 0
  return .colorSpace side name (← spaceNamed resolver features frame name)

def inlineImage : Except Signal (Callback K R) := do
  match InlineImage.ofContent op.operands with
  | .error error => complain op ("malformed inline image: " ++ error.message)
  | .ok image =>
    match image.space, image.spaceName with
    | none, some name =>
      return .drawInlineImage image (← spaceNamed resolver features frame name)
    | space, _ => return .drawInlineImage image space

def callback : Operator → Except Signal (Callback K R)
  | .setLineWidth => return .lineWidth (← op.number 0)
  | .setLineCap => return .lineCap (← numbered op "line cap" LineCap.ofInt?)
  | .setLineJoin => return .lineJoin (← numbered op "line join" LineJoin.ofInt?)
  | .setMiterLimit => return .miterLimit (← op.number 0)
  | .setDash => return .dash (← dash op)
  | .setRenderingIntent => return .renderingIntent (← op.name 0)
  | .setFlatness => return .flatness (← op.number 0)
  | .setParameters => do
    let name ← op.name 0
    return .parameters name
      (← resource features .parameters name (resolver.parameters frame.scope))
  | .save => return .save
  | .restore => return .restore
  | .concat => op.six Object.number? fun a b c d e f => .concat ⟨a, b, c, d, e, f⟩
  | .moveTo => op.two Object.number? .moveTo
  | .lineTo => op.two Object.number? .lineTo
  | .curveTo => op.six Object.number? .curveTo
  | .curveFromCurrent => op.four Object.number? .curveFromCurrent
  | .curveIntoEnd => op.four Object.number? .curveIntoEnd
  | .closePath => return .closePath
  | .rectangle => op.four Object.number? .rectangle
  | .stroke => return .stroke false
  | .closeStroke => return .stroke true
  | .fill | .fillOld => return .fill .nonzero
  | .fillEvenOdd => return .fill .evenOdd
  | .fillStroke => return .fillStroke false .nonzero
  | .fillStrokeEvenOdd => return .fillStroke false .evenOdd
  | .closeFillStroke => return .fillStroke true .nonzero
  | .closeFillStrokeEvenOdd => return .fillStroke true .evenOdd
  | .endPath => return .endPath
  | .clip => return .clip .nonzero
  | .clipEvenOdd => return .clip .evenOdd
  | .beginText => return .beginText
  | .endText => return .endText
  | .setCharSpacing => return .charSpacing (← op.number 0)
  | .setWordSpacing => return .wordSpacing (← op.number 0)
  | .setHorizontalScaling => return .horizontalScaling (← op.number 0)
  | .setLeading => return .leading (← op.number 0)
  | .setRenderMode => return .renderMode (← numbered op "render mode" RenderMode.ofInt?)
  | .setRise => return .rise (← op.number 0)
  | .moveText => op.two Object.number? .moveText
  | .moveTextSetLeading => op.two Object.number? .moveTextSetLeading
  | .setTextMatrix => op.six Object.number? fun a b c d e f => .textMatrix ⟨a, b, c, d, e, f⟩
  | .nextLine => return .nextLine
  | .showText => return .showText (← op.string 0)
  | .showTextAdjusted => return .showTextAdjusted (← (← op.array 0).mapM (textItem op))
  | .setGlyphWidth => op.two Object.number? .glyphWidth
  | .setGlyphWidthAndBounds => op.six Object.number? .glyphWidthAndBounds
  | .setStrokeColorSpace => selectSpace resolver features frame op .stroke
  | .setFillColorSpace => selectSpace resolver features frame op .fill
  | .setStrokeColor => return .color .stroke (Operation.components op.operands)
  | .setFillColor => return .color .fill (Operation.components op.operands)
  | .setStrokeColorOrPattern => colorOrPattern resolver features frame op .stroke
  | .setFillColorOrPattern => colorOrPattern resolver features frame op .fill
  | .setStrokeGray => op.one Object.single? fun g => .deviceColor .stroke (.gray g) frame.gray
  | .setFillGray => op.one Object.single? fun g => .deviceColor .fill (.gray g) frame.gray
  | .setStrokeRGB =>
    op.three Object.single? fun r g b => .deviceColor .stroke (.rgb r g b) frame.rgb
  | .setFillRGB => op.three Object.single? fun r g b => .deviceColor .fill (.rgb r g b) frame.rgb
  | .setStrokeCMYK =>
    op.four Object.single? fun c m y k => .deviceColor .stroke (.cmyk c m y k) frame.cmyk
  | .setFillCMYK =>
    op.four Object.single? fun c m y k => .deviceColor .fill (.cmyk c m y k) frame.cmyk
  | .paintShading => do
    let name ← op.name 0
    return .drawShading name (← resource features .shading name (resolver.shading frame.scope))
  | .inlineImage => inlineImage resolver features frame op
  | .markPoint => return .markPoint (← op.name 0)
  | .markPointWithProperties => do
    let tag ← op.name 0
    let (name, entries) ← propertyList resolver features frame op
    return .markPointWith tag name entries
  | .beginMarked => return .beginMarked (← op.name 0)
  | .beginMarkedWithProperties => do
    let tag ← op.name 0
    let (name, entries) ← propertyList resolver features frame op
    return .beginMarkedWith tag name entries
  | .endMarked => return .endMarked
  | _ => return .unknown op

def calls (calls : List (Callback K R)) : Plan K R := ⟨calls, .nothing, frame.sections⟩

/-- The size takes effect even when the font is missing. -/
def selectFont : Except Signal (Plan K R) := do
  let name ← op.name 0
  let size ← op.number 1
  match ← search features .font name (resolver.font frame.scope) with
  | .present font => return calls frame [.font name (some font) size]
  | .declined => return calls frame [.font name none size]
  | .missing =>
    return ⟨[.font name none size], .report (missing .font name), frame.sections⟩

def paintXObject : Except Signal (Plan K R) := do
  let name ← op.name 0
  let xobject ← resource features .xobject name (resolver.xobject frame.scope)
  match xobject with
  | some (.form form) =>
    return ⟨[.drawXObject name xobject], .enter name form, frame.sections⟩
  | _ => return calls frame [.drawXObject name xobject]

def endCompatibility : Except Signal (Plan K R) :=
  match frame.sections with
  | 0 => .error (.warn .unbalancedCompatibility "'EX' without a matching 'BX'")
  | sections + 1 => .ok ⟨[.endCompatibility], .nothing, sections⟩

def spacedNextLineShowText : Except Signal (Plan K R) := do
  let (word, char) ← op.two Object.number? Prod.mk
  let bytes ← op.string 2
  return calls frame [.wordSpacing word, .charSpacing char, .nextLine, .showText bytes]

/-- What an operation asks for, or the signal it ends in without asking for anything. -/
def plan : Except Signal (Plan K R) :=
  match op.kind? with
  | none => return calls frame [.unknown op]
  | some .setFont => selectFont resolver features frame op
  | some .nextLineShowText => return calls frame [.nextLine, .showText (← op.string 0)]
  | some .spacedNextLineShowText => spacedNextLineShowText frame op
  | some .inlineImageData | some .endInlineImage => return calls frame []
  | some .paintXObject => paintXObject resolver features frame op
  | some .beginCompatibility => return ⟨[.beginCompatibility], .nothing, frame.sections + 1⟩
  | some .endCompatibility => endCompatibility frame
  | some operator => return calls frame [← callback resolver features frame op operator]

end
end PageMarks.Interpreter
