import PageMarks.Device
import PageMarks.Path.Builder
import PageMarks.Surface

/-!
The imaging model as a device. A path is built, perhaps asked to clip, and ended by the operator
that paints it; painting comes first, so that a new clip bounds later marks only.
-/

namespace PageMarks

inductive PathPhase
  | noPath
  | building
  /-- A clip was asked for; the operator that ends the path installs it. -/
  | clipPending
  deriving DecidableEq, Repr

structure Engine (K σ : Type) where
  stack : StateStack K
  path : PathBuilder K
  pendingClip : Option FillRule
  phase : PathPhase
  markedDepth : Nat
  surface : σ

namespace Engine

variable {K R σ : Type} [Scalar K]

def start (initial : GraphicsState K) (limit : Nat) (surface : σ) : Engine K σ where
  stack := .start initial limit
  path := .empty initial.ctm
  pendingClip := none
  phase := .noPath
  markedDepth := 0
  surface := surface

def state (e : Engine K σ) : GraphicsState K := e.stack.current

def modify (f : GraphicsState K → GraphicsState K) (e : Engine K σ) : Engine K σ :=
  { e with stack := e.stack.modify f }

def modifyText (f : TextState K → TextState K) (e : Engine K σ) : Engine K σ :=
  e.modify fun s => { s with text := f s.text }

def placeText (f : Matrix K → TextState K → TextState K) (e : Engine K σ) : Engine K σ :=
  e.modifyText (f e.state.ctm)

def done (e : Engine K σ) : Outcome × Engine K σ := (.ok (), e)

def warn (code : WarningCode) (description : String) (e : Engine K σ) : Outcome × Engine K σ :=
  (.error (.warn code description), e)

def emit (surface : Surface K σ) (hook : Hook K) (e : Engine K σ) : Outcome × Engine K σ :=
  let (outcome, s) := surface hook e.surface
  (outcome, { e with surface := s })

/-- Operators that belong outside a path take effect inside one too, with a warning. -/
def outsidePath (operator : String) (e : Engine K σ) : Outcome × Engine K σ :=
  if e.phase = .noPath then e.done
  else e.warn .unexpectedPhase ("'" ++ operator ++ "' inside a path object")

def followMatrix (e : Engine K σ) : Engine K σ :=
  { e with path := e.path.setMatrix e.state.ctm }.placeText TextState.place

def save (e : Engine K σ) : Outcome × Engine K σ :=
  match e.stack.save with
  | .error error => (.error (.fatal (.stack error)), e)
  | .ok stack => { e with stack }.outsidePath "q"

def restore (e : Engine K σ) : Outcome × Engine K σ :=
  match e.stack.restore with
  | .error error => (.error (.fatal (.stack error)), e)
  | .ok stack => ({ e with stack } : Engine K σ).followMatrix.outsidePath "Q"

def concat (m : Matrix K) (e : Engine K σ) : Outcome × Engine K σ :=
  (e.modify fun s => { s with ctm := m.followedBy s.ctm }).followMatrix.outsidePath "cm"

def build (f : PathBuilder K → PathBuilder K) (e : Engine K σ) : Engine K σ :=
  { e with path := f e.path }

def beginPath (e : Engine K σ) : Engine K σ :=
  { e with phase := if e.phase = .noPath then .building else e.phase }

def draw (f : PathBuilder K → PathBuilder K) (e : Engine K σ) : Outcome × Engine K σ :=
  (e.beginPath.build f).done

def noCurrentPoint (operator : String) (e : Engine K σ) : Outcome × Engine K σ :=
  e.warn .noCurrentPoint ("'" ++ operator ++ "' without a current point")

def lineTo (x y : K) (e : Engine K σ) : Outcome × Engine K σ :=
  if e.path.current.isSome then e.draw (.lineTo x y)
  else (e.beginPath.build (.moveTo x y)).noCurrentPoint "l"

def drawCurve (operator : String) (f : PathBuilder K → PathBuilder K) (e : Engine K σ) :
    Outcome × Engine K σ :=
  if e.path.current.isSome then e.draw f else e.noCurrentPoint operator

def paintPath (surface : Surface K σ) (path : Path K) (degenerate : Bool) (op : PaintOp)
    (e : Engine K σ) : Outcome × Engine K σ :=
  match op with
  | .stroke => e.emit surface (.strokePath path e.state)
  | .fillStroke rule => e.emit surface (.fillAndStrokePath path rule e.state)
  | .noPaint => e.done
  | .fill rule =>
    match e.emit surface (.fillPath path rule e.state) with
    | (.ok (), e) => if degenerate then e.emit surface (.fillZeroArea path e.state) else e.done
    | failed => failed

/-- Cut the clip region to a path, and tell the surface if the painting before went well. -/
def installClip (surface : Surface K σ) (hints : Bool) (path : Path K) (rule : FillRule)
    (painted : Outcome) (e : Engine K σ) : Outcome × Engine K σ :=
  let e := e.modify fun s => { s with clip := s.clip.intersect path rule }
  match painted, hints with
  | .ok (), true => e.emit surface (.clipHint path rule e.state.clip)
  | _, _ => (painted, e)

/-- End the path: paint it, install a pending clip whether or not that went well, and start over. -/
def finishPath (surface : Surface K σ) (hints : Bool) (op : PaintOp) (e : Engine K σ) :
    Outcome × Engine K σ :=
  let path := e.path.path
  let fresh := { e with path := e.path.reset, pendingClip := none, phase := .noPath }
  let (painted, after) :=
    if path.isEmpty then fresh.done else fresh.paintPath surface path e.path.isDegenerate op
  match e.pendingClip with
  | none => (painted, after)
  | some rule => after.installClip surface hints path rule painted

def closeIf (closing : Bool) (e : Engine K σ) : Engine K σ :=
  if closing then e.build .close else e

def modifyInk (side : Side) (f : Ink → Ink) (e : Engine K σ) : Engine K σ :=
  e.modify fun s =>
    match side with
    | .stroke => { s with stroke := f s.stroke }
    | .fill => { s with fill := f s.fill }

def setColorSpace (side : Side) (name : String) (space : Option ColorSpace) (e : Engine K σ) :
    Outcome × Engine K σ :=
  match space.or (ColorSpace.ofDeviceName? name) with
  | none =>
    (.error (.warning (.aboutResource .unresolvedColorSpace
      "color space is neither a device family nor resolved" name)), e)
  | some space => (e.modifyInk side fun _ => .initial space).done

def setColor (side : Side) (color : Color) (e : Engine K σ) : Outcome × Engine K σ :=
  (e.modifyInk side fun ink => { ink with color }).done

def setDeviceColor (side : Side) (color : DeviceColor) (default : Option ColorSpace)
    (e : Engine K σ) : Outcome × Engine K σ :=
  (e.modifyInk side fun _ => ⟨default.getD color.space, .ofComponents color.components⟩).done

def beginText (e : Engine K σ) : Outcome × Engine K σ :=
  let after := e.placeText .beginObject
  if e.state.text.inObject then after.warn .unexpectedPhase "'BT' inside a text object"
  else after.done

def endText (e : Engine K σ) : Outcome × Engine K σ :=
  if e.state.text.inObject then (e.modifyText .endObject).done
  else e.warn .unexpectedPhase "'ET' outside a text object"

def font? (e : Engine K σ) : Option (Font K) := e.state.text.font.bind (·.font)

/-- Show glyphs one by one, each moving the next; a refused glyph ends the run. -/
def showGlyphs (surface : Surface K σ) : List (Glyph K) → Engine K σ → Outcome × Engine K σ
  | [], e => e.done
  | glyph :: rest, e =>
    match e.emit surface (.showGlyph glyph e.state.text.renderingMatrix e.state) with
    | (.ok (), e) =>
      showGlyphs surface rest (e.modifyText fun t => t.advance (t.glyphAdvance glyph))
    | failed => failed

/-- Without a font nothing is shown. -/
def showBytes (surface : Surface K σ) (bytes : Bytes) (e : Engine K σ) : Outcome × Engine K σ :=
  match e.font? with
  | none => e.done
  | some font => e.showGlyphs surface (font.glyphs bytes)

def missingFont (e : Engine K σ) : Outcome × Engine K σ :=
  let font := match e.state.text.font with
    | none => "no font selected"
    | some selected => "font /" ++ selected.name ++ " not loaded"
  e.warn .missingFont ("text shown with " ++ font)

def showText (surface : Surface K σ) (bytes : Bytes) (e : Engine K σ) : Outcome × Engine K σ :=
  if e.font?.isSome then e.showBytes surface bytes else e.missingFont

def showItems (surface : Surface K σ) : List (TextItem K) → Engine K σ → Outcome × Engine K σ
  | [], e => e.done
  | .text bytes :: rest, e =>
    match e.showBytes surface bytes with
    | (.ok (), e) => showItems surface rest e
    | failed => failed
  | .adjust value :: rest, e =>
    showItems surface rest (e.modifyText fun t => t.advance (t.adjustmentOffset value))

/-- Adjustments move the text position even when the font is missing. -/
def showAdjusted (surface : Surface K σ) (items : List (TextItem K)) (e : Engine K σ) :
    Outcome × Engine K σ :=
  match e.showItems surface items with
  | (.ok (), after) =>
    if e.font?.isNone && items.any TextItem.isText then after.missingFont else after.done
  | failed => failed

def beginMarked (surface : Surface K σ) (tag : String) (properties : Option Dictionary)
    (e : Engine K σ) : Outcome × Engine K σ :=
  { e with markedDepth := e.markedDepth + 1 }.emit surface (.beginMarked tag properties)

def endMarked (surface : Surface K σ) (e : Engine K σ) : Outcome × Engine K σ :=
  match e.markedDepth with
  | 0 => e.warn .unbalancedMarkedContent "'EMC' without open marked content"
  | markedDepth + 1 => { e with markedDepth }.emit surface .endMarked

/-- The answer to one callback; `hints` says whether the surface hears of new clips. -/
def call (surface : Surface K σ) (hints : Bool) (c : Callback K R) (e : Engine K σ) :
    Outcome × Engine K σ :=
  match c with
  | .save => e.save
  | .restore => e.restore
  | .concat m => e.concat m
  | .lineWidth lineWidth => (e.modify fun s => { s with lineWidth }).done
  | .lineCap lineCap => (e.modify fun s => { s with lineCap }).done
  | .lineJoin lineJoin => (e.modify fun s => { s with lineJoin }).done
  | .miterLimit miterLimit => (e.modify fun s => { s with miterLimit }).done
  | .dash dash => (e.modify fun s => { s with dash }).done
  | .renderingIntent intent => (e.modify fun s => { s with renderingIntent := some intent }).done
  | .flatness flatness => (e.modify fun s => { s with flatness }).done
  | .parameters _ none => e.done
  | .parameters _ (some parameters) => (e.modify (.applyParameters parameters)).done
  | .moveTo x y => e.draw (.moveTo x y)
  | .lineTo x y => e.lineTo x y
  | .curveTo x1 y1 x2 y2 x3 y3 => e.drawCurve "c" (.curveTo x1 y1 x2 y2 x3 y3)
  | .curveFromCurrent x2 y2 x3 y3 => e.drawCurve "v" (.curveFromCurrent x2 y2 x3 y3)
  | .curveIntoEnd x1 y1 x3 y3 => e.drawCurve "y" (.curveIntoEnd x1 y1 x3 y3)
  | .rectangle x y width height => e.draw (.rectangle x y width height)
  | .closePath => (e.build .close).done
  | .stroke closing => (e.closeIf closing).finishPath surface hints .stroke
  | .fill rule => e.finishPath surface hints (.fill rule)
  | .fillStroke closing rule => (e.closeIf closing).finishPath surface hints (.fillStroke rule)
  | .endPath => e.finishPath surface hints .noPaint
  | .clip rule => { e with pendingClip := some rule, phase := .clipPending }.done
  | .colorSpace side name space => e.setColorSpace side name space
  | .color side components => e.setColor side (.ofComponents components)
  | .pattern side components name _ => e.setColor side ⟨components, some name⟩
  | .deviceColor side color default => e.setDeviceColor side color default
  | .beginText => e.beginText
  | .endText => e.endText
  | .moveText tx ty => (e.placeText (.moveLine tx ty)).done
  | .moveTextSetLeading tx ty => (e.placeText (.moveLineSetLeading tx ty)).done
  | .textMatrix m => (e.placeText (.setMatrix m)).done
  | .nextLine => (e.placeText .nextLine).done
  | .charSpacing spacing => (e.modifyText (.setCharSpacing spacing)).done
  | .wordSpacing spacing => (e.modifyText (.setWordSpacing spacing)).done
  | .horizontalScaling percent => (e.modifyText (.setHorizontalScaling percent)).done
  | .leading leading => (e.modifyText (.setLeading leading)).done
  | .font name font size => (e.modifyText (.setFont ⟨name, font⟩ size)).done
  | .renderMode mode => (e.modifyText (.setRenderMode mode)).done
  | .rise rise => (e.modifyText (.setRise rise)).done
  | .showText bytes => e.showText surface bytes
  | .showTextAdjusted items => e.showAdjusted surface items
  | .glyphWidth .. | .glyphWidthAndBounds .. => e.done
  | .markPoint tag => e.emit surface (.markPoint tag none)
  | .markPointWith tag _ properties => e.emit surface (.markPoint tag properties)
  | .beginMarked tag => e.beginMarked surface tag none
  | .beginMarkedWith tag _ properties => e.beginMarked surface tag properties
  | .endMarked => e.endMarked surface
  | .drawXObject name (some (.image image)) => e.emit surface (.drawImage name image e.state)
  | .drawXObject _ _ => e.done
  | .drawShading name shading => e.emit surface (.drawShading name shading e.state)
  | .drawInlineImage image space => e.emit surface (.drawInlineImage image space e.state)
  | .beginCompatibility | .endCompatibility => e.done
  | .unknown _ => (.error .unsupported, e)

def device (surface : Surface K σ) (hints : Bool) : Device K R (Engine K σ) where
  features _ _ := true
  call := call surface hints

end Engine
end PageMarks
