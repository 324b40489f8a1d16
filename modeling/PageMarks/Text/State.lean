import PageMarks.Font
import PageMarks.Geometry

/-!
Text parameters and the matrices that place glyphs. The factors an advance needs are kept beside
the parameters they derive from, and the product of text matrix and page matrix beside the former.
-/

namespace PageMarks

open Scalar (ofInt zero)

inductive RenderMode
  | fill
  | stroke
  | fillStroke
  | invisible
  | fillClip
  | strokeClip
  | fillStrokeClip
  | clip
  deriving DecidableEq, Repr

def RenderMode.ofInt? : Int → Option RenderMode
  | 0 => some fill
  | 1 => some stroke
  | 2 => some fillStroke
  | 3 => some invisible
  | 4 => some fillClip
  | 5 => some strokeClip
  | 6 => some fillStrokeClip
  | 7 => some clip
  | _ => none

/-- A font as selected by resource name; nothing when the name could not be resolved. -/
structure SelectedFont (K : Type) where
  name : String
  font : Option (Font K)

structure TextState (K : Type) where
  font : Option (SelectedFont K)
  size : K
  charSpacing : K
  wordSpacing : K
  /-- In percent. -/
  horizontalScaling : K
  leading : K
  renderMode : RenderMode
  rise : K
  matrix : Matrix K
  lineMatrix : Matrix K
  globalMatrix : Matrix K
  inObject : Bool
  advanceFactor : K
  scaledCharSpacing : K
  scaledWordSpacing : K

namespace TextState

variable {K : Type} [Scalar K]

def refresh (t : TextState K) : TextState K :=
  { t with
    advanceFactor := t.size / ofInt 1000 * t.horizontalScaling / ofInt 100
    scaledCharSpacing := t.charSpacing * t.horizontalScaling / ofInt 100
    scaledWordSpacing := t.wordSpacing * t.horizontalScaling / ofInt 100 }

def initial : TextState K :=
  refresh
    { font := none, size := zero, charSpacing := zero, wordSpacing := zero
      horizontalScaling := ofInt 100, leading := zero, renderMode := .fill, rise := zero
      matrix := .identity, lineMatrix := .identity, globalMatrix := .identity, inObject := false
      advanceFactor := zero, scaledCharSpacing := zero, scaledWordSpacing := zero }

def setFont (font : SelectedFont K) (size : K) (t : TextState K) : TextState K :=
  { t with font := some font, size }.refresh

def setSize (size : K) (t : TextState K) : TextState K := { t with size }.refresh

def setCharSpacing (charSpacing : K) (t : TextState K) : TextState K :=
  { t with charSpacing }.refresh

def setWordSpacing (wordSpacing : K) (t : TextState K) : TextState K :=
  { t with wordSpacing }.refresh

def setHorizontalScaling (horizontalScaling : K) (t : TextState K) : TextState K :=
  { t with horizontalScaling }.refresh

def setLeading (leading : K) (t : TextState K) : TextState K := { t with leading }

def setRenderMode (renderMode : RenderMode) (t : TextState K) : TextState K := { t with renderMode }

def setRise (rise : K) (t : TextState K) : TextState K := { t with rise }

def place (ctm : Matrix K) (t : TextState K) : TextState K :=
  { t with globalMatrix := t.matrix.followedBy ctm }

def beginObject (ctm : Matrix K) (t : TextState K) : TextState K :=
  { t with inObject := true, matrix := .identity, lineMatrix := .identity, globalMatrix := ctm }

def endObject (t : TextState K) : TextState K := { t with inObject := false }

def setMatrix (m ctm : Matrix K) (t : TextState K) : TextState K :=
  { t with matrix := m, lineMatrix := m }.place ctm

def moveLine (tx ty : K) (ctm : Matrix K) (t : TextState K) : TextState K :=
  let m := (Matrix.translation tx ty).followedBy t.lineMatrix
  t.setMatrix m ctm

def moveLineSetLeading (tx ty : K) (ctm : Matrix K) (t : TextState K) : TextState K :=
  (t.setLeading (-ty)).moveLine tx ty ctm

def nextLine (ctm : Matrix K) (t : TextState K) : TextState K := t.moveLine zero (-t.leading) ctm

def glyphAdvance (t : TextState K) (glyph : Glyph K) : K :=
  let word := if glyph.isBlank then t.scaledWordSpacing else zero
  t.advanceFactor * glyph.width + word + t.scaledCharSpacing

def adjustmentOffset (t : TextState K) (value : K) : K := -value * t.advanceFactor

def advance (tx : K) (t : TextState K) : TextState K :=
  let shift := Matrix.translation tx zero
  { t with
    matrix := shift.followedBy t.matrix
    globalMatrix := shift.followedBy t.globalMatrix }

def renderingMatrix (t : TextState K) : Matrix K :=
  Matrix.followedBy
    ⟨t.size * t.horizontalScaling / ofInt 100, zero, zero, t.size, zero, t.rise⟩
    t.globalMatrix

end TextState
end PageMarks
