import PageMarks.Failure
import PageMarks.Resource

/-!
Devices: whatever content is interpreted against. A device is a state with two functions, one that
says which kinds of resources it wants resolved and one that answers a callback.
-/

namespace PageMarks

inductive Side
  | stroke
  | fill
  deriving DecidableEq, Repr

inductive DeviceColor
  | gray (g : Float32)
  | rgb (r g b : Float32)
  | cmyk (c m y k : Float32)

namespace DeviceColor

def space : DeviceColor → ColorSpace
  | gray _ => .deviceGray
  | rgb .. => .deviceRGB
  | cmyk .. => .deviceCMYK

def components : DeviceColor → List Float32
  | gray g => [g]
  | rgb r g b => [r, g, b]
  | cmyk c m y k => [c, m, y, k]

end DeviceColor

inductive TextItem (K : Type)
  | text (bytes : Bytes)
  | adjust (value : K)

def TextItem.isText {K : Type} : TextItem K → Bool
  | text _ => true
  | adjust _ => false

/-- What content asks of a device. Resources are absent when their kind was not wanted. -/
inductive Callback (K R : Type)
  | save
  | restore
  | concat (m : Matrix K)
  | lineWidth (width : K)
  | lineCap (cap : LineCap)
  | lineJoin (join : LineJoin)
  | miterLimit (limit : K)
  | dash (dash : Dash K)
  | renderingIntent (intent : String)
  | flatness (flatness : K)
  | parameters (name : String) (parameters : Option (Parameters K))
  | moveTo (x y : K)
  | lineTo (x y : K)
  | curveTo (x1 y1 x2 y2 x3 y3 : K)
  | curveFromCurrent (x2 y2 x3 y3 : K)
  | curveIntoEnd (x1 y1 x3 y3 : K)
  | rectangle (x y width height : K)
  | closePath
  | stroke (closing : Bool)
  | fill (rule : FillRule)
  | fillStroke (closing : Bool) (rule : FillRule)
  | endPath
  | clip (rule : FillRule)
  | colorSpace (side : Side) (name : String) (space : Option ColorSpace)
  | color (side : Side) (components : List Float32)
  | pattern (side : Side) (components : List Float32) (name : String) (pattern : Option (Pattern K))
  | deviceColor (side : Side) (color : DeviceColor) (default : Option ColorSpace)
  | beginText
  | endText
  | moveText (tx ty : K)
  | moveTextSetLeading (tx ty : K)
  | textMatrix (m : Matrix K)
  | nextLine
  | charSpacing (spacing : K)
  | wordSpacing (spacing : K)
  | horizontalScaling (percent : K)
  | leading (leading : K)
  | font (name : String) (font : Option (Font K)) (size : K)
  | renderMode (mode : RenderMode)
  | rise (rise : K)
  | showText (bytes : Bytes)
  | showTextAdjusted (items : List (TextItem K))
  | glyphWidth (wx wy : K)
  | glyphWidthAndBounds (wx wy llx lly urx ury : K)
  | markPoint (tag : String)
  | markPointWith (tag : String) (name : Option String) (properties : Option Dictionary)
  | beginMarked (tag : String)
  | beginMarkedWith (tag : String) (name : Option String) (properties : Option Dictionary)
  | endMarked
  | drawXObject (name : String) (xobject : Option (XObject K R))
  | drawShading (name : String) (shading : Option Shading)
  | drawInlineImage (image : InlineImage K) (space : Option ColorSpace)
  | beginCompatibility
  | endCompatibility
  | unknown (op : Operation)

abbrev Features := ResourceKind → Bool

structure Device (K R σ : Type) where
  features : σ → Features
  call : Callback K R → σ → Outcome × σ

/-- Accepts everything except operators it has never heard of. -/
def Device.silent (K R : Type) : Device K R Unit where
  features _ _ := true
  call
    | .unknown _, s => (.error .unsupported, s)
    | _, s => (.ok (), s)

end PageMarks
