import PageMarks.Device

/-!
Devices behind a filter. Callbacks of suppressed categories are answered without reaching the
device; the graphics state, compatibility sections and unknown operators always reach it.
-/

namespace PageMarks

inductive Category
  | paths
  | text
  | images
  | color
  | markedContent
  deriving DecidableEq, Repr

abbrev Categories := Category → Bool

namespace Categories

def ofList (categories : List Category) : Categories := categories.contains

def none : Categories := fun _ => false

def allBut (kept : Categories) : Categories := fun category => !kept category

def union (a b : Categories) : Categories := fun category => a category || b category

end Categories

def Callback.category? {K R : Type} : Callback K R → Option Category
  | save | restore | concat _ | lineWidth _ | lineCap _ | lineJoin _ | miterLimit _ | dash _
  | renderingIntent _ | flatness _ | parameters .. => none
  | moveTo .. | lineTo .. | curveTo .. | curveFromCurrent .. | curveIntoEnd .. | rectangle ..
  | closePath | stroke _ | fill _ | fillStroke .. | endPath | clip _ => some .paths
  | colorSpace .. | color .. | pattern .. | deviceColor .. => some .color
  | beginText | endText | moveText .. | moveTextSetLeading .. | textMatrix _ | nextLine
  | charSpacing _ | wordSpacing _ | horizontalScaling _ | leading _ | font .. | renderMode _
  | rise _ | showText _ | showTextAdjusted _ | glyphWidth .. | glyphWidthAndBounds .. => some .text
  | markPoint _ | markPointWith .. | beginMarked _ | beginMarkedWith .. | endMarked =>
    some .markedContent
  | drawXObject .. | drawShading .. | drawInlineImage .. => some .images
  | beginCompatibility | endCompatibility | unknown _ => none

/-- The category whose suppression makes a kind of resource useless. External objects stay wanted:
forms are run whether or not images are drawn. -/
def ResourceKind.category? : ResourceKind → Option Category
  | font => some .text
  | shading => some .images
  | colorSpace | pattern => some .color
  | properties => some .markedContent
  | parameters | xobject => none

def Device.filter {K R σ : Type} (suppressed : Categories) (d : Device K R σ) :
    Device K R σ where
  features s kind := d.features s kind && !kind.category?.any suppressed
  call c s := if c.category?.any suppressed then (.ok (), s) else d.call c s

end PageMarks
