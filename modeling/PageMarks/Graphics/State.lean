import PageMarks.Clip
import PageMarks.Text.State

/-! The graphics state and the parameter sets that change several of its entries at once. -/

namespace PageMarks

open Scalar (ofInt one)

structure Parameters (K : Type) where
  lineWidth : Option K := none
  lineCap : Option LineCap := none
  lineJoin : Option LineJoin := none
  miterLimit : Option K := none
  dash : Option (Dash K) := none
  renderingIntent : Option String := none
  flatness : Option K := none
  strokeAlpha : Option K := none
  fillAlpha : Option K := none
  blendMode : Option String := none
  strokeAdjustment : Option Bool := none
  fontSize : Option K := none

structure Ink where
  space : ColorSpace
  color : Color

def Ink.initial (space : ColorSpace) : Ink := ⟨space, space.initialColor⟩

structure GraphicsState (K : Type) where
  ctm : Matrix K
  clip : ClipRegion K
  stroke : Ink
  fill : Ink
  lineWidth : K
  lineCap : LineCap
  lineJoin : LineJoin
  miterLimit : K
  dash : Dash K
  renderingIntent : Option String
  flatness : K
  strokeAlpha : K
  fillAlpha : K
  /-- The last parameter set applied. -/
  parameters : Option (Parameters K)
  text : TextState K

namespace GraphicsState

variable {K : Type} [Scalar K]

def initial (ctm : Matrix K) : GraphicsState K where
  ctm := ctm
  clip := .unbounded
  stroke := ⟨.deviceGray, .black⟩
  fill := ⟨.deviceGray, .black⟩
  lineWidth := one
  lineCap := .butt
  lineJoin := .miter
  miterLimit := ofInt 10
  dash := .solid
  renderingIntent := none
  flatness := one
  strokeAlpha := one
  fillAlpha := one
  parameters := none
  text := .initial

def applyParameters (p : Parameters K) (s : GraphicsState K) : GraphicsState K :=
  { s with
    lineWidth := p.lineWidth.getD s.lineWidth
    lineCap := p.lineCap.getD s.lineCap
    lineJoin := p.lineJoin.getD s.lineJoin
    miterLimit := p.miterLimit.getD s.miterLimit
    dash := p.dash.getD s.dash
    renderingIntent := p.renderingIntent.or s.renderingIntent
    flatness := p.flatness.getD s.flatness
    strokeAlpha := p.strokeAlpha.getD s.strokeAlpha
    fillAlpha := p.fillAlpha.getD s.fillAlpha
    parameters := some p
    text := match p.fontSize with
      | none => s.text
      | some size => s.text.setSize size }

end GraphicsState
end PageMarks
