import PageMarks.Failure
import PageMarks.Resource

/-! Surfaces: where finished marks go, with the graphics state they are made in. -/

namespace PageMarks

inductive Hook (K : Type)
  | fillPath (path : Path K) (rule : FillRule) (state : GraphicsState K)
  | strokePath (path : Path K) (state : GraphicsState K)
  | fillAndStrokePath (path : Path K) (rule : FillRule) (state : GraphicsState K)
  | fillZeroArea (path : Path K) (state : GraphicsState K)
  | clipHint (path : Path K) (rule : FillRule) (clip : ClipRegion K)
  | showGlyph (glyph : Glyph K) (rendering : Matrix K) (state : GraphicsState K)
  | drawImage (name : String) (image : Image) (state : GraphicsState K)
  | drawInlineImage (image : InlineImage K) (space : Option ColorSpace) (state : GraphicsState K)
  | drawShading (name : String) (shading : Option Shading) (state : GraphicsState K)
  | beginMarked (tag : String) (properties : Option Dictionary)
  | endMarked
  | markPoint (tag : String) (properties : Option Dictionary)

abbrev Surface (K σ : Type) := Hook K → σ → Outcome × σ

def Surface.silent (K : Type) : Surface K Unit := fun _ s => (.ok (), s)

end PageMarks
