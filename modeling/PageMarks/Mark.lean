import PageMarks.Surface

/-! Marks as they are recorded, and the surface that records them in order. -/

namespace PageMarks

inductive Mark (K : Type)
  | path (path : Path K) (op : PaintOp) (zeroArea : Bool) (lineWidth : K) (stroke fill : Color)
      (clip : Option (Rect K))
  | glyph (code : Nat) (width : K) (font : String) (size : K) (rendering : Matrix K)
      (color : Color)
  | image (name : String) (width height : Nat) (ctm : Matrix K)
  | inlineImage (width height : Nat) (ctm : Matrix K)
  | shading (name : String) (type : Option Int) (ctm : Matrix K)
  | clipHint (path : Path K) (rule : FillRule) (bounds : Option (Rect K))
  | beginMarked (tag : String) (contentId : Option Int)
  | endMarked
  | markPoint (tag : String)

namespace Mark

variable {K : Type} [Scalar K]

def kind : Mark K → String
  | path _ _ zeroArea _ _ _ _ => if zeroArea then "zero_area" else "path"
  | glyph .. => "glyph"
  | image .. => "image"
  | inlineImage .. => "inline_image"
  | shading .. => "shading"
  | clipHint .. => "clip"
  | beginMarked .. => "begin_marked_content"
  | endMarked => "end_marked_content"
  | markPoint _ => "marked_content_point"

def ofPath (path : Path K) (op : PaintOp) (zeroArea : Bool) (s : GraphicsState K) : Mark K :=
  .path path op zeroArea s.lineWidth s.stroke.color s.fill.color s.clip.bounds?

def ofHook : Hook K → Mark K
  | .fillPath p rule s => ofPath p (.fill rule) false s
  | .strokePath p s => ofPath p .stroke false s
  | .fillAndStrokePath p rule s => ofPath p (.fillStroke rule) false s
  | .fillZeroArea p s => ofPath p .stroke true s
  | .clipHint p rule clip => .clipHint p rule clip.bounds?
  | .showGlyph g rendering s =>
    let font := match s.text.font with
      | none => ""
      | some selected => selected.name
    .glyph g.code g.width font s.text.size rendering s.fill.color
  | .drawImage name i s => .image name i.width i.height s.ctm
  | .drawInlineImage i _ s => .inlineImage i.width i.height s.ctm
  | .drawShading name sh s => .shading name (sh.map Shading.type) s.ctm
  | .beginMarked tag properties =>
    .beginMarked tag (properties.bind fun entries => entries.long? "MCID")
  | .endMarked => .endMarked
  | .markPoint tag _ => .markPoint tag

end Mark

def Surface.recorder {K : Type} [Scalar K] : Surface K (List (Mark K)) :=
  fun hook marks => (.ok (), marks ++ [Mark.ofHook hook])

end PageMarks
