import PageMarks.Path.Svg
import PageMarks.Report.Value

/-! States of the imaging model, entry by entry. -/

namespace PageMarks.Report

def clipJson : ClipRegion Float → Json
  | .unbounded => .string "unbounded"
  | .empty => .string "empty"
  | .paths paths bounds =>
    let entry (p : ClipPath Float) : Json :=
      .ofFields [("path", .string p.path.svg), ("rule", ruleJson p.rule)]
    .ofFields [("bounds", rectReals bounds), ("paths", listJson entry paths)]

def selectedFontJson (f : SelectedFont Float) : Json :=
  .ofFields
    [("name", .string f.name), ("resolved", .optional (fun f => .string f.name) f.font)]

def textFields (t : TextState Float) : List (String × Json) :=
  [("text_font", .optional selectedFontJson t.font), ("text_font_size", .real t.size),
   ("text_char_spacing", .real t.charSpacing), ("text_word_spacing", .real t.wordSpacing),
   ("text_horizontal_scaling", .real t.horizontalScaling), ("text_leading", .real t.leading),
   ("text_render_mode", renderModeJson t.renderMode), ("text_rise", .real t.rise),
   ("text_advance_factor", .real t.advanceFactor),
   ("text_scaled_char_spacing", .real t.scaledCharSpacing),
   ("text_scaled_word_spacing", .real t.scaledWordSpacing),
   ("text_in_object", .boolean t.inObject), ("text_matrix", matrixReals t.matrix),
   ("text_line_matrix", matrixReals t.lineMatrix),
   ("text_global_matrix", matrixReals t.globalMatrix),
   ("text_rendering_matrix", matrixReals t.renderingMatrix)]

def stateFields (s : GraphicsState Float) : List (String × Json) :=
  [("ctm", matrixReals s.ctm), ("clip", clipJson s.clip),
   ("stroke_color_space", spaceJson s.stroke.space),
   ("fill_color_space", spaceJson s.fill.space),
   ("stroke_color", chosenColorJson s.stroke.color),
   ("fill_color", chosenColorJson s.fill.color), ("line_width", .real s.lineWidth),
   ("line_cap", capJson s.lineCap), ("line_join", joinJson s.lineJoin),
   ("miter_limit", .real s.miterLimit), ("dash", dashJson s.dash),
   ("rendering_intent", .optional .string s.renderingIntent), ("flatness", .real s.flatness),
   ("stroke_alpha", .real s.strokeAlpha), ("fill_alpha", .real s.fillAlpha),
   ("ext_state", .optional parametersJson s.parameters)] ++ textFields s.text

def pathFields (b : PathBuilder Float) : List (String × Json) :=
  [("path", .string b.path.svg), ("path_ctm", matrixReals b.ctm),
   ("path_current", .optional pointReals b.current), ("path_degenerate", .boolean b.isDegenerate),
   ("path_empty", .boolean b.isEmpty)]

def engineFields {σ : Type} (e : Engine Float σ) : List (String × Json) :=
  stateFields e.state ++ pathFields e.path ++
    [("stack_depth", .ofNat e.stack.depth), ("phase", phaseJson e.phase),
     ("pending_clip", .optional ruleJson e.pendingClip),
     ("marked_depth", .ofNat e.markedDepth)]

end PageMarks.Report
