import PageMarks.Document.Json
import PageMarks.Engine

/-! Values of the imaging model as values of the data format. -/

namespace PageMarks.Report

def listJson {α : Type} (f : α → Json) (items : List α) : Json := .array (items.map f)

def reals (xs : List Float) : Json := listJson .real xs

def singles (xs : List Float32) : Json := listJson (fun x => .real x.toFloat) xs

def matrixReals (m : Matrix Float) : Json := reals m.toList

def rectReals (r : Rect Float) : Json := reals r.toList

def pointReals (p : Point Float) : Json := reals [p.x, p.y]

def ruleJson (rule : FillRule) : Json := .string rule.text

def capJson : LineCap → Json
  | .butt => .string "Butt"
  | .round => .string "Round"
  | .square => .string "ProjectingSquare"

def joinJson : LineJoin → Json
  | .miter => .string "Miter"
  | .round => .string "Round"
  | .bevel => .string "Bevel"

def renderModeJson : RenderMode → Json
  | .fill => .string "Fill"
  | .stroke => .string "Stroke"
  | .fillStroke => .string "FillStroke"
  | .invisible => .string "Invisible"
  | .fillClip => .string "FillClip"
  | .strokeClip => .string "StrokeClip"
  | .fillStrokeClip => .string "FillStrokeClip"
  | .clip => .string "Clip"

def phaseJson : PathPhase → Json
  | .noPath => .string "NoPath"
  | .building => .string "Building"
  | .clipPending => .string "ClipPending"

def dashJson (d : Dash Float) : Json :=
  .ofFields [("array", reals d.lengths), ("phase", .real d.phase)]

mutual

def spaceJson (s : ColorSpace) : Json := .ofFields (("family", .string s.family) :: spaceFields s)

def spaceFields : ColorSpace → List (String × Json)
  | .iccBased n alternate => [("components", .ofNat n), ("alternate", spaceJson alternate)]
  | .indexed base high palette =>
    [("base", spaceJson base), ("hival", .ofNat high), ("lookup", .ofBytes palette)]
  | .separation colorant alternate =>
    [("colorant", .string colorant), ("alternate", spaceJson alternate)]
  | .deviceN colorants alternate =>
    [("colorants", listJson .string colorants), ("alternate", spaceJson alternate)]
  | .pattern => [("underlying", .null)]
  | .tintedPattern underlying => [("underlying", spaceJson underlying)]
  | _ => []

end

def chosenColorJson (c : Color) : Json :=
  .ofFields [("components", singles c.components), ("pattern", .optional .string c.pattern)]

def parametersJson (p : Parameters Float) : Json :=
  .ofFields
    [("line_width", .optional .real p.lineWidth), ("line_cap", .optional capJson p.lineCap),
     ("line_join", .optional joinJson p.lineJoin), ("miter_limit", .optional .real p.miterLimit),
     ("dash", .optional dashJson p.dash),
     ("rendering_intent", .optional .string p.renderingIntent),
     ("flatness", .optional .real p.flatness), ("stroke_alpha", .optional .real p.strokeAlpha),
     ("fill_alpha", .optional .real p.fillAlpha), ("blend_mode", .optional .string p.blendMode),
     ("stroke_adjustment", .optional .boolean p.strokeAdjustment),
     ("font_size", .optional .real p.fontSize)]

def patternJson (p : Pattern Float) : Json :=
  .ofFields
    [("pattern_type", .integer p.type), ("matrix", matrixReals p.matrix),
     ("dict", p.entries.toJson)]

def shadingJson (s : Shading) : Json :=
  .ofFields
    [("shading_type", .integer s.type), ("color_space", .optional spaceJson s.space),
     ("dict", s.entries.toJson)]

def imageJson (i : Image) : Json :=
  .ofFields
    [("width", .ofNat i.width), ("height", .ofNat i.height),
     ("bits_per_component", .optional .ofNat i.bitsPerComponent),
     ("color_space", .optional spaceJson i.space), ("image_mask", .boolean i.isMask),
     ("dict", i.entries.toJson)]

def inlineImageJson (i : InlineImage Float) : Json :=
  .ofFields
    [("width", .ofNat i.width), ("height", .ofNat i.height),
     ("bits_per_component", .optional .ofNat i.bitsPerComponent),
     ("color_space", .optional spaceJson i.space),
     ("color_space_name", .optional .string i.spaceName),
     ("filters", listJson .string i.filters), ("decode", .optional reals i.decode),
     ("image_mask", .boolean i.isMask), ("interpolate", .boolean i.interpolate),
     ("dict", i.entries.toJson), ("data", .ofBytes i.data)]

def glyphJson (g : Glyph Float) : Json :=
  .ofFields
    [("code", .ofNat g.code), ("width", .real g.width), ("whitespace", .boolean g.isBlank)]

def warningJson (w : Warning) : Json :=
  .ofFields
    [("code", .string w.code.text), ("description", .string w.description),
     ("operator", .optional .string w.operator), ("operator_index", .optional .ofNat w.index),
     ("resource", .optional .string w.resource), ("display", .string w.text)]

end PageMarks.Report
