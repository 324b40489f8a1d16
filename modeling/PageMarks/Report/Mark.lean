import PageMarks.Json
import PageMarks.Mark
import PageMarks.Path.Svg

/-! Recorded marks as report lines: one object, or one tab-separated text, for each. -/

namespace PageMarks.Report

def floats (xs : List Float) : Json := .array (xs.map .ofFloat)

def rectJson (r : Rect Float) : Json := floats r.toList

def matrixJson (m : Matrix Float) : Json := floats m.toList

def componentsJson (components : List Float32) : Json := floats (components.map Float32.toFloat)

def colorJson (color : Color) : Json :=
  match color.pattern with
  | none => componentsJson color.components
  | some pattern =>
    .ofFields [("components", componentsJson color.components), ("pattern", .string pattern)]

def detailFields : Mark Float → List (String × Json)
  | .path path op _ lineWidth stroke fill clip =>
    [("op", .string op.text), ("rule", .optional (fun r => .string r.text) op.rule?),
     ("path", .string path.svg), ("bbox", rectJson path.extent),
     ("line_width", .ofFloat lineWidth), ("stroke_color", colorJson stroke),
     ("fill_color", colorJson fill), ("clip", .optional rectJson clip)]
  | .glyph code width font size rendering color =>
    [("code", .ofNat code), ("width", .ofFloat width), ("font", .string font),
     ("size", .ofFloat size), ("x", .ofFloat rendering.e), ("y", .ofFloat rendering.f),
     ("matrix", matrixJson rendering), ("color", colorJson color)]
  | .image name width height ctm =>
    [("name", .string name), ("width", .ofNat width), ("height", .ofNat height),
     ("matrix", matrixJson ctm)]
  | .inlineImage width height ctm =>
    [("width", .ofNat width), ("height", .ofNat height), ("matrix", matrixJson ctm)]
  | .shading name type ctm =>
    [("name", .string name), ("shading_type", .optional .integer type),
     ("matrix", matrixJson ctm)]
  | .clipHint path rule bounds =>
    [("rule", .string rule.text), ("path", .string path.svg),
     ("bounds", .optional rectJson bounds)]
  | .beginMarked tag contentId =>
    [("tag", .string tag), ("mcid", .optional .integer contentId)]
  | .endMarked => []
  | .markPoint tag => [("tag", .string tag)]

def markJson (page : Nat) (mark : Mark Float) : Json :=
  .ofFields (detailFields mark ++ [("page", .ofNat page), ("kind", .string mark.kind)])

def hundredths (x : Float) : String := Decimal.fixedText 2 x

def boxText (r : Rect Float) : String :=
  "[" ++ " ".intercalate (r.toList.map hundredths) ++ "]"

def sizeText (width height : Nat) : String := toString width ++ "x" ++ toString height

def detailText : Mark Float → String
  | .path path op _ _ _ _ clip =>
    let clipText := match clip with
      | none => ""
      | some bounds => " clip " ++ boxText bounds
    op.text ++ " " ++ boxText path.extent ++ clipText
  | .glyph code _ font size rendering _ =>
    toString code ++ " " ++ font ++ " " ++ hundredths size ++ " at (" ++
      hundredths rendering.e ++ ", " ++ hundredths rendering.f ++ ")"
  | .image name width height _ => "/" ++ name ++ " " ++ sizeText width height
  | .inlineImage width height _ => sizeText width height
  | .shading name _ _ => "/" ++ name
  | .clipHint _ rule bounds =>
    match bounds with
    | none => rule.text ++ " empty"
    | some bounds => rule.text ++ " " ++ boxText bounds
  | .beginMarked tag contentId =>
    match contentId with
    | none => "/" ++ tag
    | some id => "/" ++ tag ++ " mcid " ++ toString id
  | .endMarked => ""
  | .markPoint tag => "/" ++ tag

def markText (page : Nat) (mark : Mark Float) : String :=
  "\t".intercalate [toString page, mark.kind, detailText mark]

end PageMarks.Report
