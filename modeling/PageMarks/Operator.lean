/-!
The operators of content streams: their tokens and the groups they fall into.
-/

namespace PageMarks

inductive OperatorGroup
  | generalGraphicsState
  | specialGraphicsState
  | pathConstruction
  | pathPainting
  | clipping
  | textObject
  | textState
  | textPositioning
  | textShowing
  | type3Font
  | color
  | shading
  | inlineImage
  | xobject
  | markedContent
  | compatibility
  deriving DecidableEq, Repr

def OperatorGroup.text : OperatorGroup → String
  | generalGraphicsState => "GeneralGraphicsState"
  | specialGraphicsState => "SpecialGraphicsState"
  | pathConstruction => "PathConstruction"
  | pathPainting => "PathPainting"
  | clipping => "Clipping"
  | textObject => "TextObject"
  | textState => "TextState"
  | textPositioning => "TextPositioning"
  | textShowing => "TextShowing"
  | type3Font => "Type3Font"
  | color => "Color"
  | shading => "Shading"
  | inlineImage => "InlineImage"
  | xobject => "XObject"
  | markedContent => "MarkedContent"
  | compatibility => "Compatibility"

inductive Operator
  | setLineWidth | setLineCap | setLineJoin | setMiterLimit | setDash | setRenderingIntent
  | setFlatness | setParameters
  | save | restore | concat
  | moveTo | lineTo | curveTo | curveFromCurrent | curveIntoEnd | closePath | rectangle
  | stroke | closeStroke | fill | fillOld | fillEvenOdd | fillStroke | fillStrokeEvenOdd
  | closeFillStroke | closeFillStrokeEvenOdd | endPath
  | clip | clipEvenOdd
  | beginText | endText
  | setCharSpacing | setWordSpacing | setHorizontalScaling | setLeading | setFont
  | setRenderMode | setRise
  | moveText | moveTextSetLeading | setTextMatrix | nextLine
  | showText | showTextAdjusted | nextLineShowText | spacedNextLineShowText
  | setGlyphWidth | setGlyphWidthAndBounds
  | setStrokeColorSpace | setFillColorSpace | setStrokeColor | setStrokeColorOrPattern
  | setFillColor | setFillColorOrPattern | setStrokeGray | setFillGray | setStrokeRGB
  | setFillRGB | setStrokeCMYK | setFillCMYK
  | paintShading
  | inlineImage | inlineImageData | endInlineImage
  | paintXObject
  | markPoint | markPointWithProperties | beginMarked | beginMarkedWithProperties | endMarked
  | beginCompatibility | endCompatibility
  deriving DecidableEq, Repr

namespace Operator

def all : List Operator :=
  [.setLineWidth, .setLineCap, .setLineJoin, .setMiterLimit, .setDash, .setRenderingIntent,
   .setFlatness, .setParameters, .save, .restore, .concat, .moveTo, .lineTo, .curveTo,
   .curveFromCurrent, .curveIntoEnd, .closePath, .rectangle, .stroke, .closeStroke, .fill,
   .fillOld, .fillEvenOdd, .fillStroke, .fillStrokeEvenOdd, .closeFillStroke,
   .closeFillStrokeEvenOdd, .endPath, .clip, .clipEvenOdd, .beginText, .endText,
   .setCharSpacing, .setWordSpacing, .setHorizontalScaling, .setLeading, .setFont,
   .setRenderMode, .setRise, .moveText, .moveTextSetLeading, .setTextMatrix, .nextLine,
   .showText, .showTextAdjusted, .nextLineShowText, .spacedNextLineShowText, .setGlyphWidth,
   .setGlyphWidthAndBounds, .setStrokeColorSpace, .setFillColorSpace, .setStrokeColor,
   .setStrokeColorOrPattern, .setFillColor, .setFillColorOrPattern, .setStrokeGray,
   .setFillGray, .setStrokeRGB, .setFillRGB, .setStrokeCMYK, .setFillCMYK, .paintShading,
   .inlineImage, .inlineImageData, .endInlineImage, .paintXObject, .markPoint,
   .markPointWithProperties, .beginMarked, .beginMarkedWithProperties, .endMarked,
   .beginCompatibility, .endCompatibility]

def token : Operator → String
  | setLineWidth => "w"
  | setLineCap => "J"
  | setLineJoin => "j"
  | setMiterLimit => "M"
  | setDash => "d"
  | setRenderingIntent => "ri"
  | setFlatness => "i"
  | setParameters => "gs"
  | save => "q"
  | restore => "Q"
  | concat => "cm"
  | moveTo => "m"
  | lineTo => "l"
  | curveTo => "c"
  | curveFromCurrent => "v"
  | curveIntoEnd => "y"
  | closePath => "h"
  | rectangle => "re"
  | stroke => "S"
  | closeStroke => "s"
  | fill => "f"
  | fillOld => "F"
  | fillEvenOdd => "f*"
  | fillStroke => "B"
  | fillStrokeEvenOdd => "B*"
  | closeFillStroke => "b"
  | closeFillStrokeEvenOdd => "b*"
  | endPath => "n"
  | clip => "W"
  | clipEvenOdd => "W*"
  | beginText => "BT"
  | endText => "ET"
  | setCharSpacing => "Tc"
  | setWordSpacing => "Tw"
  | setHorizontalScaling => "Tz"
  | setLeading => "TL"
  | setFont => "Tf"
  | setRenderMode => "Tr"
  | setRise => "Ts"
  | moveText => "Td"
  | moveTextSetLeading => "TD"
  | setTextMatrix => "Tm"
  | nextLine => "T*"
  | showText => "Tj"
  | showTextAdjusted => "TJ"
  | nextLineShowText => "'"
  | spacedNextLineShowText => "\""
  | setGlyphWidth => "d0"
  | setGlyphWidthAndBounds => "d1"
  | setStrokeColorSpace => "CS"
  | setFillColorSpace => "cs"
  | setStrokeColor => "SC"
  | setStrokeColorOrPattern => "SCN"
  | setFillColor => "sc"
  | setFillColorOrPattern => "scn"
  | setStrokeGray => "G"
  | setFillGray => "g"
  | setStrokeRGB => "RG"
  | setFillRGB => "rg"
  | setStrokeCMYK => "K"
  | setFillCMYK => "k"
  | paintShading => "sh"
  | inlineImage => "BI"
  | inlineImageData => "ID"
  | endInlineImage => "EI"
  | paintXObject => "Do"
  | markPoint => "MP"
  | markPointWithProperties => "DP"
  | beginMarked => "BMC"
  | beginMarkedWithProperties => "BDC"
  | endMarked => "EMC"
  | beginCompatibility => "BX"
  | endCompatibility => "EX"

def group : Operator → OperatorGroup
  | setLineWidth | setLineCap | setLineJoin | setMiterLimit | setDash | setRenderingIntent
  | setFlatness | setParameters => .generalGraphicsState
  | save | restore | concat => .specialGraphicsState
  | moveTo | lineTo | curveTo | curveFromCurrent | curveIntoEnd | closePath | rectangle => .pathConstruction
  | stroke | closeStroke | fill | fillOld | fillEvenOdd | fillStroke | fillStrokeEvenOdd
  | closeFillStroke | closeFillStrokeEvenOdd | endPath => .pathPainting
  | clip | clipEvenOdd => .clipping
  | beginText | endText => .textObject
  | setCharSpacing | setWordSpacing | setHorizontalScaling | setLeading | setFont
  | setRenderMode | setRise => .textState
  | moveText | moveTextSetLeading | setTextMatrix | nextLine => .textPositioning
  | showText | showTextAdjusted | nextLineShowText | spacedNextLineShowText => .textShowing
  | setGlyphWidth | setGlyphWidthAndBounds => .type3Font
  | setStrokeColorSpace | setFillColorSpace | setStrokeColor | setStrokeColorOrPattern
  | setFillColor | setFillColorOrPattern | setStrokeGray | setFillGray | setStrokeRGB
  | setFillRGB | setStrokeCMYK | setFillCMYK => .color
  | paintShading => .shading
  | inlineImage | inlineImageData | endInlineImage => .inlineImage
  | paintXObject => .xobject
  | markPoint | markPointWithProperties | beginMarked | beginMarkedWithProperties
  | endMarked => .markedContent
  | beginCompatibility | endCompatibility => .compatibility

def ofToken? (token : String) : Option Operator := all.find? (·.token == token)

end Operator
end PageMarks
