import PageMarks.Text.Utf8

/-!
Color spaces and colors. Components are single-precision; a space says how many a color takes,
which color it starts with, and how a color looks in red, green and blue.
-/

namespace PageMarks

inductive ColorSpace
  | deviceGray
  | deviceRGB
  | deviceCMYK
  | calGray
  | calRGB
  | lab
  /-- A profile with the given number of components; the alternate space stands in for it. -/
  | iccBased (components : Nat) (alternate : ColorSpace)
  /-- A palette: index `i ≤ high` selects the base color at `i` times the base component count. -/
  | indexed (base : ColorSpace) (high : Nat) (palette : Bytes)
  | separation (colorant : String) (alternate : ColorSpace)
  | deviceN (colorants : List String) (alternate : ColorSpace)
  | pattern
  /-- Uncolored patterns, tinted in the underlying space. -/
  | tintedPattern (underlying : ColorSpace)
  deriving DecidableEq, Repr

structure Color where
  components : List Float32
  pattern : Option String

def Color.ofComponents (components : List Float32) : Color := ⟨components, none⟩

def Color.black : Color := ofComponents [0]

namespace ColorSpace

/-- Families selected by name alone, with their short names. -/
def ofDeviceName? : String → Option ColorSpace
  | "DeviceGray" | "G" => some deviceGray
  | "DeviceRGB" | "RGB" => some deviceRGB
  | "DeviceCMYK" | "CMYK" => some deviceCMYK
  | "Pattern" => some pattern
  | _ => none

def ofFamilyName? : String → Option ColorSpace
  | "CalGray" => some calGray
  | "CalRGB" => some calRGB
  | "Lab" => some lab
  | other => ofDeviceName? other

def ofComponentCount? : Nat → Option ColorSpace
  | 1 => some deviceGray
  | 3 => some deviceRGB
  | 4 => some deviceCMYK
  | _ => none

def components : ColorSpace → Nat
  | deviceGray | calGray => 1
  | deviceRGB | calRGB | lab => 3
  | deviceCMYK => 4
  | iccBased components _ => components
  | indexed .. | separation .. => 1
  | deviceN colorants _ => colorants.length
  | pattern => 0
  | tintedPattern underlying => underlying.components

def initialColor (space : ColorSpace) : Color :=
  .ofComponents <|
    match space with
    | deviceCMYK => [0, 0, 0, 1]
    | separation .. | deviceN .. => List.replicate space.components 1
    | pattern | tintedPattern _ => []
    | _ => List.replicate space.components 0

def family : ColorSpace → String
  | deviceGray => "DeviceGray"
  | deviceRGB => "DeviceRGB"
  | deviceCMYK => "DeviceCMYK"
  | calGray => "CalGray"
  | calRGB => "CalRGB"
  | lab => "Lab"
  | iccBased .. => "ICCBased"
  | indexed .. => "Indexed"
  | separation .. => "Separation"
  | deviceN .. => "DeviceN"
  | pattern | tintedPattern _ => "Pattern"

structure RGB where
  red : Float32
  green : Float32
  blue : Float32

def RGB.gray (level : Float32) : RGB := ⟨level, level, level⟩

def RGB.ofInks (c m y k : Float32) : RGB :=
  ⟨(1 - c) * (1 - k), (1 - m) * (1 - k), (1 - y) * (1 - k)⟩

def wordOfSingle (x : Float32) : Nat := (if x < 0 then 0 else x).toUInt32.toNat

def entry? (palette : Bytes) (size index : Nat) : Option Bytes :=
  if index * size + size ≤ palette.length then some ((palette.drop (index * size)).take size)
  else none

/-- How a color looks, without evaluating profiles or tint transforms: alternates stand in, full
tint is full ink, and missing components are zero. -/
def toRGB? : ColorSpace → List Float32 → Option RGB
  | deviceGray, cs | calGray, cs => some (.gray (cs.getD 0 0))
  | deviceRGB, cs | calRGB, cs => some ⟨cs.getD 0 0, cs.getD 1 0, cs.getD 2 0⟩
  | deviceCMYK, cs => some (.ofInks (cs.getD 0 0) (cs.getD 1 0) (cs.getD 2 0) (cs.getD 3 0))
  | iccBased _ alternate, cs => alternate.toRGB? cs
  | indexed base high palette, cs =>
    match entry? palette base.components (min (wordOfSingle (cs.getD 0 0)) high) with
    | none => none
    | some bytes => base.toRGB? (bytes.map fun b => b.toNat.toFloat32 / 255)
  | separation _ deviceCMYK, cs => some (.ofInks 0 0 0 (cs.getD 0 0))
  | separation _ _, cs => some (.gray (1 - cs.getD 0 0))
  | deviceN _ alternate, cs =>
    if cs.length = alternate.components then alternate.toRGB? cs else none
  | lab, _ | pattern, _ | tintedPattern _, _ => none

end ColorSpace
end PageMarks
