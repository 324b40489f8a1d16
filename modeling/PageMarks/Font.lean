import PageMarks.Color
import PageMarks.Scalar

/-!
Fonts as text showing sees them: shown bytes become glyphs, each with a code and a width in
thousandths of text space.
-/

namespace PageMarks

structure Glyph (K : Type) where
  code : Nat
  width : K
  deriving DecidableEq, Repr

/-- Word spacing applies after the codes 0 and 32, whatever the encoding. -/
def Glyph.isBlank {K : Type} (glyph : Glyph K) : Bool := glyph.code == 0 || glyph.code == 32

structure WidthRange (K : Type) where
  first : Nat
  last : Nat
  width : K
  deriving DecidableEq, Repr

/-- A simple font has one-byte codes and a table of widths from a first code on. A composite font
has two-byte codes and ranges of equal width, in order of their first codes. -/
inductive Font (K : Type)
  | simple (name : String) (first : Nat) (widths : List K) (missing : K)
  | composite (name : String) (default : K) (ranges : List (WidthRange K))
  deriving DecidableEq, Repr

namespace Font

variable {K : Type}

/-- Ranges with equal first codes keep their order. -/
def ofRanges (name : String) (default : K) (ranges : List (WidthRange K)) : Font K :=
  composite name default (ranges.mergeSort fun r s => r.first ≤ s.first)

def name : Font K → String
  | simple name .. | composite name .. => name

/-- Of the ranges that do not start after a code, only the last is asked. -/
def rangeWidth (default : K) (ranges : List (WidthRange K)) (code : Nat) : K :=
  match (ranges.takeWhile (·.first ≤ code)).getLast? with
  | none => default
  | some range => if code ≤ range.last then range.width else default

def width (code : Nat) : Font K → K
  | simple _ first widths missing =>
    if first ≤ code then widths.getD (code - first) missing else missing
  | composite _ default ranges => rangeWidth default ranges code

/-- Two-byte codes, most significant byte first; a last odd byte is followed by zero. -/
def pairCodes : Bytes → List Nat
  | [] => []
  | [high] => [high.toNat * 256]
  | high :: low :: rest => (high.toNat * 256 + low.toNat) :: pairCodes rest

def codes : Font K → Bytes → List Nat
  | simple .., bytes => bytes.map UInt8.toNat
  | composite .., bytes => pairCodes bytes

def glyphs (font : Font K) (bytes : Bytes) : List (Glyph K) :=
  (font.codes bytes).map fun code => ⟨code, font.width code⟩

end Font
end PageMarks
