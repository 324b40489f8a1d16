import PageMarks.Font
import PageMarks.Graphics.State
import PageMarks.Operation
import PageMarks.Resource.Error

/-!
Named resources of a content stream, and scopes that resolve names to them. A scope is a value of
any type with a `Resolver`; forms may bring a scope of their own.
-/

namespace PageMarks

structure Pattern (K : Type) where
  type : Int
  matrix : Matrix K
  entries : Dictionary

structure Shading where
  type : Int
  space : Option ColorSpace
  entries : Dictionary

/-- Content that is run in place of its name; without a scope of its own it uses the caller's. -/
structure Form (K R : Type) where
  matrix : Matrix K
  box : Option (Rect K)
  content : List Operation
  scope : Option R

structure Image where
  width : Nat
  height : Nat
  bitsPerComponent : Option Nat
  space : Option ColorSpace
  isMask : Bool
  entries : Dictionary

inductive XObject (K R : Type)
  | form (form : Form K R)
  | image (image : Image)
  | postScript

/-- An image written into the content itself. A color space given by name is resolved when the image
is drawn. -/
structure InlineImage (K : Type) where
  width : Nat
  height : Nat
  bitsPerComponent : Option Nat
  space : Option ColorSpace
  spaceName : Option String
  filters : List String
  decode : Option (List K)
  isMask : Bool
  interpolate : Bool
  entries : Dictionary
  data : Bytes

abbrev Lookup (α : Type) := Except ResolveError (Option α)

structure Resolver (K R : Type) where
  colorSpace : R → String → Lookup ColorSpace
  font : R → String → Lookup (Font K)
  pattern : R → String → Lookup (Pattern K)
  shading : R → String → Lookup Shading
  parameters : R → String → Lookup (Parameters K)
  properties : R → String → Lookup Dictionary
  xobject : R → String → Lookup (XObject K R)

def Resolver.none (K R : Type) : Resolver K R where
  colorSpace _ _ := .ok Option.none
  font _ _ := .ok Option.none
  pattern _ _ := .ok Option.none
  shading _ _ := .ok Option.none
  parameters _ _ := .ok Option.none
  properties _ _ := .ok Option.none
  xobject _ _ := .ok Option.none

end PageMarks
