import PageMarks.Text.Utf8
import PageMarks.Geometry

/-!
The values that content streams and documents are made of, and what they count as where a number,
a text or a matrix is wanted.
-/

namespace PageMarks

structure ObjectId where
  number : Nat
  generation : Nat
  deriving DecidableEq, Repr

inductive StringForm
  | literal
  | hexadecimal
  deriving DecidableEq, Repr

inductive Object
  | null
  | boolean (value : Bool)
  | integer (value : Int)
  | real (value : Float32)
  | name (bytes : Bytes)
  | string (bytes : Bytes) (form : StringForm)
  | array (items : List Object)
  | dictionary (entries : List (Bytes × Object))
  | stream (entries : List (Bytes × Object)) (data : Bytes)
  | reference (id : ObjectId)

/-- Entries in order of first insertion, keys distinct. -/
abbrev Dictionary := List (Bytes × Object)

namespace Dictionary

def get? (key : Bytes) (d : Dictionary) : Option Object :=
  (d.find? (·.1 == key)).map (·.2)

def set (key : Bytes) (value : Object) : Dictionary → Dictionary
  | [] => [(key, value)]
  | entry :: rest => if entry.1 == key then (key, value) :: rest else entry :: set key value rest

def ofList (entries : List (Bytes × Object)) : Dictionary :=
  entries.foldl (fun d (key, value) => d.set key value) []

def entry? (d : Dictionary) (key : String) : Option Object := d.get? (Text.Utf8.encode key)

end Dictionary

namespace Object

def kind : Object → String
  | null => "Null"
  | boolean _ => "Boolean"
  | integer _ => "Integer"
  | real _ => "Real"
  | name _ => "Name"
  | string .. => "String"
  | array _ => "Array"
  | dictionary _ => "Dictionary"
  | stream .. => "Stream"
  | reference _ => "Reference"

def number? {K : Type} [Scalar K] : Object → Option K
  | integer n => some (Scalar.ofInt n)
  | real x => some (Scalar.ofSingle x)
  | _ => none

def single? (value : Object) : Option Float32 :=
  (value.number? : Option Float).map Float.toFloat32

def name? : Object → Option String
  | name bytes => some (Text.Utf8.decode bytes)
  | _ => none

def array? : Object → Option (List Object)
  | array items => some items
  | _ => none

def string? : Object → Option Bytes
  | string bytes _ => some bytes
  | _ => none

def dictionary? : Object → Option Dictionary
  | dictionary entries => some entries
  | _ => none

def whole? (low high : Int) (value : Object) : Option Int :=
  (value.number? : Option Float).map (Scalar.truncate low high)

def word? (value : Object) : Option Nat := (value.whole? 0 (Bound.word - 1)).map Int.toNat

def long? (value : Object) : Option Int := value.whole? (-Bound.long) (Bound.long - 1)

def isTrue : Object → Bool
  | boolean true => true
  | _ => false

mutual

def count : Object → Nat
  | array items => countItems items + 1
  | dictionary entries | stream entries _ => countEntries entries + 1
  | _ => 1

def countItems : List Object → Nat
  | [] => 0
  | item :: rest => item.count + countItems rest

def countEntries : List (Bytes × Object) → Nat
  | [] => 0
  | (_, value) :: rest => value.count + countEntries rest

end

def numbers? {K : Type} [Scalar K] (items : List Object) : Option (List K) :=
  items.mapM number?

def numbersOf {K : Type} [Scalar K] (items : List Object) : List K :=
  items.filterMap number?

def matrix? {K : Type} [Scalar K] (items : List Object) : Option (Matrix K) :=
  (numbers? items).bind Matrix.ofList?

end Object

namespace Dictionary

variable {K : Type} [Scalar K]

def number? (d : Dictionary) (key : String) : Option K := (d.entry? key).bind Object.number?

def name? (d : Dictionary) (key : String) : Option String := (d.entry? key).bind Object.name?

def array? (d : Dictionary) (key : String) : Option (List Object) :=
  (d.entry? key).bind Object.array?

def word? (d : Dictionary) (key : String) : Option Nat := (d.entry? key).bind Object.word?

def long? (d : Dictionary) (key : String) : Option Int := (d.entry? key).bind Object.long?

def flag (d : Dictionary) (key : String) : Bool := (d.entry? key).any Object.isTrue

def matrix (d : Dictionary) : Matrix K :=
  ((d.array? "Matrix").bind Object.matrix?).getD Matrix.identity

def boundingBox? (d : Dictionary) : Option (Rect K) :=
  (d.array? "BBox").bind fun items => (Rect.ofList? (Object.numbersOf items)).map Rect.ordered

end Dictionary
end PageMarks
