import PageMarks.Document
import PageMarks.Json

/-!
Objects and documents as values of the data format. Bytes are written as the characters of the same
numbers, a name as a string, and other kinds of objects as an object with one field.
-/

namespace PageMarks

namespace Json

def ofBytes (bytes : Bytes) : Json :=
  string (String.ofList (bytes.map fun b => Char.ofNat b.toNat))

def bytesOfText? (text : String) : Option Bytes :=
  text.toList.mapM fun c => if c.toNat < 256 then some (UInt8.ofNat c.toNat) else none

def bytes? (value : Json) : Option Bytes := value.string?.bind bytesOfText?

def number32? (value : Json) : Option Float32 := value.real?.map Float.toFloat32

def nat? (value : Json) : Option Nat :=
  value.integer?.bind fun n => if 0 ≤ n then some n.toNat else none

end Json

def ObjectId.toJson (id : ObjectId) : Json := .array [.ofNat id.number, .ofNat id.generation]

def ObjectId.ofJson? : Json → Option ObjectId
  | .array [number, generation] => do return ⟨← number.nat?, ← generation.nat?⟩
  | _ => none

namespace Object

mutual

def toJson : Object → Json
  | null => .null
  | boolean value => .boolean value
  | integer value => .integer value
  | real value => .ofFields [("real", .real value.toFloat)]
  | name bytes => .ofBytes bytes
  | string bytes .literal => .ofFields [("str", .ofBytes bytes)]
  | string bytes .hexadecimal => .ofFields [("hex", .ofBytes bytes)]
  | array items => .array (itemsToJson items)
  | dictionary entries => .ofFields [("dict", .array (entriesToJson entries))]
  | stream entries data =>
    .ofFields [("stream",
      .ofFields [("dict", .array (entriesToJson entries)), ("data", .ofBytes data)])]
  | reference id => .ofFields [("ref", id.toJson)]

def itemsToJson : List Object → List Json
  | [] => []
  | item :: rest => item.toJson :: itemsToJson rest

def entriesToJson : List (Bytes × Object) → List Json
  | [] => []
  | (key, value) :: rest => .array [.ofBytes key, value.toJson] :: entriesToJson rest

end

mutual

def ofJson? : Json → Option Object
  | .null => some null
  | .boolean value => some (boolean value)
  | .integer value => some (integer value)
  | .number _ => none
  | .string text => (Json.bytesOfText? text).map name
  | .array items => (itemsOfJson? items).map array
  | .object [(kind, .array items)] =>
    if kind = "dict" then (entriesOfJson? items).map fun d => dictionary (Dictionary.ofList d)
    else if kind = "ref" then (ObjectId.ofJson? (.array items)).map reference
    else none
  | .object [("stream", .object [("data", data), ("dict", .array items)])] =>
    match data.bytes?, entriesOfJson? items with
    | some data, some entries => some (stream (Dictionary.ofList entries) data)
    | _, _ => none
  | .object [(kind, value)] =>
    if kind = "real" then value.number32?.map real
    else if kind = "str" then value.bytes?.map (string · .literal)
    else if kind = "hex" then value.bytes?.map (string · .hexadecimal)
    else none
  | .object _ => none

def itemsOfJson? : List Json → Option (List Object)
  | [] => some []
  | item :: rest =>
    match ofJson? item, itemsOfJson? rest with
    | some item, some rest => some (item :: rest)
    | _, _ => none

def entriesOfJson? : List Json → Option (List (Bytes × Object))
  | [] => some []
  | .array [key, value] :: rest =>
    match key.bytes?, ofJson? value, entriesOfJson? rest with
    | some key, some value, some rest => some ((key, value) :: rest)
    | _, _, _ => none
  | _ => none

end

end Object

namespace Dictionary

def toJson (d : Dictionary) : Json := (Object.dictionary d).toJson

def ofJson? (value : Json) : Option Dictionary :=
  (value.items?.bind Object.entriesOfJson?).map ofList

end Dictionary

namespace Document

def entryOfJson? : Json → Option (ObjectId × Object)
  | .array [number, generation, value] => do
    return (⟨← number.nat?, ← generation.nat?⟩, ← Object.ofJson? value)
  | _ => none

/-- An object table and a trailer; either may be left out, and a later object replaces an earlier one
of the same id. -/
def ofJson? (value : Json) : Option Document := do
  let entries ← ((value.field? "objects").getD (.array [])).items?
  let objects ← entries.mapM entryOfJson?
  let trailer ← Dictionary.ofJson? ((value.field? "trailer").getD (.array []))
  return objects.foldl (fun doc (id, object) => doc.insert id object) ⟨[], trailer⟩

end Document
end PageMarks
