import PageMarks.Json
import PageMarks.Operation

/-! Operations as report lines. -/

namespace PageMarks.Report

mutual

/-- Names keep their slash, strings are decoded as text, and stream data is summed up by its
length. -/
def objectJson : Object → Json
  | .null => .null
  | .boolean value => .boolean value
  | .integer value => .integer value
  | .real value => .ofFloat value.toFloat
  | .name bytes => .string ("/" ++ Text.Utf8.decode bytes)
  | .string bytes _ => .string (Text.Utf8.decode bytes)
  | .array items => .array (itemsJson items)
  | .dictionary entries => .ofFields (entriesJson entries)
  | .stream _ data => .ofFields [("stream_bytes", .ofNat data.length)]
  | .reference id => .string (toString id.number ++ " " ++ toString id.generation ++ " R")

def itemsJson : List Object → List Json
  | [] => []
  | item :: rest => objectJson item :: itemsJson rest

def entriesJson : List (Bytes × Object) → List (String × Json)
  | [] => []
  | (key, value) :: rest => (Text.Utf8.decode key, objectJson value) :: entriesJson rest

end

def operationJson (page index : Nat) (op : Operation) : Json :=
  .ofFields
    [("page", .ofNat page), ("index", .ofNat index), ("operator", .string op.operator),
     ("category", .optional (fun operator => .string operator.group.text) op.kind?),
     ("operands", .array (itemsJson op.operands))]

end PageMarks.Report
