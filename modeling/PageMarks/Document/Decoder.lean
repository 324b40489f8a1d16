import PageMarks.Document

/-!
Streams whose data is under filters. How filters are undone is no part of the library: a decoder says
it, from the entries and the data of a stream. What is relied on is that it goes by a few entries, which
it reads as they stand.
-/

namespace PageMarks

class Decoder where
  undo : Dictionary → Bytes → Except DocumentError Bytes

namespace Decoder

/-- The entries that say how data is encoded. -/
def keys : List String := ["Filter", "DecodeParms", "Subtype"]

/-- Data is decoded alike wherever these entries are the same. -/
class Local [Decoder] : Prop where
  undo_congr : ∀ {entries entries' : Dictionary},
    (∀ key ∈ keys, entries.entry? key = entries'.entry? key) →
      ∀ data, undo entries data = undo entries' data

abbrev none : Decoder where
  undo _ _ := .error (.undecoded "unknown filter")

/-- A decoder that undoes one filter after another. Without any, nothing is left of the data. -/
abbrev ofFilters (undo : Bytes → Bytes → Except DocumentError Bytes) : Decoder where
  undo entries data :=
    match (Dictionary.entry? entries "Filter").getD .null with
    | .name filter => undo filter data
    | .array items => do
      let filters ← items.mapM fun
        | .name filter => .ok filter
        | other => .error (.wrongType "Name" other.kind)
      if filters.isEmpty then .ok [] else filters.foldlM (fun data filter => undo filter data) data
    | other => .error (.wrongType "Name or Array" other.kind)

end Decoder

def Document.streamData [Decoder] (entries : Dictionary) (data : Bytes) : Except DocumentError Bytes :=
  match entries.entry? "Filter" with
  | none => .ok data
  | some _ => Decoder.undo entries data

end PageMarks
