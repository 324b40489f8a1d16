import PageMarks.Resource.ColorSpace

/-! Inline images from their operands, with short names written out. -/

namespace PageMarks.InlineImage

def expand (table : List (String × String)) (name : String) : String :=
  (table.lookup name).getD name

def keyNames : List (String × String) :=
  [("BPC", "BitsPerComponent"), ("CS", "ColorSpace"), ("D", "Decode"), ("DP", "DecodeParms"),
   ("F", "Filter"), ("H", "Height"), ("IM", "ImageMask"), ("I", "Interpolate"), ("L", "Length"),
   ("W", "Width")]

def spaceNames : List (String × String) :=
  [("G", "DeviceGray"), ("RGB", "DeviceRGB"), ("CMYK", "DeviceCMYK"), ("I", "Indexed")]

def filterNames : List (String × String) :=
  [("AHx", "ASCIIHexDecode"), ("A85", "ASCII85Decode"), ("LZW", "LZWDecode"),
   ("Fl", "FlateDecode"), ("RL", "RunLengthDecode"), ("CCF", "CCITTFaxDecode"),
   ("DCT", "DCTDecode")]

def expandKey (key : Bytes) : Bytes :=
  match keyNames.find? fun names => Text.Utf8.encode names.1 == key with
  | none => key
  | some names => Text.Utf8.encode names.2

def expandKeys (entries : Dictionary) : Dictionary :=
  Dictionary.ofList (entries.map fun (key, value) => (expandKey key, value))

def dimension (entries : Dictionary) (key : String) : Except ResolveError Nat :=
  match (entries.number? key : Option Float) with
  | none => .error (.inlineImage (.missing key))
  | some value =>
    if Scalar.lt value Scalar.zero then .error (.inlineImage (.negative key))
    else .ok (Scalar.toWord value)

/-- The space of an image: resolved, or left as a name for the resources in force. -/
def spaceOf [Decoder] (entries : Dictionary) :
    Except ResolveError (Option ColorSpace × Option String) :=
  match entries.entry? "ColorSpace" with
  | some (.name bytes) =>
    let name := expand spaceNames (Text.Utf8.decode bytes)
    match ColorSpace.ofDeviceName? name with
    | some space => .ok (some space, none)
    | none => .ok (none, some name)
  | some (.array items) =>
    (Resource.colorSpace none (.array items)).map fun space => (some space, none)
  | _ => .ok (none, none)

def filtersOf (entries : Dictionary) : List String :=
  match entries.entry? "Filter" with
  | some (.name bytes) => [expand filterNames (Text.Utf8.decode bytes)]
  | some (.array items) => (items.filterMap Object.name?).map (expand filterNames)
  | _ => []

def ofEntries [Decoder] {K : Type} [Scalar K] (entries : Dictionary) (data : Bytes) :
    Except ResolveError (InlineImage K) := do
  let width ← dimension entries "Width"
  let height ← dimension entries "Height"
  let (space, spaceName) ← spaceOf entries
  return {
    width, height, space, spaceName, entries, data
    bitsPerComponent := entries.word? "BitsPerComponent"
    filters := filtersOf entries
    decode := (entries.array? "Decode").map Object.numbersOf
    isMask := entries.flag "ImageMask"
    interpolate := entries.flag "Interpolate" }

def ofOperands [Decoder] {K : Type} [Scalar K] : List Object → Except ResolveError (InlineImage K)
  | .dictionary entries :: .string data _ :: _ => ofEntries (expandKeys entries) data
  | _ => .error (.inlineImage .operands)

/-- The image of an operation. Its operands were read from content, where no value is a stream, so
there is nothing to decode. -/
def ofContent {K : Type} [Scalar K] (operands : List Object) : Except ResolveError (InlineImage K) :=
  @ofOperands .none K _ operands

end PageMarks.InlineImage
