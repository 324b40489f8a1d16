import PageMarks.Document.Decoder
import PageMarks.Resource

/-!
Color spaces as documents write them: a family name, or an array of a family and its parameters.
Parameters may be spaces again, through references, so a document can describe a space that contains
itself; reading then does not end, which a bound on the nesting makes visible.
-/

namespace PageMarks.Resource

/-- The value itself or what it refers to; outside a document nothing can be referred to. -/
def locate (doc : Option Document) (value : Object) : Except ResolveError Object :=
  match doc, value with
  | some doc, value => (doc.resolve value).mapError .document
  | none, .reference _ => .error .outsideDocument
  | none, value => .ok value

abbrev Bounded := ExceptT ResolveError Option

def settled {α : Type} (result : Except ResolveError α) : Bounded α := .mk (some result)

def endless {α : Type} : Bounded α := .mk none

def parameter (family : String) (items : List Object) (i : Nat) : Except ResolveError Object :=
  match items[i]? with
  | none => .error (.colorSpace (.tooShort family (i + 1)))
  | some value => .ok value

def locateParameter (doc : Option Document) (family : String) (items : List Object) (i : Nat) :
    Except ResolveError Object :=
  (parameter family items i).bind (locate doc)

def familySpace (name : String) : Except ResolveError ColorSpace :=
  match ColorSpace.ofFamilyName? name with
  | none => .error (.colorSpace (.unknownFamily name))
  | some space => .ok space

def profileComponents (entries : Dictionary) : Nat :=
  (((entries.entry? "N").bind (Object.whole? 0 (Bound.size - 1))).map Int.toNat).getD 3

def profileEntries : Object → Except ResolveError Dictionary
  | .stream entries _ => .ok entries
  | _ => .error (.colorSpace .profileNotStream)

def highIndex (value : Object) : Except ResolveError Nat :=
  match value.whole? 0 255 with
  | none => .error (.colorSpace .highNotNumber)
  | some high => .ok high.toNat

def paletteBytes [Decoder] : Object → Except ResolveError Bytes
  | .string bytes _ => .ok bytes
  | .stream entries data => (Document.streamData entries data).mapError .document
  | _ => .error (.colorSpace .paletteNotBytes)

def colorantNames : Object → Except ResolveError (List String)
  | .array names => .ok (names.filterMap Object.name?)
  | _ => .error (.colorSpace .colorantsNotArray)

/-- A space from its array, with `inner` reading the spaces among the parameters. -/
def spaceOfArray [Decoder] (doc : Option Document) (inner : Object → Bounded ColorSpace)
    (items : List Object) : Bounded ColorSpace := do
  let family ← match items.head?.bind Object.name? with
    | none => settled (.error (.colorSpace .noFamilyName))
    | some family => pure family
  let value i := settled (parameter family items i)
  let located i := settled (locateParameter doc family items i)
  match family with
  | "ICCBased" =>
    let entries ← settled (profileEntries (← located 1))
    let components := profileComponents entries
    let alternate ← match entries.entry? "Alternate" with
      | some alternate => inner alternate
      | none => pure ((ColorSpace.ofComponentCount? components).getD .deviceRGB)
    return .iccBased components alternate
  | "Indexed" | "I" =>
    let base ← inner (← value 1)
    let high ← settled (highIndex (← located 2))
    let palette ← settled (paletteBytes (← located 3))
    return .indexed base high palette
  | "Separation" =>
    let colorant := ((← value 1).name?).getD ""
    let alternate ← inner (← value 2)
    return .separation colorant alternate
  | "DeviceN" =>
    let colorants ← settled (colorantNames (← located 1))
    let alternate ← inner (← value 2)
    return .deviceN colorants alternate
  | "Pattern" =>
    match items[1]? with
    | none => return .pattern
    | some underlying => return .tintedPattern (← inner underlying)
  | other => settled (familySpace other)

/-- A space nested at most `room` deep. -/
def spaceWithin [Decoder] (doc : Option Document) : Nat → Object → Bounded ColorSpace
  | 0, _ => endless
  | room + 1, value => do
    match ← settled (locate doc value) with
    | .name bytes => settled (familySpace (Text.Utf8.decode bytes))
    | .array items => spaceOfArray doc (spaceWithin doc room) items
    | _ => settled (.error (.colorSpace .neitherNameNorArray))

/-- One more than the values there are: nesting deeper than that meets a value twice. -/
def nestingBound (doc : Option Document) (value : Object) : Nat :=
  let table := match doc with
    | none => 0
    | some doc => doc.objects.foldl (fun n entry => n + entry.2.count) 0
  table + value.count + 1

def colorSpace [Decoder] (doc : Option Document) (value : Object) : Except ResolveError ColorSpace :=
  ((spaceWithin doc (nestingBound doc value) value).run).getD (.error (.unanswered .endless))

end PageMarks.Resource
