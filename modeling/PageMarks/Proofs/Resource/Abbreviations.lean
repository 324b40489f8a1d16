import PageMarks.Proofs.Content.Values
import PageMarks.Proofs.Interpreter.ImageSpaces
import PageMarks.Proofs.Resource.Enclosure
import PageMarks.Proofs.Text.Utf8

/-!
Inline images with all names written out. Keys, filters and color spaces have short names, each kind
in a table of its own, and the families inside arrays are known to the reading of color spaces by
both. So it makes no difference to an image, apart from the entries that are kept with it, which of
the two a name is given by; and of two entries under one key, however spelled, the later counts.
-/

namespace PageMarks

namespace Dictionary

variable {key : Bytes} {value : Object}

theorem mem_keys_set {other : Bytes} (d : Dictionary) :
    other ∈ (d.set key value).map (·.1) ↔ other = key ∨ other ∈ d.map (·.1) := by
  induction d with
  | nil => simp [set]
  | cons entry rest ih =>
    rw [set]
    by_cases same : entry.1 = key
    · rw [if_pos (beq_iff_eq.mpr same)]
      simp [same]
    · rw [if_neg (by simpa using same), List.map_cons, List.mem_cons, ih]
      simp only [List.map_cons, List.mem_cons]
      tauto

theorem nodup_set (d : Dictionary) (distinct : (d.map (·.1)).Nodup) :
    ((d.set key value).map (·.1)).Nodup := by
  induction d with
  | nil => simp [set]
  | cons entry rest ih =>
    rw [List.map_cons, List.nodup_cons] at distinct
    rw [set]
    by_cases same : entry.1 = key
    · rw [if_pos (beq_iff_eq.mpr same), List.map_cons, List.nodup_cons]
      exact ⟨same ▸ distinct.1, distinct.2⟩
    · rw [if_neg (by simpa using same), List.map_cons, List.nodup_cons, mem_keys_set]
      exact ⟨fun member => member.elim same distinct.1, ih distinct.2⟩

theorem get?_set (d : Dictionary) (other : Bytes) :
    (d.set key value).get? other = if key = other then some value else d.get? other := by
  induction d with
  | nil =>
    by_cases same : key = other <;> simp [set, get?, same]
  | cons entry rest ih =>
    rw [set]
    by_cases same : entry.1 = key
    · rw [if_pos (beq_iff_eq.mpr same)]
      by_cases asked : key = other <;> simp [get?, same, asked]
    · rw [if_neg (by simpa using same)]
      by_cases asked : entry.1 = other
      · have away : key ≠ other := fun is => same (asked.trans is.symm)
        simp [get?, asked, away]
      · have unasked : (entry.1 == other) = false := beq_eq_false_iff_ne.mpr asked
        simpa [get?, List.find?_cons, unasked] using ih

theorem ofList_concat (entries : List (Bytes × Object)) (entry : Bytes × Object) :
    ofList (entries ++ [entry]) = (ofList entries).set entry.1 entry.2 := by
  simp only [ofList, List.foldl_append, List.foldl_cons, List.foldl_nil]

theorem nodup_ofList (entries : List (Bytes × Object)) : ((ofList entries).map (·.1)).Nodup := by
  induction entries using List.reverseRecOn with
  | nil => exact List.nodup_nil
  | append_singleton entries entry ih =>
    rw [ofList_concat]
    exact nodup_set _ ih

theorem mem_keys_ofList (entries : List (Bytes × Object)) (key : Bytes) :
    key ∈ (ofList entries).map (·.1) ↔ key ∈ entries.map (·.1) := by
  induction entries using List.reverseRecOn with
  | nil => exact Iff.rfl
  | append_singleton entries entry ih =>
    rw [ofList_concat, mem_keys_set, ih, List.map_append, List.mem_append, List.map_singleton,
      List.mem_singleton, or_comm]

theorem get?_ofList (entries : List (Bytes × Object)) (key : Bytes) :
    (ofList entries).get? key = ((entries.filter (·.1 == key)).getLast?).map (·.2) := by
  induction entries using List.reverseRecOn with
  | nil => rfl
  | append_singleton entries entry ih =>
    rw [ofList_concat, get?_set, List.filter_append, List.filter_singleton]
    by_cases same : entry.1 = key
    · simp [same]
    · have away : (entry.1 == key) = false := beq_eq_false_iff_ne.mpr same
      simpa [same, away] using ih

end Dictionary

namespace InlineImage

theorem expandKey_expandKey (key : Bytes) : expandKey (expandKey key) = expandKey key := by
  have full : ∀ names ∈ keyNames,
      expandKey (Text.Utf8.encode names.2) = Text.Utf8.encode names.2 := by decide
  unfold expandKey
  cases found : keyNames.find? fun names => Text.Utf8.encode names.1 == key with
  | none => simp only [found]
  | some names => exact full names (List.mem_of_find?_eq_some found)

theorem expandKeys_full {entries : Dictionary} (distinct : (entries.map (·.1)).Nodup)
    (full : ∀ key ∈ entries.map (·.1), expandKey key = key) : expandKeys entries = entries := by
  have same : entries.map (fun entry => (expandKey entry.1, entry.2)) = entries := by
    conv_rhs => rw [← List.map_id entries]
    refine List.map_congr_left fun entry member => ?_
    rw [full entry.1 (List.mem_map_of_mem member)]
    rfl
  calc expandKeys entries
    _ = Dictionary.ofList (entries.map fun entry => (expandKey entry.1, entry.2)) := rfl
    _ = entries := by rw [same, Dictionary.ofList_distinct distinct]

theorem expandKeys_distinct (entries : Dictionary) : ((expandKeys entries).map (·.1)).Nodup :=
  Dictionary.nodup_ofList _

theorem expandKeys_expanded (entries : Dictionary) :
    ∀ key ∈ (expandKeys entries).map (·.1), expandKey key = key := by
  intro key member
  rw [expandKeys, Dictionary.mem_keys_ofList, List.map_map, List.mem_map] at member
  obtain ⟨entry, -, rfl⟩ := member
  exact expandKey_expandKey entry.1

theorem expandKeys_get? (entries : Dictionary) (key : Bytes) :
    (expandKeys entries).get? key =
      ((entries.filter fun entry => expandKey entry.1 == key).getLast?).map (·.2) := by
  rw [expandKeys, Dictionary.get?_ofList, List.filter_map, List.getLast?_map, Option.map_map]
  rfl

def longName (table : List (String × String)) (bytes : Bytes) : Bytes :=
  match table.lookup (Text.Utf8.decode bytes) with
  | none => bytes
  | some long => Text.Utf8.encode long

theorem decode_longName (table : List (String × String)) (bytes : Bytes) :
    Text.Utf8.decode (longName table bytes) = expand table (Text.Utf8.decode bytes) := by
  unfold longName expand
  cases table.lookup (Text.Utf8.decode bytes) with
  | none => rfl
  | some long => exact Text.Utf8.decode_encode long

def longFilterName : Object → Object
  | .name bytes => .name (longName filterNames bytes)
  | value => value

def longFilter : Object → Object
  | .array items => .array (items.map longFilterName)
  | value => longFilterName value

theorem expand_filter (name : String) :
    expand filterNames (expand filterNames name) = expand filterNames name :=
  expand_same (by decide) name

theorem expand_space (name : String) :
    expand spaceNames (expand spaceNames name) = expand spaceNames name :=
  expand_same (by decide) name

theorem longFilterName_name? (value : Object) :
    (longFilterName value).name?.map (expand filterNames) =
      value.name?.map (expand filterNames) := by
  cases value with
  | name bytes =>
    change some (expand filterNames (Text.Utf8.decode (longName filterNames bytes))) = _
    rw [decode_longName, expand_filter]
    rfl
  | _ => rfl

/-- Where the array of a family has the space that it builds on, counted behind the family. -/
def innerPlace? : String → Option Nat
  | "Indexed" | "I" | "Pattern" => some 0
  | "Separation" | "DeviceN" => some 1
  | _ => none

mutual

def longSpace : Object → Object
  | .name bytes => .name (longName spaceNames bytes)
  | .array items => .array (longArray items)
  | value => value

def longArray : List Object → List Object
  | .name family :: rest =>
    .name (longName spaceNames family) ::
      longParameter (innerPlace? (Text.Utf8.decode family)) rest
  | items => items

def longParameter : Option Nat → List Object → List Object
  | some 0, value :: rest => longSpace value :: rest
  | some (n + 1), value :: rest => value :: longParameter (some n) rest
  | _, rest => rest

end

def longFault : ColorSpaceFault → ColorSpaceFault
  | .unknownFamily name => .unknownFamily (expand spaceNames name)
  | .tooShort family size => .tooShort (expand spaceNames family) size
  | fault => fault

def longError : ResolveError → ResolveError
  | .colorSpace fault => .colorSpace (longFault fault)
  | error => error

end InlineImage

namespace Resource

open InlineImage (expand expand_space spaceNames longName longSpace longArray longParameter
  longError innerPlace?)

variable {α β : Type}

/-- Readings that come to the same once the families in complaints are written out. -/
def SameReading (reading other : Bounded α) : Prop :=
  reading.adapt longError = other.adapt longError

theorem adapt_bind (reading : Bounded α) (next : α → Bounded β) :
    (reading >>= next).adapt longError =
      reading.adapt longError >>= fun x => (next x).adapt longError := by
  match reading with
  | .mk none => rfl
  | .mk (some (.error _)) => rfl
  | .mk (some (.ok _)) => rfl

theorem sameReading_bind {reading other : Bounded α} {next after : α → Bounded β}
    (first : SameReading reading other) (later : ∀ x, SameReading (next x) (after x)) :
    SameReading (reading >>= next) (other >>= after) := by
  unfold SameReading at *
  simp only [adapt_bind, first, later]

theorem sameReading_settled {result other : Except ResolveError α}
    (same : result.mapError longError = other.mapError longError) :
    SameReading (settled result) (settled other) :=
  congrArg settled same

theorem familySpace_expand (name : String) :
    (familySpace (expand spaceNames name)).mapError longError =
      (familySpace name).mapError longError := by
  have families : ColorSpace.ofFamilyName? (expand spaceNames name) =
      ColorSpace.ofFamilyName? name := InlineImage.expand_same (by decide) name
  unfold familySpace
  rw [families]
  cases ColorSpace.ofFamilyName? name with
  | some space => rfl
  | none =>
    change Except.error (ResolveError.colorSpace
      (.unknownFamily (expand spaceNames (expand spaceNames name)))) = _
    rw [expand_space]
    rfl

theorem longParameter_get? (place : Option Nat) (rest : List Object) (i : Nat) :
    (longParameter place rest)[i]? =
      if place = some i then rest[i]?.map longSpace else rest[i]? := by
  match place, rest with
  | none, rest => simp [longParameter]
  | some n, [] => cases n <;> simp [longParameter]
  | some 0, value :: rest => cases i <;> simp [longParameter]
  | some (n + 1), value :: rest =>
    cases i with
    | zero => simp [longParameter]
    | succ i => simpa [longParameter] using longParameter_get? (some n) rest i

section

variable {family full : String} (spelled : expand spaceNames family = full)
  {items long : List Object} {i : Nat} {next after : Object → Bounded β}
include spelled

theorem parameter_long {place : Object → Object} (same : long[i]? = items[i]?.map place)
    (later : ∀ value, SameReading (next (place value)) (after value)) :
    SameReading (settled (parameter full long i) >>= next)
      (settled (parameter family items i) >>= after) := by
  subst spelled
  rw [parameter_eq, parameter_eq, same]
  cases items[i]? with
  | some value => exact later value
  | none =>
    have fault : longError (.colorSpace (.tooShort (expand spaceNames family) (i + 1))) =
        longError (.colorSpace (.tooShort family (i + 1))) := by
      simp only [longError, InlineImage.longFault, expand_space]
    exact congrArg (fun error => settled (.error error)) fault

theorem parameter_kept (same : long[i]? = items[i]?)
    (later : ∀ value, SameReading (next value) (after value)) :
    SameReading (settled (parameter full long i) >>= next)
      (settled (parameter family items i) >>= after) :=
  have mapped : long[i]? = items[i]?.map id := by rw [same, Option.map_id]; rfl
  parameter_long spelled mapped later

theorem locateParameter_kept (same : long[i]? = items[i]?)
    (later : ∀ value, SameReading (next value) (after value)) :
    SameReading (settled (locateParameter none full long i) >>= next)
      (settled (locateParameter none family items i) >>= after) := by
  have bound (family : String) (items : List Object) (next : Object → Bounded β) :
      settled (locateParameter none family items i) >>= next =
        settled (parameter family items i) >>= fun value => settled (locate none value) >>= next :=
    (settled_bind_settled _ _ _).symm
  rw [bound, bound]
  exact parameter_kept spelled same fun value => sameReading_bind rfl later

end

section

variable {read : Object → Bounded ColorSpace}
  (reads : ∀ value, SameReading (read (longSpace value)) (read value))
include reads

theorem inner_long {family full : String} (spelled : expand spaceNames family = full)
    {items long : List Object} {i : Nat} {next : ColorSpace → Bounded β}
    (same : long[i]? = items[i]?.map longSpace) {after : ColorSpace → Bounded β}
    (later : ∀ space, SameReading (next space) (after space)) :
    SameReading (settled (parameter full long i) >>= fun value => read value >>= next)
      (settled (parameter family items i) >>= fun value => read value >>= after) :=
  parameter_long spelled same fun value => sameReading_bind (reads value) later

/-- What an array of a family comes to, when what it builds on is rewritten and the rest is kept. -/
theorem compound_long [Decoder] {family : String} (compound : family ∈ compoundFamilies)
    {items long : List Object} (head : items.head?.bind Object.name? = some family)
    (spelled : long.head?.bind Object.name? = some (expand spaceNames family))
    (places : ∀ i, long[i + 1]? =
      if innerPlace? family = some i then items[i + 1]?.map longSpace else items[i + 1]?) :
    SameReading (spaceOfArray none read long) (spaceOfArray none read items) := by
  unfold spaceOfArray
  simp only [head, spelled, pure_bind]
  simp only [compoundFamilies, List.mem_cons, List.not_mem_nil, or_false] at compound
  rcases compound with rfl | rfl | rfl | rfl | rfl | rfl
  case inl =>
    exact locateParameter_kept rfl (places 0) fun profile => rfl
  case inr.inl | inr.inr.inl =>
    refine inner_long reads rfl (places 0) fun base => ?_
    refine locateParameter_kept rfl (places 1) fun high => sameReading_bind rfl fun high => ?_
    exact locateParameter_kept rfl (places 2) fun palette => rfl
  case inr.inr.inr.inl =>
    refine parameter_kept rfl (places 0) fun colorant => ?_
    exact inner_long reads rfl (places 1) fun alternate => rfl
  case inr.inr.inr.inr.inl =>
    refine locateParameter_kept rfl (places 0) fun colorants => sameReading_bind rfl fun names => ?_
    exact inner_long reads rfl (places 1) fun alternate => rfl
  case inr.inr.inr.inr.inr =>
    have underlying : long[1]? = items[1]?.map longSpace := places 0
    have same : expand spaceNames "Pattern" = "Pattern" := rfl
    simp only [same, underlying]
    cases items[1]? with
    | none => rfl
    | some value => exact sameReading_bind (reads value) fun space => rfl

theorem spaceOfArray_long [Decoder] (items : List Object) :
    SameReading (spaceOfArray none read (longArray items)) (spaceOfArray none read items) := by
  match items with
  | [] => rfl
  | .name family :: rest =>
    have spelled : (longArray (.name family :: rest)).head?.bind Object.name? =
        some (expand spaceNames (Text.Utf8.decode family)) := by
      simp [longArray, Object.name?, InlineImage.decode_longName]
    by_cases compound : Text.Utf8.decode family ∈ compoundFamilies
    · refine compound_long reads compound rfl spelled fun i => ?_
      rw [longArray, List.getElem?_cons_succ, List.getElem?_cons_succ]
      exact longParameter_get? _ rest i
    · have simple : expand spaceNames (Text.Utf8.decode family) ∉ compoundFamilies := by
        have same : decide (expand spaceNames (Text.Utf8.decode family) ∈ compoundFamilies) =
            decide (Text.Utf8.decode family ∈ compoundFamilies) :=
          InlineImage.expand_same (f := fun name => decide (name ∈ compoundFamilies)) (by decide) _
        simpa [compound] using same
      rw [spaceOfArray_simple simple spelled, spaceOfArray_simple compound rfl]
      exact sameReading_settled (familySpace_expand _)
  | .null :: _ | .boolean _ :: _ | .integer _ :: _ | .real _ :: _ | .string _ _ :: _
  | .array _ :: _ | .dictionary _ :: _ | .stream _ _ :: _ | .reference _ :: _ => rfl

end

theorem spaceWithin_long [Decoder] (room : Nat) (value : Object) :
    SameReading (spaceWithin none room (longSpace value)) (spaceWithin none room value) := by
  induction room generalizing value with
  | zero => rfl
  | succ room ih =>
    cases value with
    | name bytes =>
      have spelled : spaceWithin none (room + 1) (longSpace (.name bytes)) =
          settled (familySpace (expand spaceNames (Text.Utf8.decode bytes))) := by
        rw [← InlineImage.decode_longName]
        rfl
      rw [spelled]
      exact sameReading_settled (familySpace_expand _)
    | array items => exact spaceOfArray_long ih items
    | _ => rfl

theorem colorSpace_long [Decoder] (value : Object) :
    (colorSpace none (longSpace value)).mapError longError =
      (colorSpace none value).mapError longError := by
  have reads (value : Object) :
      ∃ room, spaceWithin none room value = settled (colorSpace none value) := by
    refine ⟨nestingBound none value, ?_⟩
    rcases endless_or_settles (spaceWithin none (nestingBound none value) value) with
      deep | ⟨result, settles⟩
    · exact absurd (circular_of_descends (spaceWithin_endless_iff.mp deep))
        (not_circular_outside value)
    · rw [colorSpace_eq settles, settles]
  obtain ⟨room, here⟩ := reads value
  obtain ⟨more, there⟩ := reads (longSpace value)
  -- The long form may take another bound, but within the larger of both the readings agree.
  have same := spaceWithin_long (max room more) value
  rw [spaceWithin_mono (le_max_left _ _) here, spaceWithin_mono (le_max_right _ _) there] at same
  exact Option.some.inj same

end Resource

namespace InlineImage

theorem mapError_map {ε ε' α β : Type} (f : ε → ε') (g : α → β) (result : Except ε α) :
    (result.map g).mapError f = (result.mapError f).map g := by
  cases result <;> rfl

def longValue (key : Bytes) (value : Object) : Object :=
  if key = Text.Utf8.encode "ColorSpace" then longSpace value
  else if key = Text.Utf8.encode "Filter" then longFilter value
  else value

def longValues (entries : Dictionary) : Dictionary :=
  entries.map fun entry => (entry.1, longValue entry.1 entry.2)

variable {entries : Dictionary}

theorem longValues_keys : (longValues entries).map (·.1) = entries.map (·.1) := by
  rw [longValues, List.map_map]
  rfl

theorem longValues_held (key : String) :
    Dictionary.entry? (longValues entries) key =
      (entries.entry? key).map (longValue (Text.Utf8.encode key)) := by
  have keyed : (fun entry : Bytes × Object => entry.1 == Text.Utf8.encode key) ∘
      (fun entry : Bytes × Object => (entry.1, longValue entry.1 entry.2)) =
        fun entry => entry.1 == Text.Utf8.encode key := rfl
  unfold longValues Dictionary.entry? Dictionary.get?
  rw [List.find?_map, keyed, Option.map_map, Option.map_map]
  cases found : entries.find? fun entry => entry.1 == Text.Utf8.encode key with
  | none => rfl
  | some entry =>
    have same : entry.1 = Text.Utf8.encode key := by simpa using List.find?_some found
    exact congrArg (fun key => some (longValue key entry.2)) same

theorem longValues_other {key : String} (space : key ≠ "ColorSpace") (filter : key ≠ "Filter") :
    Dictionary.entry? (longValues entries) key = entries.entry? key := by
  have different {other : String} (apart : key ≠ other) :
      Text.Utf8.encode key ≠ Text.Utf8.encode other :=
    fun same => apart (Function.LeftInverse.injective Text.Utf8.decode_encode same)
  have kept : longValue (Text.Utf8.encode key) = id := by
    funext value
    rw [longValue, if_neg (different space), if_neg (different filter), id]
  rw [longValues_held, kept, Option.map_id, id]

theorem filtersOf_long : filtersOf (longValues entries) = filtersOf entries := by
  have held : Dictionary.entry? (longValues entries) "Filter" =
      (entries.entry? "Filter").map longFilter := longValues_held "Filter"
  unfold filtersOf
  rw [held]
  cases entries.entry? "Filter" with
  | none => rfl
  | some value =>
    cases value with
    | name bytes =>
      change [expand filterNames (Text.Utf8.decode (longName filterNames bytes))] = _
      rw [decode_longName, expand_filter]
    | array items =>
      change ((items.map longFilterName).filterMap Object.name?).map (expand filterNames) =
        (items.filterMap Object.name?).map (expand filterNames)
      rw [List.filterMap_map, List.map_filterMap, List.map_filterMap]
      exact congrArg (items.filterMap ·) (funext longFilterName_name?)
    | _ => rfl

theorem spaceOf_long [Decoder] :
    (spaceOf (longValues entries)).mapError longError = (spaceOf entries).mapError longError := by
  have held : Dictionary.entry? (longValues entries) "ColorSpace" =
      (entries.entry? "ColorSpace").map longSpace := longValues_held "ColorSpace"
  unfold spaceOf
  rw [held]
  cases entries.entry? "ColorSpace" with
  | none => rfl
  | some value =>
    cases value with
    | name bytes =>
      simp only [Option.map_some, longSpace, decode_longName, expand_space]
    | array items =>
      simp only [Option.map_some, longSpace]
      rw [mapError_map, mapError_map, ← Resource.colorSpace_long (.array items), longSpace]
    | _ => rfl

variable {K : Type} [Scalar K]

theorem dimension_long {key : String} (space : key ≠ "ColorSpace") (filter : key ≠ "Filter") :
    dimension (longValues entries) key = dimension entries key := by
  simp only [dimension, Dictionary.number?, longValues_other space filter]

def imageOf (entries : Dictionary) (data : Bytes) (width height : Nat)
    (space : Option ColorSpace × Option String) : InlineImage K where
  width := width
  height := height
  bitsPerComponent := entries.word? "BitsPerComponent"
  space := space.1
  spaceName := space.2
  filters := filtersOf entries
  decode := (entries.array? "Decode").map Object.numbersOf
  isMask := entries.flag "ImageMask"
  interpolate := entries.flag "Interpolate"
  entries := entries
  data := data

theorem ofEntries_eq [Decoder] (data : Bytes) :
    (ofEntries entries data : Except ResolveError (InlineImage K)) =
      dimension entries "Width" >>= fun width => dimension entries "Height" >>= fun height =>
        (spaceOf entries).map (imageOf entries data width height) := rfl

theorem imageOf_long (data : Bytes) (width height : Nat)
    (space : Option ColorSpace × Option String) :
    (imageOf (longValues entries) data width height space : InlineImage K) =
      { imageOf entries data width height space with entries := longValues entries } := by
  simp only [imageOf, filtersOf_long, Dictionary.word?, Dictionary.array?, Dictionary.flag,
    longValues_other (by decide : "BitsPerComponent" ≠ "ColorSpace") (by decide),
    longValues_other (by decide : "Decode" ≠ "ColorSpace") (by decide),
    longValues_other (by decide : "ImageMask" ≠ "ColorSpace") (by decide),
    longValues_other (by decide : "Interpolate" ≠ "ColorSpace") (by decide)]

theorem ofEntries_long [Decoder] (data : Bytes) :
    (ofEntries (longValues entries) data : Except ResolveError (InlineImage K)).mapError longError =
      ((ofEntries entries data).map fun image =>
        { image with entries := longValues entries }).mapError longError := by
  rw [ofEntries_eq, ofEntries_eq, dimension_long (by decide) (by decide),
    dimension_long (by decide) (by decide)]
  cases dimension entries "Width" with
  | error e => rfl
  | ok width =>
    cases dimension entries "Height" with
    | error e => rfl
    | ok height =>
      change ((spaceOf (longValues entries)).map _).mapError longError =
        (((spaceOf entries).map _).map _).mapError longError
      rw [mapError_map, spaceOf_long, mapError_map, mapError_map,
        funext (imageOf_long data width height)]
      cases (spaceOf entries).mapError longError <;> rfl

theorem expandKeys_longValues :
    expandKeys (longValues (expandKeys entries)) = longValues (expandKeys entries) := by
  refine expandKeys_full ?_ ?_
  · rw [longValues_keys]
    exact expandKeys_distinct entries
  · rw [longValues_keys]
    exact expandKeys_expanded entries

/-- An image made from a dictionary whose keys are all written out, the last of the entries that
come to one key kept for it, is the image of the dictionary itself, or fails in the same way.
Writing out the names of filters and color spaces as well changes nothing but the entries in the
image; where there is none, a family that is complained of may be named by its long name. -/
theorem abbreviations_spelled_out [Decoder] (entries : Dictionary) (data : Bytes) (form : StringForm)
    (rest : List Object) :
    let image (entries : Dictionary) : Except ResolveError (InlineImage K) :=
      ofOperands (.dictionary entries :: .string data form :: rest)
    let full := expandKeys entries
    ((full.map (·.1)).Nodup ∧ (∀ key ∈ full.map (·.1), expandKey key = key) ∧
      ∀ key, full.get? key =
        ((entries.filter fun entry => expandKey entry.1 == key).getLast?).map (·.2)) ∧
    image full = image entries ∧
    (∀ made, image entries = .ok made →
      image (longValues full) = .ok { made with entries := longValues full }) ∧
    ∀ error, image entries = .error error →
      ∃ other, image (longValues full) = .error other ∧ longError other = longError error := by
  intro image full
  have keys : expandKeys full = full :=
    expandKeys_full (expandKeys_distinct entries) (expandKeys_expanded entries)
  have named : (image (longValues full)).mapError longError =
      ((image entries).map fun made =>
        { made with entries := longValues full }).mapError longError := by
    change (ofEntries (expandKeys (longValues full)) data).mapError longError = _
    rw [expandKeys_longValues]
    exact ofEntries_long data
  refine ⟨⟨expandKeys_distinct entries, expandKeys_expanded entries, expandKeys_get? entries⟩, ?_,
    ?_, ?_⟩
  · exact congrArg (ofEntries · data) keys
  · intro made direct
    rw [direct] at named
    cases spelled : image (longValues full) with
    | error other => simp [spelled, Except.mapError, Except.map] at named
    | ok other => simpa [spelled, Except.mapError, Except.map] using named
  · intro error direct
    rw [direct] at named
    cases spelled : image (longValues full) with
    | error other =>
      refine ⟨other, rfl, ?_⟩
      simpa [spelled, Except.mapError, Except.map] using named
    | ok other => simp [spelled, Except.mapError, Except.map] at named

example :
    let name (text : String) : Object := .name (Text.Utf8.encode text)
    let entry (key : String) (value : Object) := (Text.Utf8.encode key, value)
    longValues (expandKeys [
        entry "W" (.integer 1), entry "I" (.boolean true), entry "Width" (.integer 2),
        entry "CS" (.array [name "I", name "RGB", .integer 0, .string [0, 0, 0] .literal]),
        entry "F" (.array [name "AHx", name "Fl"])]) =
      [entry "Width" (.integer 2), entry "Interpolate" (.boolean true),
        entry "ColorSpace"
          (.array [name "Indexed", name "DeviceRGB", .integer 0, .string [0, 0, 0] .literal]),
        entry "Filter" (.array [name "ASCIIHexDecode", name "FlateDecode"])] := by
  rfl

end InlineImage
end PageMarks
