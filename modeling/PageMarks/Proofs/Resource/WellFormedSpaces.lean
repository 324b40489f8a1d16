import PageMarks.Proofs.Decimal.WholeNumbers
import PageMarks.Proofs.Resource.Enclosure

/-!
Color spaces that are well formed: palettes that have a color for every index, and profiles whose
alternate space takes as many components as they do. A document may say otherwise, and reading
compares nothing. So a space that is read is well formed just when all that is read for it is honest
about palettes and profiles, and that is also when its colors can be converted without loss.
-/

namespace PageMarks

namespace ColorSpace

def levels : ColorSpace → List ColorSpace
  | iccBased components alternate => iccBased components alternate :: alternate.levels
  | indexed base high palette => indexed base high palette :: base.levels
  | separation colorant alternate => separation colorant alternate :: alternate.levels
  | deviceN colorants alternate => deviceN colorants alternate :: alternate.levels
  | tintedPattern underlying => tintedPattern underlying :: underlying.levels
  | space => [space]

def Sound : ColorSpace → Prop
  | indexed base high palette => (high + 1) * base.components ≤ palette.length
  | iccBased components alternate => alternate.components = components
  | _ => True

def WellFormed (space : ColorSpace) : Prop := ∀ level ∈ space.levels, level.Sound

def ByteIndices : ColorSpace → Prop
  | indexed _ high _ => high ≤ 255
  | _ => True

theorem self_mem_levels (space : ColorSpace) : space ∈ space.levels := by
  cases space <;> exact List.mem_cons_self

/-- Colors are converted without loss: there is an entry of the palette for every one and it is
converted in place of the index, and the components of a color of a profile are as many as the space
takes that they are handed to. -/
def Converts : ColorSpace → Prop
  | indexed base high palette => ∀ cs : List Float32, ∃ color : Bytes,
    entry? palette base.components (min (wordOfSingle (cs.getD 0 0)) high) = some color ∧
      color.length = base.components ∧
      (indexed base high palette).toRGB? cs =
        base.toRGB? (color.map fun b => b.toNat.toFloat32 / 255)
  | iccBased components alternate => ∀ cs : List Float32, cs.length = components →
    cs.length = alternate.components ∧
      (iccBased components alternate).toRGB? cs = alternate.toRGB? cs
  | _ => True

theorem entry_eq_some {palette color : Bytes} {size index : Nat} :
    entry? palette size index = some color ↔
      index * size + size ≤ palette.length ∧ (palette.drop (index * size)).take size = color := by
  unfold entry?
  split
  · next inside => simp [inside]
  · next outside => simp [outside]

theorem sound_iff_converts {space : ColorSpace} (bytes : space.ByteIndices) :
    space.Sound ↔ space.Converts := by
  cases space with
  | indexed base high palette =>
    constructor
    · intro long cs
      have within : min (wordOfSingle (cs.getD 0 0)) high ≤ high := min_le_right _ _
      generalize reached : min (wordOfSingle (cs.getD 0 0)) high = index at within
      have inside : index * base.components + base.components ≤ palette.length := by
        calc index * base.components + base.components
          _ = (index + 1) * base.components := (Nat.succ_mul _ _).symm
          _ ≤ (high + 1) * base.components := Nat.mul_le_mul_right _ (Nat.succ_le_succ within)
          _ ≤ palette.length := long
      have color : entry? palette base.components index =
          some ((palette.drop (index * base.components)).take base.components) :=
        entry_eq_some.mpr ⟨inside, rfl⟩
      refine ⟨_, color, ?_, ?_⟩
      · rw [List.length_take, List.length_drop]
        omega
      · rw [toRGB?, reached, color]
    · intro converts
      -- No highest index is above 255, so this color selects the last entry.
      obtain ⟨color, last, -⟩ := converts [255]
      have top : min (wordOfSingle ([255].getD 0 0)) high = high := by
        have largest : wordOfSingle ([255].getD 0 0) = 255 := by decide +kernel
        rw [largest]
        exact min_eq_right bytes
      rw [top] at last
      calc (high + 1) * base.components
        _ = high * base.components + base.components := Nat.succ_mul _ _
        _ ≤ palette.length := (entry_eq_some.mp last).1
  | iccBased components alternate =>
    constructor
    · exact fun same cs takes => ⟨takes.trans same.symm, rfl⟩
    · intro converts
      have takes := (converts (List.replicate components 0) List.length_replicate).1
      rw [List.length_replicate] at takes
      exact takes.symm
  | _ => exact iff_of_true trivial trivial

end ColorSpace

namespace Resource

variable {doc : Option Document} {value : Object} {space : ColorSpace}

structure ArrayOf (doc : Option Document) (value : Object) (family : String) (items : List Object) :
    Prop where
  located : locate doc value = .ok (.array items)
  head : items.head?.bind Object.name? = some family

def profileAt (doc : Option Document) (items : List Object) : Except ResolveError Dictionary :=
  (locateParameter doc "ICCBased" items 1).bind profileEntries

inductive Described [Decoder] (doc : Option Document) (value : Object) : ColorSpace → Prop
  | named {bytes space} : locate doc value = .ok (.name bytes) →
    familySpace (Text.Utf8.decode bytes) = .ok space → Described doc value space
  | simple {family items space} : ArrayOf doc value family items → family ∉ compoundFamilies →
    familySpace family = .ok space → Described doc value space
  | profile {items entries} : ArrayOf doc value "ICCBased" items →
    profileAt doc items = .ok entries → entries.entry? "Alternate" = none →
    Described doc value (.iccBased (profileComponents entries)
      ((ColorSpace.ofComponentCount? (profileComponents entries)).getD .deviceRGB))
  | alternate {items entries held alternate} : ArrayOf doc value "ICCBased" items →
    profileAt doc items = .ok entries → entries.entry? "Alternate" = some held →
    colorSpace doc held = .ok alternate →
    Described doc value (.iccBased (profileComponents entries) alternate)
  | indexed {family items held base high palette} : ArrayOf doc value family items →
    family = "Indexed" ∨ family = "I" → items[1]? = some held → colorSpace doc held = .ok base →
    (locateParameter doc family items 2).bind highIndex = .ok high →
    (locateParameter doc family items 3).bind paletteBytes = .ok palette →
    Described doc value (.indexed base high palette)
  | separation {items held colorant alternate} : ArrayOf doc value "Separation" items →
    items[2]? = some held → colorSpace doc held = .ok alternate →
    Described doc value (.separation colorant alternate)
  | deviceN {items held colorants alternate} : ArrayOf doc value "DeviceN" items →
    (locateParameter doc "DeviceN" items 1).bind colorantNames = .ok colorants →
    items[2]? = some held → colorSpace doc held = .ok alternate →
    Described doc value (.deviceN colorants alternate)
  | pattern {items} : ArrayOf doc value "Pattern" items → items[1]? = none →
    Described doc value .pattern
  | tinted {items held underlying} : ArrayOf doc value "Pattern" items → items[1]? = some held →
    colorSpace doc held = .ok underlying → Described doc value (.tintedPattern underlying)

section

variable {α β : Type} {x : α}

theorem settled_ok {result : Except ResolveError α} (same : settled result = settled (.ok x)) :
    result = .ok x :=
  Option.some.inj same

theorem bind_settled {reading : Bounded β} {next : β → Bounded α}
    (bound : reading >>= next = settled (.ok x)) :
    ∃ y, reading = settled (.ok y) ∧ next y = settled (.ok x) := by
  match reading with
  | .mk none => cases congrArg ExceptT.run bound
  | .mk (some (.error e)) => cases congrArg ExceptT.run bound
  | .mk (some (.ok y)) => exact ⟨y, rfl, bound⟩

theorem bind_settled_ok {result : Except ResolveError β} {next : β → Bounded α}
    (bound : settled result >>= next = settled (.ok x)) :
    ∃ y, result = .ok y ∧ next y = settled (.ok x) := by
  obtain ⟨y, same, rest⟩ := bind_settled bound
  exact ⟨y, settled_ok same, rest⟩

end

theorem parameter_ok {family : String} {items : List Object} {i : Nat} {held : Object}
    (given : parameter family items i = .ok held) : items[i]? = some held := by
  rw [parameter_eq] at given
  split at given
  · cases given
  · next same => rw [same, Except.ok.inj given]

theorem read_parameter [Decoder] {family : String} {items : List Object} {i room : Nat}
    {next : ColorSpace → Bounded ColorSpace}
    (bound : settled (parameter family items i) >>= (fun held =>
      spaceWithin doc room held >>= next) = settled (.ok space)) :
    ∃ held inner, items[i]? = some held ∧ colorSpace doc held = .ok inner ∧
      next inner = settled (.ok space) := by
  obtain ⟨held, given, bound⟩ := bind_settled_ok bound
  obtain ⟨inner, read, bound⟩ := bind_settled bound
  exact ⟨held, inner, parameter_ok given, colorSpace_eq read, bound⟩

theorem array_described [Decoder] {family : String} {items : List Object} {room : Nat}
    (array : ArrayOf doc value family items)
    (read : spaceOfArray doc (spaceWithin doc room) items = settled (.ok space)) :
    Described doc value space := by
  by_cases compound : family ∈ compoundFamilies
  · unfold spaceOfArray at read
    simp only [array.head, pure_bind] at read
    simp only [compoundFamilies, List.mem_cons, List.not_mem_nil, or_false] at compound
    rcases compound with rfl | rfl | rfl | rfl | rfl | rfl
    case inl =>
      simp only [settled_bind_settled] at read
      obtain ⟨entries, found, read⟩ := bind_settled_ok read
      cases given : entries.entry? "Alternate" with
      | none =>
        rw [given] at read
        cases settled_ok read
        exact .profile array found given
      | some held =>
        rw [given] at read
        obtain ⟨alternate, inner, read⟩ := bind_settled read
        cases settled_ok read
        exact .alternate array found given (colorSpace_eq inner)
    case inr.inl | inr.inr.inl =>
      obtain ⟨held, base, first, inner, read⟩ := read_parameter read
      simp only [settled_bind_settled] at read
      obtain ⟨high, top, read⟩ := bind_settled_ok read
      obtain ⟨palette, bytes, read⟩ := bind_settled_ok read
      cases settled_ok read
      exact .indexed array (by decide) first inner top bytes
    case inr.inr.inr.inl =>
      obtain ⟨colorant, -, read⟩ := bind_settled_ok read
      obtain ⟨held, alternate, second, inner, read⟩ := read_parameter read
      cases settled_ok read
      exact .separation array second inner
    case inr.inr.inr.inr.inl =>
      simp only [settled_bind_settled] at read
      obtain ⟨colorants, found, read⟩ := bind_settled_ok read
      obtain ⟨held, alternate, second, inner, read⟩ := read_parameter read
      cases settled_ok read
      exact .deviceN array found second inner
    case inr.inr.inr.inr.inr =>
      cases first : items[1]? with
      | none =>
        rw [first] at read
        cases settled_ok read
        exact .pattern array first
      | some held =>
        rw [first] at read
        obtain ⟨underlying, inner, read⟩ := bind_settled read
        cases settled_ok read
        exact .tinted array first (colorSpace_eq inner)
  · rw [spaceOfArray_simple compound array.head] at read
    exact .simple array compound (settled_ok read)

theorem read_described [Decoder] (read : colorSpace doc value = .ok space) : Described doc value space := by
  obtain ⟨room, deep⟩ : ∃ room, nestingBound doc value = room + 1 := ⟨_, rfl⟩
  have settles : spaceWithin doc (room + 1) value = settled (.ok space) := by
    rw [← deep]
    rcases endless_or_settles (spaceWithin doc (nestingBound doc value) value) with
      endless | ⟨result, settles⟩
    · rw [colorSpace, endless] at read
      cases read
    · rw [settles, ← colorSpace_eq settles, read]
  obtain ⟨target, located, rest⟩ := bind_settled_ok settles
  cases target with
  | name bytes => exact .named located (settled_ok rest)
  | array items =>
    change spaceOfArray doc (spaceWithin doc room) items = settled (.ok space) at rest
    cases head : items.head?.bind Object.name? with
    | none =>
      rw [spaceOfArray, head] at rest
      cases settled_ok rest
    | some family => exact array_described ⟨located, head⟩ rest
  | _ => cases settled_ok rest

/-- What a value says of a palette or of a profile is so: the palette goes up to its highest index,
and the alternate space of the profile takes its components. Without one it is a device family, of
which there is none for some counts. -/
structure Honest [Decoder] (doc : Option Document) (value : Object) : Prop where
  palette : ∀ {family items held base high palette}, ArrayOf doc value family items →
    family = "Indexed" ∨ family = "I" → items[1]? = some held → colorSpace doc held = .ok base →
    (locateParameter doc family items 2).bind highIndex = .ok high →
    (locateParameter doc family items 3).bind paletteBytes = .ok palette →
    (high + 1) * base.components ≤ palette.length
  alternate : ∀ {items entries held alternate}, ArrayOf doc value "ICCBased" items →
    profileAt doc items = .ok entries → entries.entry? "Alternate" = some held →
    colorSpace doc held = .ok alternate → alternate.components = profileComponents entries
  alone : ∀ {items entries}, ArrayOf doc value "ICCBased" items →
    profileAt doc items = .ok entries → entries.entry? "Alternate" = none →
    profileComponents entries ∈ [1, 3, 4]

theorem ArrayOf.unique {family other : String} {items others : List Object}
    (array : ArrayOf doc value family items) (same : ArrayOf doc value other others) :
    other = family ∧ others = items := by
  obtain ⟨located, head⟩ := array
  obtain ⟨located', head'⟩ := same
  rw [located] at located'
  cases located'
  rw [head] at head'
  exact ⟨(Option.some.inj head').symm, rfl⟩

theorem implied_components {n : Nat} :
    ((ColorSpace.ofComponentCount? n).getD .deviceRGB).components = n ↔ n ∈ [1, 3, 4] := by
  unfold ColorSpace.ofComponentCount?
  split
  case h_4 one three four =>
    refine iff_of_false (fun same => three same.symm) fun member => ?_
    simp only [List.mem_cons, List.not_mem_nil, or_false] at member
    rcases member with is | is | is
    exacts [one is, three is, four is]
  all_goals exact iff_of_true rfl (by decide)

theorem honest_other [Decoder]
    (other : ∀ family items, ArrayOf doc value family items →
      family ∉ ["ICCBased", "Indexed", "I"]) :
    Honest doc value where
  palette array is := by
    rcases is with rfl | rfl
    all_goals exact absurd (by decide) (other _ _ array)
  alternate array := absurd (by decide) (other _ _ array)
  alone array := absurd (by decide) (other _ _ array)

theorem ArrayOf.honest [Decoder] {family : String} {items : List Object}
    (array : ArrayOf doc value family items) (other : family ∉ ["ICCBased", "Indexed", "I"]) :
    Honest doc value :=
  honest_other fun _ _ same => (array.unique same).1 ▸ other

theorem honest_profile [Decoder] {items : List Object} {entries : Dictionary}
    (array : ArrayOf doc value "ICCBased" items) (found : profileAt doc items = .ok entries) :
    Honest doc value ↔
      match entries.entry? "Alternate" with
      | none => profileComponents entries ∈ [1, 3, 4]
      | some held => ∀ alternate, colorSpace doc held = .ok alternate →
        alternate.components = profileComponents entries := by
  constructor
  · intro honest
    split
    · next none => exact honest.alone array found none
    · next held given => exact fun alternate read => honest.alternate array found given read
  · intro fits
    refine ⟨fun other is => ?_, fun other also given read => ?_, fun other also none => ?_⟩
    · obtain ⟨rfl, -⟩ := array.unique other
      exact absurd is (by decide)
    · obtain ⟨-, rfl⟩ := array.unique other
      cases found.symm.trans also
      rw [given] at fits
      exact fits _ read
    · obtain ⟨-, rfl⟩ := array.unique other
      cases found.symm.trans also
      rw [none] at fits
      exact fits

theorem honest_indexed [Decoder] {family : String} {items : List Object} {held : Object} {base : ColorSpace}
    {high : Nat} {palette : Bytes} (array : ArrayOf doc value family items)
    (is : family = "Indexed" ∨ family = "I") (first : items[1]? = some held)
    (read : colorSpace doc held = .ok base)
    (top : (locateParameter doc family items 2).bind highIndex = .ok high)
    (bytes : (locateParameter doc family items 3).bind paletteBytes = .ok palette) :
    Honest doc value ↔ (high + 1) * base.components ≤ palette.length := by
  have apart {others : List Object} : ¬ ArrayOf doc value "ICCBased" others := fun other => by
    rw [← (array.unique other).1] at is
    exact absurd is (by decide)
  refine ⟨fun honest => honest.palette array is first read top bytes, fun long => ?_⟩
  refine ⟨fun other _ first' read' top' bytes' => ?_, fun other => absurd other apart,
    fun other => absurd other apart⟩
  obtain ⟨rfl, rfl⟩ := array.unique other
  cases first.symm.trans first'
  cases read.symm.trans read'
  cases top.symm.trans top'
  cases bytes.symm.trans bytes'
  exact long

theorem familySpace_plain {name : String} (is : familySpace name = .ok space) :
    space.levels = [space] ∧ space.Sound ∧ space.ByteIndices := by
  unfold familySpace at is
  cases found : ColorSpace.ofFamilyName? name with
  | none =>
    rw [found] at is
    cases is
  | some family =>
    rw [found] at is
    cases is
    unfold ColorSpace.ofFamilyName? ColorSpace.ofDeviceName? at found
    repeat' split at found
    all_goals cases found
    all_goals exact ⟨rfl, trivial, trivial⟩

theorem sound_iff_honest [Decoder] (described : Described doc value space) :
    space.Sound ↔ Honest doc value := by
  cases described with
  | named located is =>
    refine iff_of_true (familySpace_plain is).2.1 (honest_other fun _ _ array => ?_)
    have apart := located.symm.trans array.located
    cases apart
  | simple array simple is =>
    refine iff_of_true (familySpace_plain is).2.1 (array.honest fun member => simple ?_)
    exact (by decide : ["ICCBased", "Indexed", "I"] ⊆ compoundFamilies) member
  | profile array found none =>
    rw [honest_profile array found, none]
    exact implied_components
  | alternate array found given read =>
    rw [honest_profile array found, given]
    refine ⟨fun sound alternate also => ?_, fun fits => fits _ read⟩
    cases read.symm.trans also
    exact sound
  | indexed array is first read top bytes =>
    exact (honest_indexed array is first read top bytes).symm
  | separation array second read => exact iff_of_true trivial (array.honest (by decide))
  | deviceN array found second read => exact iff_of_true trivial (array.honest (by decide))
  | pattern array alone => exact iff_of_true trivial (array.honest (by decide))
  | tinted array first read => exact iff_of_true trivial (array.honest (by decide))

theorem highIndex_le {held : Object} {high : Nat} (top : highIndex held = .ok high) :
    high ≤ 255 := by
  unfold highIndex Object.whole? at top
  cases number : (held.number? : Option Float) with
  | none =>
    rw [number] at top
    cases top
  | some x =>
    rw [number] at top
    have bounded : Scalar.truncate 0 255 x ≤ 255 :=
      Decimal.Binary.truncate_le (by decide) (by decide) (Decimal.Binary.ofFloat x)
    cases top
    omega

theorem described_byteIndices [Decoder] (described : Described doc value space) : space.ByteIndices := by
  cases described with
  | named located is => exact (familySpace_plain is).2.2
  | simple array simple is => exact (familySpace_plain is).2.2
  | @indexed family items held base high palette array is first read top bytes =>
    cases located : locateParameter doc family items 2 with
    | error e =>
      rw [located] at top
      cases top
    | ok value =>
      rw [located] at top
      exact highIndex_le top
  | _ => exact trivial

theorem ArrayOf.inner {family : String} {items : List Object}
    (array : ArrayOf doc value family items) : inner? doc value = innerOf? doc items := by
  rw [inner?, array.located]

theorem ArrayOf.alternate {items : List Object} {entries : Dictionary}
    (array : ArrayOf doc value "ICCBased" items) (found : profileAt doc items = .ok entries) :
    inner? doc value = entries.entry? "Alternate" := by
  unfold profileAt at found
  simp only [array.inner, innerOf?, array.head, found]

theorem implied_plain (n : Nat) :
    let implied := (ColorSpace.ofComponentCount? n).getD .deviceRGB
    implied.levels = [implied] ∧ implied.Sound ∧ implied.ByteIndices := by
  unfold ColorSpace.ofComponentCount?
  split <;> exact ⟨rfl, trivial, trivial⟩

theorem described_inside [Decoder] (described : Described doc value space) :
    (inner? doc value = none ∧ ∃ plain, space.levels = space :: plain ∧
      ∀ level ∈ plain, level.Sound ∧ level.ByteIndices) ∨
    ∃ held inner, Encloses doc value held ∧ colorSpace doc held = .ok inner ∧
      space.levels = space :: inner.levels := by
  cases described with
  | named located is =>
    exact .inl ⟨by rw [inner?, located], [], (familySpace_plain is).1, nofun⟩
  | simple array simple is =>
    exact .inl ⟨array.inner.trans (innerOf?_simple simple array.head), [],
      (familySpace_plain is).1, nofun⟩
  | @profile items entries array found none =>
    obtain ⟨levels, plain⟩ := implied_plain (profileComponents entries)
    refine .inl ⟨(array.alternate found).trans none, _, rfl, fun level member => ?_⟩
    rw [levels, List.mem_singleton] at member
    exact member ▸ plain
  | alternate array found given read =>
    exact .inr ⟨_, _, (array.alternate found).trans given, read, rfl⟩
  | indexed array is first read top bytes =>
    refine .inr ⟨_, _, array.inner.trans ?_, read, rfl⟩
    rcases is with rfl | rfl
    all_goals simp only [innerOf?, array.head, first]
  | separation array second read =>
    refine .inr ⟨_, _, array.inner.trans ?_, read, rfl⟩
    simp only [innerOf?, array.head, second]
  | deviceN array found second read =>
    refine .inr ⟨_, _, array.inner.trans ?_, read, rfl⟩
    simp only [innerOf?, array.head, found, second]
  | pattern array alone =>
    refine .inl ⟨array.inner.trans ?_, [], rfl, nofun⟩
    simp only [innerOf?, array.head, alone]
  | tinted array first read =>
    refine .inr ⟨_, _, array.inner.trans ?_, read, rfl⟩
    simp only [innerOf?, array.head, first]

theorem enclosed_level [Decoder] {part : Object} (reached : Relation.ReflTransGen (Encloses doc) value part)
    (read : colorSpace doc value = .ok space) :
    ∃ level ∈ space.levels, colorSpace doc part = .ok level := by
  induction reached using Relation.ReflTransGen.head_induction_on generalizing space with
  | refl => exact ⟨space, space.self_mem_levels, read⟩
  | head encloses _ ih =>
    rcases described_inside (read_described read) with
      ⟨alone, -⟩ | ⟨held, inner, holds, inside, levels⟩
    · rw [Encloses, alone] at encloses
      cases encloses
    · cases Option.some.inj (holds.symm.trans encloses)
      obtain ⟨level, member, same⟩ := ih inside
      exact ⟨level, levels ▸ List.mem_cons_of_mem _ member, same⟩

theorem level_enclosed [Decoder] (read : colorSpace doc value = .ok space) :
    ∀ level ∈ space.levels,
      (∃ part, Relation.ReflTransGen (Encloses doc) value part ∧ colorSpace doc part = .ok level) ∨
        level.Sound ∧ level.ByteIndices := by
  -- The value inside need not be a part of this one, but its space has a level less.
  induction length : space.levels.length using Nat.strong_induction_on generalizing value space with
  | _ n ih =>
    intro level member
    rcases described_inside (read_described read) with
      ⟨-, plain, levels, sound⟩ | ⟨held, inner, holds, inside, levels⟩
    · rw [levels] at member
      rcases List.mem_cons.mp member with rfl | member
      · exact .inl ⟨value, .refl, read⟩
      · exact .inr (sound level member)
    · rw [levels] at member
      rcases List.mem_cons.mp member with rfl | member
      · exact .inl ⟨value, .refl, read⟩
      · have fewer : inner.levels.length < n := by
          rw [← length, levels, List.length_cons]
          exact Nat.lt_succ_self _
        refine (ih _ fewer inside rfl level member).imp_left ?_
        exact fun ⟨part, reached, same⟩ => ⟨part, .head holds reached, same⟩

/-- A space that is read is well formed just when every value that is read for it is honest, and
just when the colors of each of its levels are converted without loss. -/
theorem wellFormed_iff_honest [Decoder] (read : colorSpace doc value = .ok space) :
    (space.WellFormed ↔
      ∀ part, Relation.ReflTransGen (Encloses doc) value part → Honest doc part) ∧
    (space.WellFormed ↔ ∀ level ∈ space.levels, level.Converts) := by
  refine ⟨⟨fun sound part reached => ?_, fun honest level member => ?_⟩, ?_⟩
  · obtain ⟨level, member, same⟩ := enclosed_level reached read
    exact (sound_iff_honest (read_described same)).mp (sound level member)
  · rcases level_enclosed read level member with ⟨part, reached, same⟩ | ⟨sound, -⟩
    · exact (sound_iff_honest (read_described same)).mpr (honest part reached)
    · exact sound
  · refine forall₂_congr fun level member => ColorSpace.sound_iff_converts ?_
    rcases level_enclosed read level member with ⟨part, -, same⟩ | ⟨-, bytes⟩
    · exact described_byteIndices (read_described same)
    · exact bytes

def inkProfile (alternate : String) : Document where
  objects := [(⟨1, 0⟩, .stream [
    (Text.Utf8.encode "N", .integer 4),
    (Text.Utf8.encode "Alternate", .name (Text.Utf8.encode alternate))] [])]
  trailer := []

def inkSpace : Object := .array [.name (Text.Utf8.encode "ICCBased"), .reference ⟨1, 0⟩]

def indexedSpace (base : Object) (high : Int) (palette : Bytes) : Object :=
  .array [.name (Text.Utf8.encode "Indexed"), base, .integer high, .string palette .literal]

theorem wellFormed_iff_honest_inks : letI := Decoder.none
    let value := indexedSpace inkSpace 1 [0, 0, 0, 0, 255, 0, 0, 0]
    let space : ColorSpace := .indexed (.iccBased 4 .deviceCMYK) 1 [0, 0, 0, 0, 255, 0, 0, 0]
    colorSpace (some (inkProfile "DeviceCMYK")) value = .ok space ∧
      (∀ part, Relation.ReflTransGen (Encloses (some (inkProfile "DeviceCMYK"))) value part →
        Honest (some (inkProfile "DeviceCMYK")) part) ∧
      ∀ level ∈ space.levels, level.Converts := by
  intro value space
  let := Decoder.none
  have read : colorSpace (some (inkProfile "DeviceCMYK")) value = .ok space := rfl
  have sound : space.WellFormed := by
    intro level member
    simp only [space, ColorSpace.levels, List.mem_cons, List.not_mem_nil, or_false] at member
    rcases member with rfl | rfl | rfl
    · exact (by decide : (1 + 1) * 4 ≤ 8)
    · exact rfl
    · exact trivial
  exact ⟨read, (wellFormed_iff_honest read).1.mp sound, (wellFormed_iff_honest read).2.mp sound⟩

/-- A palette without a single entry, and a profile whose fourth component is lost. -/
theorem read_unchecked : letI := Decoder.none
    (colorSpace none (indexedSpace (.name (Text.Utf8.encode "DeviceRGB")) 1 []) =
        .ok (.indexed .deviceRGB 1 []) ∧
      ¬ (ColorSpace.indexed .deviceRGB 1 []).WellFormed ∧
      (ColorSpace.indexed .deviceRGB 1 []).toRGB? [0] = none) ∧
    colorSpace (some (inkProfile "DeviceRGB")) inkSpace = .ok (.iccBased 4 .deviceRGB) ∧
      ¬ (ColorSpace.iccBased 4 .deviceRGB).WellFormed ∧
      (ColorSpace.iccBased 4 .deviceRGB).toRGB? [0, 0, 0, 1] =
        (ColorSpace.iccBased 4 .deviceRGB).toRGB? [0, 0, 0, 0] := by
  refine ⟨⟨rfl, fun sound => ?_, rfl⟩, rfl, fun sound => ?_, rfl⟩
  · have long : (1 + 1) * 3 ≤ 0 := sound _ (ColorSpace.self_mem_levels _)
    exact absurd long (by decide)
  · have takes : 3 = 4 := sound _ (ColorSpace.self_mem_levels _)
    exact absurd takes (by decide)

end Resource
end PageMarks
