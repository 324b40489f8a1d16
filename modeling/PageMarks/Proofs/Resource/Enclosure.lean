import Mathlib.Data.Fintype.Card
import Mathlib.Logic.Relation
import PageMarks.Proofs.Parts
import PageMarks.Resource.ColorSpace

/-!
Which color spaces can be read. A space has at most one space among its parameters, so reading goes
down a single chain of values. It ends unless that chain comes back to a value it has met, and as
all of the chain is made of parts of the document and of the value that is read, a chain as long as
`nestingBound` has come back.
-/

namespace PageMarks.Resource

def Settles {α : Type} (reading : Bounded α) : Prop := ∃ result, reading = settled result

section Bounded

variable {α β : Type}

theorem settles_settled (result : Except ResolveError α) : Settles (settled result) := ⟨result, rfl⟩

theorem settles_pure (x : α) : Settles (pure x) := ⟨.ok x, rfl⟩

theorem settles_bind {reading : Bounded α} {next : α → Bounded β} (first : Settles reading)
    (later : ∀ x, Settles (next x)) : Settles (reading >>= next) := by
  obtain ⟨result, rfl⟩ := first
  cases result with
  | error e => exact ⟨.error e, rfl⟩
  | ok x => exact later x

theorem endless_or_settles (reading : Bounded α) : reading = endless ∨ Settles reading := by
  match reading with
  | .mk none => exact .inl rfl
  | .mk (some result) => exact .inr ⟨result, rfl⟩

theorem not_settles_endless : ¬ Settles (endless : Bounded α) := by
  rintro ⟨result, same⟩
  have options : none = some result := congrArg ExceptT.run same
  cases options

theorem bind_eq_endless_iff {reading : Bounded α} {next : α → Bounded β}
    (later : ∀ x, Settles (next x)) : reading >>= next = endless ↔ reading = endless := by
  constructor
  · intro bound
    refine (endless_or_settles reading).resolve_right fun first => ?_
    exact not_settles_endless (bound ▸ settles_bind first later)
  · rintro rfl
    rfl

@[simp] theorem settled_ok_bind (x : α) (next : α → Bounded β) :
    settled (.ok x) >>= next = next x := rfl

theorem settled_bind_settled {γ : Type} (first : Except ResolveError α)
    (second : α → Except ResolveError β) (next : β → Bounded γ) :
    (settled first >>= fun x => settled (second x) >>= next) =
      settled (first.bind second) >>= next := by
  cases first <;> rfl

end Bounded

/-- The value among the parameters that is read as a space, if reading gets as far as that. -/
def innerOf? (doc : Option Document) (items : List Object) : Option Object :=
  match items.head?.bind Object.name? with
  | none => none
  | some family =>
    match family with
    | "ICCBased" =>
      match (locateParameter doc family items 1).bind profileEntries with
      | .ok entries => entries.entry? "Alternate"
      | .error _ => none
    | "Indexed" | "I" => items[1]?
    | "Separation" => items[2]?
    | "DeviceN" =>
      match (locateParameter doc family items 1).bind colorantNames with
      | .ok _ => items[2]?
      | .error _ => none
    | "Pattern" => items[1]?
    | _ => none

def inner? (doc : Option Document) (value : Object) : Option Object :=
  match locate doc value with
  | .ok (.array items) => innerOf? doc items
  | _ => none

/-- How a result depends on the way inner spaces are read: not at all, or on the reading of one
value, after which everything settles. -/
inductive Shape (body : (Object → Bounded ColorSpace) → Bounded ColorSpace) : Option Object → Prop
  | leaf {reading} : (∀ read, body read = reading) → Settles reading → Shape body none
  | node {inner next} : (∀ read, body read = read inner >>= next) → (∀ space, Settles (next space)) →
    Shape body (some inner)

theorem parameter_eq (family : String) (items : List Object) (i : Nat) :
    parameter family items i =
      match items[i]? with
      | none => .error (.colorSpace (.tooShort family (i + 1)))
      | some value => .ok value := rfl

theorem shape_parameter {family : String} {items : List Object} {i : Nat}
    {next : ColorSpace → Bounded ColorSpace} (later : ∀ space, Settles (next space)) :
    Shape (fun read => settled (parameter family items i) >>= fun value => read value >>= next)
      items[i]? := by
  rw [parameter_eq]
  cases items[i]? with
  | none => exact .leaf (fun _ => rfl) (settles_settled _)
  | some value => exact .node (fun _ => rfl) later

theorem spaceOfArray_shape [Decoder] (doc : Option Document) (items : List Object) :
    Shape (fun read => spaceOfArray doc read items) (innerOf? doc items) := by
  unfold innerOf? spaceOfArray
  cases items.head?.bind Object.name? with
  | none => exact .leaf (fun _ => rfl) (settles_settled _)
  | some family =>
    simp only [pure_bind]
    split
    case h_1 =>
      simp only [settled_bind_settled]
      cases (locateParameter doc "ICCBased" items 1).bind profileEntries with
      | error e => exact .leaf (fun _ => rfl) (settles_settled _)
      | ok entries =>
        simp only [settled_ok_bind]
        cases entries.entry? "Alternate" with
        | none => exact .leaf (fun _ => rfl) (settles_pure _)
        | some alternate => exact .node (fun _ => rfl) fun _ => settles_pure _
    case h_2 | h_3 =>
      refine shape_parameter fun base => ?_
      refine settles_bind (settles_settled _) fun _ => settles_bind (settles_settled _) fun _ => ?_
      refine settles_bind (settles_settled _) fun _ => settles_bind (settles_settled _) fun _ => ?_
      exact settles_pure _
    case h_4 =>
      cases colorant : items[1]? with
      | none =>
        have short : items[2]? = none :=
          List.getElem?_eq_none ((List.getElem?_eq_none_iff.mp colorant).trans (Nat.le_succ 1))
        simp only [parameter_eq, colorant, short]
        exact .leaf (fun _ => rfl) (settles_settled _)
      | some value =>
        rw [parameter_eq "Separation" items 1, colorant]
        exact shape_parameter fun _ => settles_pure _
    case h_5 =>
      simp only [settled_bind_settled]
      cases (locateParameter doc "DeviceN" items 1).bind colorantNames with
      | error e => exact .leaf (fun _ => rfl) (settles_settled _)
      | ok colorants => exact shape_parameter fun _ => settles_pure _
    case h_6 =>
      cases items[1]? with
      | none => exact .leaf (fun _ => rfl) (settles_pure _)
      | some underlying => exact .node (fun _ => rfl) fun _ => settles_pure _
    case h_7 =>
      have named : Shape (fun _ => settled (familySpace family)) none :=
        .leaf (fun _ => rfl) (settles_settled _)
      simp only [*]

def compoundFamilies : List String :=
  ["ICCBased", "Indexed", "I", "Separation", "DeviceN", "Pattern"]

theorem spaceOfArray_simple [Decoder] {doc : Option Document} {read : Object → Bounded ColorSpace}
    {family : String} (simple : family ∉ compoundFamilies) {items : List Object}
    (head : items.head?.bind Object.name? = some family) :
    spaceOfArray doc read items = settled (familySpace family) := by
  unfold spaceOfArray
  simp only [head, pure_bind]
  split
  case h_7 => rfl
  all_goals exact absurd (by decide) simple

theorem innerOf?_simple {doc : Option Document} {family : String}
    (simple : family ∉ compoundFamilies) {items : List Object}
    (head : items.head?.bind Object.name? = some family) : innerOf? doc items = none := by
  unfold innerOf?
  simp only [head]
  split
  case h_7 => rfl
  all_goals exact absurd (by decide) simple

def spaceFrom [Decoder] (doc : Option Document) (value : Object) (read : Object → Bounded ColorSpace) :
    Bounded ColorSpace := do
  match ← settled (locate doc value) with
  | .name bytes => settled (familySpace (Text.Utf8.decode bytes))
  | .array items => spaceOfArray doc read items
  | _ => settled (.error (.colorSpace .neitherNameNorArray))

theorem spaceWithin_succ [Decoder] (doc : Option Document) (room : Nat) (value : Object) :
    spaceWithin doc (room + 1) value = spaceFrom doc value (spaceWithin doc room) := rfl

theorem spaceFrom_shape [Decoder] (doc : Option Document) (value : Object) :
    Shape (spaceFrom doc value) (inner? doc value) := by
  unfold inner? spaceFrom
  cases locate doc value with
  | error e => exact .leaf (fun _ => rfl) (settles_settled _)
  | ok target =>
    cases target with
    | name bytes => exact .leaf (fun _ => rfl) (settles_settled _)
    | array items => exact spaceOfArray_shape doc items
    | _ => exact .leaf (fun _ => rfl) (settles_settled _)

def Encloses (doc : Option Document) (value inner : Object) : Prop := inner? doc value = some inner

/-- Reading comes to a value that encloses itself, directly or through other values. -/
def Circular (doc : Option Document) (value : Object) : Prop :=
  ∃ repeated, Relation.ReflTransGen (Encloses doc) value repeated ∧
    Relation.TransGen (Encloses doc) repeated repeated

variable {doc : Option Document} {value : Object}

def descend (doc : Option Document) : Nat → Object → Option Object
  | 0, value => some value
  | depth + 1, value => (inner? doc value).bind (descend doc depth)

theorem descend_add (doc : Option Document) (first second : Nat) (value : Object) :
    descend doc (first + second) value = (descend doc first value).bind (descend doc second) := by
  induction first generalizing value with
  | zero => rw [Nat.zero_add]; rfl
  | succ first ih =>
    rw [Nat.add_right_comm, descend, descend]
    cases inner? doc value with
    | none => rfl
    | some inner => exact ih inner

theorem descend_enclosed {depth : Nat} {inner : Object}
    (reached : descend doc depth value = some inner) :
    Relation.ReflTransGen (Encloses doc) value inner := by
  induction depth generalizing value with
  | zero =>
    cases reached
    exact .refl
  | succ depth ih =>
    obtain ⟨next, encloses, rest⟩ := Option.bind_eq_some_iff.mp reached
    exact .head encloses (ih rest)

theorem descend_succ_enclosed {depth : Nat} {inner : Object}
    (reached : descend doc (depth + 1) value = some inner) :
    Relation.TransGen (Encloses doc) value inner := by
  obtain ⟨next, encloses, rest⟩ := Option.bind_eq_some_iff.mp reached
  exact .head' encloses (descend_enclosed rest)

theorem spaceWithin_endless_iff [Decoder] {room : Nat} :
    spaceWithin doc room value = endless ↔ (descend doc room value).isSome := by
  induction room generalizing value with
  | zero => exact iff_of_true rfl rfl
  | succ room ih =>
    rw [spaceWithin_succ, descend]
    have shape := spaceFrom_shape doc value
    revert shape
    cases inner? doc value with
    | none =>
      rintro (⟨same, settles⟩ | _)
      rw [same]
      exact iff_of_false (fun none => not_settles_endless (none ▸ settles)) Bool.false_ne_true
    | some inner =>
      rintro (_ | ⟨same, settles⟩)
      rw [same, bind_eq_endless_iff settles]
      exact ih

theorem spaceWithin_mono [Decoder] {room more : Nat} {result : Except ResolveError ColorSpace}
    (within : room ≤ more) (settles : spaceWithin doc room value = settled result) :
    spaceWithin doc more value = settled result := by
  induction room generalizing value result more with
  | zero => exact absurd ⟨result, settles⟩ not_settles_endless
  | succ room ih =>
    obtain ⟨more, rfl⟩ := Nat.exists_eq_add_of_le' (Nat.zero_lt_of_lt within)
    rw [spaceWithin_succ] at settles ⊢
    have shape := spaceFrom_shape doc value
    revert shape
    cases inner? doc value with
    | none =>
      rintro (⟨same, -⟩ | _)
      rw [same] at settles ⊢
      exact settles
    | some inner =>
      rintro (_ | ⟨same, later⟩)
      rw [same] at settles ⊢
      have first : Settles (spaceWithin doc room inner) := by
        refine (endless_or_settles _).resolve_left fun none => ?_
        exact not_settles_endless ⟨result, ((bind_eq_endless_iff later).mpr none).symm.trans settles⟩
      obtain ⟨space, same⟩ := first
      rw [ih (Nat.le_of_succ_le_succ within) same, ← same]
      exact settles

/-- What reading can come to: the parts of the document and of the value itself. -/
def around (doc : Option Document) (value : Object) : List Object :=
  (doc.elim [] Document.parts) ++ value.parts

theorem around_length (doc : Option Document) (value : Object) :
    (around doc value).length + 1 = nestingBound doc value := by
  unfold around nestingBound
  cases doc with
  | none => simp [Object.parts_length]
  | some doc => simp [Object.parts_length, Document.parts_length]

theorem item_mem_around {item : Object} {items : List Object}
    (whole : .array items ∈ around doc value) (member : item ∈ items) :
    item ∈ around doc value := by
  rcases List.mem_append.mp whole with table | own
  · cases doc with
    | none => cases table
    | some doc => exact List.mem_append_left _ (Document.item_mem_parts table member)
  · exact List.mem_append_right _ (Object.item_mem_parts own member)

theorem entry_mem_around {entry : Bytes × Object} {entries : List (Bytes × Object)} {data : Bytes}
    (whole : .stream entries data ∈ around doc value) (member : entry ∈ entries) :
    entry.2 ∈ around doc value := by
  rcases List.mem_append.mp whole with table | own
  · cases doc with
    | none => cases table
    | some doc => exact List.mem_append_left _ (Document.entry_mem_parts table member)
  · exact List.mem_append_right _ (Object.entry_mem_parts own member)

theorem locate_mem_around {part target : Object} (member : part ∈ around doc value)
    (located : locate doc part = .ok target) : target ∈ around doc value := by
  cases doc with
  | none =>
    cases part
    case reference => cases located
    all_goals
      cases located
      exact member
  | some doc =>
    have resolved : doc.resolve part = .ok target := by
      unfold locate at located
      cases same : doc.resolve part with
      | error e => simp [same, Except.mapError] at located
      | ok found =>
        simp only [same, Except.mapError, Except.ok.injEq] at located
        rw [located]
    rcases Document.resolve_mem resolved with rfl | table
    · exact member
    · exact List.mem_append_left _ table

theorem entry?_mem {entries : Dictionary} {key : String} {held : Object}
    (found : entries.entry? key = some held) : ∃ entry ∈ entries, entry.2 = held := by
  obtain ⟨entry, first, same⟩ := Option.map_eq_some_iff.mp found
  exact ⟨entry, List.mem_of_find?_eq_some first, same⟩

theorem locateParameter_ok {family : String} {items : List Object} {i : Nat} {target : Object}
    (located : locateParameter doc family items i = .ok target) :
    ∃ item ∈ items, locate doc item = .ok target := by
  unfold locateParameter at located
  rw [parameter_eq] at located
  cases found : items[i]? with
  | none => simp [found, Except.bind] at located
  | some item =>
    rw [found] at located
    exact ⟨item, List.mem_of_getElem? found, located⟩

theorem innerOf?_cases {items : List Object} {inner : Object}
    (found : innerOf? doc items = some inner) :
    inner ∈ items ∨ ∃ item ∈ items, ∃ entries data,
      locate doc item = .ok (.stream entries data) ∧ ∃ entry ∈ entries, entry.2 = inner := by
  unfold innerOf? at found
  split at found
  case h_1 => cases found
  case h_2 family _ =>
    split at found
    case h_1 =>
      split at found
      case h_1 entries profile =>
        cases located : locateParameter doc "ICCBased" items 1 with
        | error e => simp [located, Except.bind] at profile
        | ok target =>
          obtain ⟨item, member, place⟩ := locateParameter_ok located
          rw [located] at profile
          cases target
          case stream held data =>
            cases profile
            exact .inr ⟨item, member, _, data, place, entry?_mem found⟩
          all_goals cases profile
      case h_2 => cases found
    case h_5 =>
      split at found
      · exact .inl (List.mem_of_getElem? found)
      · cases found
    case h_7 => cases found
    all_goals exact .inl (List.mem_of_getElem? found)

theorem encloses_mem_around {outer inner : Object} (member : outer ∈ around doc value)
    (encloses : Encloses doc outer inner) : inner ∈ around doc value := by
  unfold Encloses inner? at encloses
  split at encloses
  case h_1 items located =>
    have whole := locate_mem_around member located
    rcases innerOf?_cases encloses with parameter | ⟨item, parameter, entries, data, place, entry⟩
    · exact item_mem_around whole parameter
    · obtain ⟨entry, held, rfl⟩ := entry
      exact entry_mem_around (locate_mem_around (item_mem_around whole parameter) place) held
  case h_2 => cases encloses

theorem enclosed_mem_around {inner : Object}
    (chain : Relation.ReflTransGen (Encloses doc) value inner) : inner ∈ around doc value := by
  induction chain with
  | refl => exact List.mem_append_right _ value.self_mem_parts
  | tail _ encloses ih => exact encloses_mem_around ih encloses

theorem circular_encloses (circular : Circular doc value) :
    ∃ inner, Encloses doc value inner ∧ Circular doc inner := by
  obtain ⟨repeated, reached, around⟩ := circular
  rcases Relation.ReflTransGen.cases_head reached with rfl | ⟨inner, encloses, rest⟩
  · obtain ⟨inner, encloses, back⟩ := Relation.TransGen.head'_iff.mp around
    exact ⟨inner, encloses, value, back, around⟩
  · exact ⟨inner, encloses, repeated, rest, around⟩

theorem circular_descends (circular : Circular doc value) (depth : Nat) :
    (descend doc depth value).isSome := by
  induction depth generalizing value with
  | zero => rfl
  | succ depth ih =>
    obtain ⟨inner, encloses, further⟩ := circular_encloses circular
    rw [descend, show inner? doc value = some inner from encloses]
    exact ih further

/-- A chain longer than the list of values there are meets one of them twice. -/
theorem circular_of_descends (deep : (descend doc (nestingBound doc value) value).isSome) :
    Circular doc value := by
  classical
  have still {depth : Nat} (within : depth ≤ nestingBound doc value) :
      ∃ inner, descend doc depth value = some inner := by
    obtain ⟨more, same⟩ := Nat.exists_eq_add_of_le within
    rw [same, descend_add] at deep
    cases reached : descend doc depth value with
    | none => rw [reached] at deep; cases deep
    | some inner => exact ⟨inner, rfl⟩
  have few : ((around doc value).map some).toFinset.card <
      (Finset.range (nestingBound doc value)).card := by
    calc ((around doc value).map some).toFinset.card
      _ ≤ ((around doc value).map some).length := List.toFinset_card_le _
      _ = (around doc value).length := List.length_map _
      _ < (Finset.range (nestingBound doc value)).card := by
        rw [Finset.card_range, ← around_length]
        exact Nat.lt_succ_self _
  have inside : ∀ depth ∈ Finset.range (nestingBound doc value),
      descend doc depth value ∈ ((around doc value).map some).toFinset := by
    intro depth member
    obtain ⟨inner, reached⟩ := still (Finset.mem_range.mp member).le
    rw [reached, List.mem_toFinset]
    exact List.mem_map_of_mem (enclosed_mem_around (descend_enclosed reached))
  obtain ⟨first, low, second, high, different, same⟩ :=
    Finset.exists_ne_map_eq_of_card_lt_of_maps_to few inside
  wlog earlier : first < second generalizing first second
  · exact this second high first low different.symm same.symm (by omega)
  obtain ⟨repeated, reached⟩ := still (Finset.mem_range.mp low).le
  obtain ⟨more, rfl⟩ := Nat.exists_eq_add_of_lt earlier
  rw [Nat.add_assoc, descend_add, reached] at same
  exact ⟨repeated, descend_enclosed reached, descend_succ_enclosed same.symm⟩

theorem circular_endless [Decoder] (circular : Circular doc value) (room : Nat) :
    spaceWithin doc room value = endless :=
  spaceWithin_endless_iff.mpr (circular_descends circular room)

theorem colorSpace_eq [Decoder] {room : Nat} {result : Except ResolveError ColorSpace}
    (settles : spaceWithin doc room value = settled result) : colorSpace doc value = result := by
  have reading : spaceWithin doc (nestingBound doc value) value = settled result := by
    rcases endless_or_settles (spaceWithin doc (nestingBound doc value) value) with deep | ⟨_, same⟩
    · have circular := circular_of_descends (spaceWithin_endless_iff.mp deep)
      exact absurd ⟨result, (circular_endless circular room).symm.trans settles⟩ not_settles_endless
    · rcases Nat.le_total room (nestingBound doc value) with less | more
      · exact spaceWithin_mono less settles
      · rw [same, ← spaceWithin_mono more same, settles]
  unfold colorSpace
  rw [reading]
  rfl

/-- Reading a color space comes to an end, with a space or with a reason why there is none, unless
it comes to a value that encloses itself; and there is no other end than what `colorSpace` gives. -/
theorem colorSpace_read_iff [Decoder] (doc : Option Document) (value : Object) :
    ((∃ room result, spaceWithin doc room value = settled result) ↔ ¬ Circular doc value) ∧
      ∀ room, spaceWithin doc room value = endless ∨
        spaceWithin doc room value = settled (colorSpace doc value) := by
  refine ⟨⟨?_, fun straight => ?_⟩, fun room => ?_⟩
  · rintro ⟨room, result, settles⟩ circular
    exact not_settles_endless ⟨result, (circular_endless circular room).symm.trans settles⟩
  · refine ⟨nestingBound doc value, (endless_or_settles _).resolve_left fun deep => ?_⟩
    exact straight (circular_of_descends (spaceWithin_endless_iff.mp deep))
  · rcases endless_or_settles (spaceWithin doc room value) with deep | ⟨result, same⟩
    · exact .inl deep
    · rw [colorSpace_eq same]
      exact .inr same

def patternOfItself : Document where
  objects := [(⟨1, 0⟩, .array [.name (Text.Utf8.encode "Pattern"), .reference ⟨1, 0⟩])]
  trailer := []

def profileOfItself : Document where
  objects := [
    (⟨1, 0⟩, .array [.name (Text.Utf8.encode "ICCBased"), .reference ⟨2, 0⟩]),
    (⟨2, 0⟩, .stream [(Text.Utf8.encode "Alternate", .reference ⟨1, 0⟩)] [])]
  trailer := []

theorem self_circular (encloses : Encloses doc value value) : Circular doc value :=
  ⟨value, .refl, .single encloses⟩

theorem selfContained_never_read :
    (∀ [Decoder] (room : Nat), spaceWithin (some patternOfItself) room (.reference ⟨1, 0⟩) = endless) ∧
      ∀ [Decoder] (room : Nat), spaceWithin (some profileOfItself) room (.reference ⟨1, 0⟩) = endless :=
  ⟨circular_endless (self_circular (by rfl)), circular_endless (self_circular (by rfl))⟩

theorem encloses_count_lt {inner : Object} (encloses : Encloses none value inner) :
    inner.count < value.count := by
  have itself {part target : Object} (located : locate none part = .ok target) : target = part := by
    cases part
    case reference => cases located
    all_goals
      cases located
      rfl
  unfold Encloses inner? at encloses
  split at encloses
  case h_1 items located =>
    rw [← itself located]
    rcases innerOf?_cases encloses with parameter | ⟨item, parameter, entries, data, place, entry⟩
    · exact Nat.lt_succ_of_le (Object.count_le_countItems parameter)
    · obtain ⟨entry, held, rfl⟩ := entry
      have within := Object.count_le_countItems parameter
      rw [← itself place] at within
      calc entry.2.count
        _ < (Object.stream entries data).count :=
          Nat.lt_succ_of_le (Object.count_le_countEntries held)
        _ ≤ Object.countItems items := within
        _ < (Object.array items).count := Nat.lt_succ_self _
  case h_2 => cases encloses

theorem not_circular_outside (value : Object) : ¬ Circular none value := by
  rintro ⟨repeated, -, around⟩
  have smaller {outer inner : Object} (chain : Relation.TransGen (Encloses none) outer inner) :
      inner.count < outer.count := by
    induction chain with
    | single encloses => exact encloses_count_lt encloses
    | tail _ encloses ih => exact (encloses_count_lt encloses).trans ih
  exact Nat.lt_irrefl _ (smaller around)

end PageMarks.Resource
