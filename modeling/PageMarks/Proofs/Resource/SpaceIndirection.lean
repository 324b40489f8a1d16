import PageMarks.Proofs.Resource.Enclosure
import PageMarks.Proofs.Resource.Respelling

/-!
Color spaces of documents that differ in where values are. Spaces and most parameters are read through
references; a few parameters are read where they stand. If none of those was moved, both documents
describe the same space, or none for the same reason, or one that contains itself.
-/

namespace PageMarks.Resource

def innerPath : String → Option (List Place)
  | "ICCBased" => some [.item 1, .key "Alternate"]
  | "Indexed" | "I" | "Pattern" => some [.item 1]
  | "Separation" | "DeviceN" => some [.item 2]
  | _ => none

inductive ParameterInPlace : String → Extent → List Place → Prop
  | components : ParameterInPlace "ICCBased" .alone [.item 1, .key "N"]
  | decoded {family key} : family = "Indexed" ∨ family = "I" → key ∈ Decoder.keys →
    ParameterInPlace family .whole [.item 3, .key key]
  | colorant : ParameterInPlace "Separation" .alone [.item 1]
  | colorants {i} : ParameterInPlace "DeviceN" .alone [.item 1, .item i]

def familyOf? (doc : Document) (value : Object) : Option String :=
  (doc.at? [.item 0] value).bind Object.name?

/-- What is read where it stands when a value is read as a space: the names of families and some of
their parameters, in the value and in the spaces inside. -/
inductive SpaceInPlace (doc : Document) : Object → Extent → List Place → Prop
  | family {value} : SpaceInPlace doc value .alone [.item 0]
  | parameter {value family extent path} : familyOf? doc value = some family →
    ParameterInPlace family extent path → SpaceInPlace doc value extent path
  | inner {value family path inner extent rest} : familyOf? doc value = some family →
    innerPath family = some path → doc.at? path value = some inner →
    SpaceInPlace doc inner extent rest → SpaceInPlace doc value extent (path ++ rest)

variable {doc doc' : Document}

theorem settled_congr {α β γ : Type} {Rel : α → β → Prop} {x : Except ResolveError α}
    {y : Except ResolveError β} (agree : Agree Rel x y) {f : α → Bounded γ} {g : β → Bounded γ}
    (each : ∀ a b, Rel a b → f a = g b) : settled x >>= f = settled y >>= g := by
  cases agree with
  | error e => rfl
  | ok related => exact each _ _ related

theorem mapError_agrees {ε ε' α β : Type} {Rel : α → β → Prop} {x : Except ε α} {y : Except ε β}
    (agree : Agree Rel x y) (f : ε → ε') : Agree Rel (x.mapError f) (y.mapError f) := by
  cases agree with
  | error e => exact .error _
  | ok related => exact .ok related

theorem parameter_agrees {items items' : List Object} (respelled : RespelledItems doc doc' items items')
    (family : String) (i : Nat) :
    Agree (fun item item' => items[i]? = some item ∧ items'[i]? = some item' ∧
      Respelled doc doc' item item') (parameter family items i) (parameter family items' i) := by
  have pair := items_get respelled i
  rw [parameter_eq, parameter_eq]
  generalize items[i]? = item at pair ⊢
  generalize items'[i]? = item' at pair ⊢
  cases pair with
  | none => exact .error _
  | some pair => exact .ok ⟨rfl, rfl, pair⟩

theorem locateParameter_agrees (rewritten : Rewritten doc doc') {items items' : List Object}
    (respelled : RespelledItems doc doc' items items') (family : String) (i : Nat) :
    Agree (Reached doc doc' (.array items) (.array items') [.item i])
      (locateParameter (some doc) family items i) (locateParameter (some doc') family items' i) := by
  have arrays : Found doc doc' (.array items) (.array items') := ⟨.array respelled, nofun⟩
  refine (parameter_agrees respelled family i).bind fun item item' ⟨at_, at', pair⟩ => ?_
  exact mapError_agrees (resolve_reaches rewritten (.item i) arrays at_ at' pair) _

section

variable {items items' : List Object} {i : Nat} {held held' : Object}
  (reached : Reached doc doc' (.array items) (.array items') [.item i] held held')
include reached

theorem profileEntries_agrees :
    Agree (fun entries entries' => ∃ data, held = .stream entries data ∧ held' = .stream entries' data)
      (profileEntries held) (profileEntries held') := by
  have kept := reached.found.kept
  cases kept with
  | stream => exact .ok ⟨_, rfl, rfl⟩
  | _ => exact .error _

theorem highIndex_same : highIndex held = highIndex held' := by
  rw [highIndex, highIndex, kept_whole reached.found.kept]

theorem paletteBytes_same [Decoder] [Decoder.Local]
    (decoded : ∀ key ∈ Decoder.keys,
      Unmoved doc doc' .whole [.item i, .key key] (.array items) (.array items')) :
    paletteBytes held = paletteBytes held' := by
  obtain ⟨kept, direct⟩ := reached.found
  cases kept with
  | stream entries =>
    rw [paletteBytes, paletteBytes]
    rw [streamData_kept reached.found fun key own => reached.unmoved (decoded key own)]
  | _ => rfl

theorem colorantNames_same
    (colorants : ∀ j, Unmoved doc doc' .alone [.item i, .item j] (.array items) (.array items')) :
    colorantNames held = colorantNames held' := by
  obtain ⟨kept, direct⟩ := reached.found
  cases kept with
  | array respelled =>
    rw [colorantNames, colorantNames]
    rw [filterMap_kept (items_kept respelled fun j => reached.unmoved (colorants j))
      fun _ _ => kept_name]
  | _ => rfl

end

theorem profileComponents_same {entries entries' : Dictionary} {data : Bytes}
    (found : Found doc doc' (.stream entries data) (.stream entries' data))
    (unmoved : Unmoved doc doc' .alone [.key "N"] (.stream entries data) (.stream entries' data)) :
    profileComponents entries = profileComponents entries' := by
  have pair : Option.Rel (Kept doc doc') (entries.entry? "N") (entries'.entry? "N") :=
    found.site unmoved
  rw [profileComponents, profileComponents, bind_related pair fun _ _ kept => kept_whole kept _ _]

theorem item_at? {items : List Object} {i : Nat} {item : Object} (at_ : items[i]? = some item) :
    doc.at? [.item i] (.array items) = some item := by
  have direct (id : ObjectId) : Object.array items ≠ .reference id := nofun
  exact at?_place direct at_

section

variable (rewritten : Rewritten doc doc') {items items' : List Object}
  (respelled : RespelledItems doc doc' items items') {read read' : Object → Bounded ColorSpace}
  {family : String}
  (own : ∀ extent path, ParameterInPlace family extent path →
    Unmoved doc doc' extent path (.array items) (.array items'))
  (same : ∀ path inner inner', innerPath family = some path →
    doc.at? path (.array items) = some inner → doc'.at? path (.array items') = some inner' →
    Respelled doc doc' inner inner' → read inner = read' inner')

include respelled same in
theorem parameter_same {i : Nat} (path : innerPath family = some [.item i])
    {next next' : ColorSpace → Bounded ColorSpace} (later : ∀ space, next space = next' space) :
    (settled (parameter family items i) >>= fun value => read value >>= next) =
      (settled (parameter family items' i) >>= fun value => read' value >>= next') := by
  refine settled_congr (parameter_agrees respelled family i) fun inner inner' ⟨at_, at', pair⟩ => ?_
  rw [same _ inner inner' path (item_at? at_) (item_at? at') pair, funext later]

include same in
theorem alternate_same {entries entries' : Dictionary} {data : Bytes} (is : family = "ICCBased")
    (reached : Reached doc doc' (.array items) (.array items') [.item 1] (.stream entries data)
      (.stream entries' data)) :
    Option.Rel (fun inner inner' => read inner = read' inner') (entries.entry? "Alternate")
      (entries'.entry? "Alternate") := by
  subst is
  have pair : Option.Rel (Respelled doc doc') (entries.entry? "Alternate")
      (entries'.entry? "Alternate") := child_respelled reached.found.kept (.key "Alternate")
  have here : doc.at? [.item 1, .key "Alternate"] (.array items) = entries.entry? "Alternate" :=
    reached.child (.key "Alternate")
  have there : doc'.at? [.item 1, .key "Alternate"] (.array items') = entries'.entry? "Alternate" :=
    reached.child' (.key "Alternate")
  generalize entries.entry? "Alternate" = alternate at pair here ⊢
  generalize entries'.entry? "Alternate" = alternate' at pair there ⊢
  cases pair with
  | none => exact .none
  | some pair => exact .some (same _ _ _ rfl here there pair)

include rewritten respelled own in
theorem palette_same [Decoder] [Decoder.Local] (is : family = "Indexed" ∨ family = "I") (base : ColorSpace) :
    (settled (locateParameter (some doc) family items 2) >>= fun high =>
      settled (highIndex high) >>= fun high =>
        settled (locateParameter (some doc) family items 3) >>= fun palette =>
          settled (paletteBytes palette) >>= fun palette =>
            (pure (.indexed base high palette) : Bounded ColorSpace)) =
    (settled (locateParameter (some doc') family items' 2) >>= fun high =>
      settled (highIndex high) >>= fun high =>
        settled (locateParameter (some doc') family items' 3) >>= fun palette =>
          settled (paletteBytes palette) >>= fun palette => pure (.indexed base high palette)) := by
  refine settled_congr (locateParameter_agrees rewritten respelled _ 2) fun held held' reached => ?_
  rw [highIndex_same reached]
  refine congrArg _ (funext fun high => ?_)
  refine settled_congr (locateParameter_agrees rewritten respelled _ 3) fun held held' reached => ?_
  rw [paletteBytes_same reached fun key used => own _ _ (.decoded is used)]

include rewritten respelled own same

theorem spaceOfArray_same [Decoder] [Decoder.Local] (head : items.head?.bind Object.name? = some family)
    (head' : items'.head?.bind Object.name? = some family) :
    spaceOfArray (some doc) read items = spaceOfArray (some doc') read' items' := by
  have arrays : Found doc doc' (.array items) (.array items') := ⟨.array respelled, nofun⟩
  unfold spaceOfArray
  simp only [head, head', pure_bind]
  split
  case h_1 =>
    refine settled_congr (locateParameter_agrees rewritten respelled _ 1) fun held held' reached => ?_
    refine settled_congr (profileEntries_agrees reached) ?_
    rintro entries entries' ⟨data, rfl, rfl⟩
    have counts := profileComponents_same reached.found (reached.unmoved (own _ _ .components))
    have alternates := alternate_same same rfl reached
    rw [counts]
    generalize Dictionary.entry? entries "Alternate" = alternate at alternates ⊢
    generalize Dictionary.entry? entries' "Alternate" = alternate' at alternates ⊢
    cases alternates with
    | none => rfl
    | some reads =>
      dsimp only
      rw [reads]
  case h_2 =>
    exact parameter_same respelled same rfl (palette_same rewritten respelled own (.inl rfl))
  case h_3 =>
    exact parameter_same respelled same rfl (palette_same rewritten respelled own (.inr rfl))
  case h_4 =>
    refine settled_congr (parameter_agrees respelled _ 1) fun colorant colorant' ⟨at_, at', pair⟩ => ?_
    have kept : Kept doc doc' colorant colorant' :=
      kept_of_unmoved pair (arrays.within (own _ _ .colorant) at_ at')
    rw [kept_name kept]
    exact parameter_same respelled same rfl fun _ => rfl
  case h_5 =>
    refine settled_congr (locateParameter_agrees rewritten respelled _ 1) fun held held' reached => ?_
    rw [colorantNames_same reached fun j => own _ _ .colorants]
    exact congrArg _ (funext fun colorants => parameter_same respelled same rfl fun _ => rfl)
  case h_6 =>
    have pair := items_get respelled 1
    have here (inner : Object) (at_ : items[1]? = some inner) :
        doc.at? [.item 1] (.array items) = some inner := item_at? at_
    have there (inner : Object) (at_ : items'[1]? = some inner) :
        doc'.at? [.item 1] (.array items') = some inner := item_at? at_
    generalize items[1]? = inner at pair here ⊢
    generalize items'[1]? = inner' at pair there ⊢
    cases pair with
    | none => rfl
    | some pair =>
      dsimp only
      rw [same _ _ _ rfl (here _ rfl) (there _ rfl) pair]
  case h_7 => simp only [*]

end

theorem innerPath_cons {family : String} {path : List Place} (is : innerPath family = some path) :
    ∃ place rest, path = place :: rest := by
  unfold innerPath at is
  split at is <;> cases is <;> exact ⟨_, _, rfl⟩

theorem spaceInPlace_cons {value : Object} {extent : Extent} {path : List Place}
    (inPlace : SpaceInPlace doc value extent path) : ∃ place rest, path = place :: rest := by
  cases inPlace with
  | family => exact ⟨_, _, rfl⟩
  | parameter _ own => cases own <;> exact ⟨_, _, rfl⟩
  | inner _ is =>
    obtain ⟨place, rest, rfl⟩ := innerPath_cons is
    exact ⟨place, _, rfl⟩

theorem at?_held {value held : Object} (resolved : doc.resolve value = .ok held)
    (direct : ∀ id, held ≠ .reference id) (place : Place) (path : List Place) :
    doc.at? (place :: path) value = doc.at? (place :: path) held := by
  rw [at?_resolved resolved, at?_resolved (resolve_direct direct doc)]

theorem spaceInPlace_resolved {value held : Object} (resolved : doc.resolve value = .ok held)
    (direct : ∀ id, held ≠ .reference id) {extent : Extent} {path : List Place}
    (inPlace : SpaceInPlace doc held extent path) : SpaceInPlace doc value extent path := by
  have same : familyOf? doc value = familyOf? doc held := by
    rw [familyOf?, familyOf?, at?_held resolved direct]
  cases inPlace with
  | family => exact .family
  | parameter is own => exact .parameter (same.trans is) own
  | inner is place at_ further =>
    obtain ⟨first, rest, rfl⟩ := innerPath_cons place
    exact .inner (same.trans is) place ((at?_held resolved direct first rest).trans at_) further

theorem spaceFrom_eq [Decoder] (value : Object) (read : Object → Bounded ColorSpace) :
    spaceFrom (some doc) value read =
      match doc.resolve value with
      | .error e => settled (.error (.document e))
      | .ok (.name bytes) => settled (familySpace (Text.Utf8.decode bytes))
      | .ok (.array items) => spaceOfArray (some doc) read items
      | .ok _ => settled (.error (.colorSpace .neitherNameNorArray)) := by
  rw [spaceFrom, locate]
  rcases doc.resolve value with e | held
  · rfl
  · cases held <;> rfl

theorem arrays_same [Decoder] [Decoder.Local] (rewritten : Rewritten doc doc') {items items' : List Object}
    (found : Found doc doc' (.array items) (.array items'))
    (respelled : RespelledItems doc doc' items items')
    (unmoved : ∀ extent path, SpaceInPlace doc (.array items) extent path →
      Unmoved doc doc' extent path (.array items) (.array items')) {read read' : Object → Bounded ColorSpace}
    (same : ∀ inner inner', Respelled doc doc' inner inner' →
      (∀ extent path, SpaceInPlace doc inner extent path → Unmoved doc doc' extent path inner inner') →
      read inner = read' inner') :
    spaceOfArray (some doc) read items = spaceOfArray (some doc') read' items' := by
  have heads : items.head?.bind Object.name? = items'.head?.bind Object.name? := by
    rw [List.head?_eq_getElem?, List.head?_eq_getElem?]
    exact bind_related (found.site (unmoved _ _ .family)) fun _ _ => kept_name
  cases head : items.head?.bind Object.name? with
  | none =>
    rw [spaceOfArray, spaceOfArray, ← heads, head]
    rfl
  | some family =>
    have is : familyOf? doc (.array items) = some family := by
      rw [familyOf?, found.at?_child, ← head, List.head?_eq_getElem?]
      exact congrArg (fun item : Option Object => item.bind Object.name?) (Option.bind_fun_some _)
    refine spaceOfArray_same rewritten respelled
      (fun extent path own => unmoved extent path (.parameter is own)) ?_
      head (heads.symm.trans head)
    intro path inner inner' place at_ at' pair
    refine same inner inner' pair fun extent rest inPlace => ?_
    exact unmoved_within (unmoved _ _ (.inner is place at_ inPlace)) at_ at'

theorem spaceWithin_same [Decoder] [Decoder.Local] (rewritten : Rewritten doc doc') (room : Nat)
    {value value' : Object} (respelled : Respelled doc doc' value value')
    (unmoved : ∀ extent path, SpaceInPlace doc value extent path →
      Unmoved doc doc' extent path value value') :
    spaceWithin (some doc) room value = spaceWithin (some doc') room value' := by
  induction room generalizing value value' with
  | zero => rfl
  | succ room ih =>
    rw [spaceWithin_succ, spaceWithin_succ, spaceFrom_eq, spaceFrom_eq]
    have agree := resolve_agrees rewritten respelled
    generalize resolved : doc.resolve value = answer at agree ⊢
    generalize resolved' : doc'.resolve value' = answer' at agree ⊢
    cases agree with
    | error e => rfl
    | @ok held held' found =>
      have still (extent : Extent) (path : List Place) (inPlace : SpaceInPlace doc held extent path) :
          Unmoved doc doc' extent path held held' := by
        obtain ⟨place, rest, rfl⟩ := spaceInPlace_cons inPlace
        exact unmoved_resolved (unmoved _ _ (spaceInPlace_resolved resolved found.direct inPlace))
          resolved resolved' found
      have kept := found.kept
      cases kept with
      | array items => exact arrays_same rewritten found items still fun _ _ => ih
      | _ => rfl

theorem colorSpace_same [Decoder] [Decoder.Local] (rewritten : Rewritten doc doc') {value value' : Object}
    (respelled : Respelled doc doc' value value')
    (unmoved : ∀ extent path, SpaceInPlace doc value extent path →
      Unmoved doc doc' extent path value value') :
    colorSpace (some doc) value = colorSpace (some doc') value' := by
  have reads (room : Nat) := spaceWithin_same rewritten room respelled unmoved
  rcases endless_or_settles (spaceWithin (some doc) (nestingBound (some doc) value) value) with
    deep | ⟨result, settles⟩
  · have circular := circular_of_descends (spaceWithin_endless_iff.mp deep)
    have never := circular_endless circular (nestingBound (some doc') value')
    rw [colorSpace, colorSpace, deep, ← reads, never]
  · rw [colorSpace_eq settles, colorSpace_eq ((reads _).symm.trans settles)]

end PageMarks.Resource
