import PageMarks.Proofs.Resource.Respelling
import PageMarks.Resource.Scope

/-!
Dictionaries in documents that differ in where values are. An entry that is read where it stands is
the same if it was not moved; one that is read through references is the same wherever it is.
-/

namespace PageMarks.Resource

variable {K : Type} [Scalar K] {doc doc' : Document}

/-- Two values with entries, by themselves or with data. -/
structure Headers (doc doc' : Document) (value value' : Object) (entries entries' : Dictionary) :
    Prop where
  found : Found doc doc' value value'
  here : ∀ key, value.child? (.key key) = entries.entry? key
  there : ∀ key, value'.child? (.key key) = entries'.entry? key
  respelled : RespelledEntries doc doc' entries entries'

namespace Headers

variable {value value' : Object} {entries entries' : Dictionary}
  (headers : Headers doc doc' value value' entries entries')
include headers

theorem entry {key : String} (unmoved : Unmoved doc doc' .alone [.key key] value value') :
    Option.Rel (Kept doc doc') (entries.entry? key) (entries'.entry? key) := by
  rw [← headers.here, ← headers.there]
  exact headers.found.site unmoved

theorem number {key : String} (unmoved : Unmoved doc doc' .alone [.key key] value value') :
    (entries.number? key : Option K) = entries'.number? key :=
  bind_related (headers.entry unmoved) fun _ _ kept => kept_number kept

theorem name {key : String} (unmoved : Unmoved doc doc' .alone [.key key] value value') :
    entries.name? key = entries'.name? key :=
  bind_related (headers.entry unmoved) fun _ _ => kept_name

theorem word {key : String} (unmoved : Unmoved doc doc' .alone [.key key] value value') :
    entries.word? key = entries'.word? key :=
  bind_related (headers.entry unmoved) fun _ _ => kept_word

theorem long {key : String} (unmoved : Unmoved doc doc' .alone [.key key] value value') :
    entries.long? key = entries'.long? key :=
  bind_related (headers.entry unmoved) fun _ _ => kept_long

theorem flag {key : String} (unmoved : Unmoved doc doc' .alone [.key key] value value') :
    entries.flag key = entries'.flag key := by
  have pair := headers.entry unmoved
  rw [Dictionary.flag, Dictionary.flag]
  generalize entries.entry? key = held at pair ⊢
  generalize entries'.entry? key = held' at pair ⊢
  cases pair with
  | none => rfl
  | some kept => exact kept_isTrue kept

theorem array {key : String} (unmoved : Unmoved doc doc' .alone [.key key] value value') :
    Option.Rel (fun items items' => Found doc doc' (.array items) (.array items') ∧
      RespelledItems doc doc' items items' ∧ ∀ i path,
        Unmoved doc doc' .alone (.key key :: .item i :: path) value value' →
          Unmoved doc doc' .alone (.item i :: path) (.array items) (.array items'))
      (entries.array? key) (entries'.array? key) := by
  have pair := headers.entry unmoved
  have here := headers.here key
  have there := headers.there key
  rw [Dictionary.array?, Dictionary.array?]
  generalize entries.entry? key = held at pair here ⊢
  generalize entries'.entry? key = held' at pair there ⊢
  cases pair with
  | none => exact .none
  | some kept =>
    cases kept with
    | array items =>
      refine .some ⟨⟨.array items, nofun⟩, items, fun i path unmoved => ?_⟩
      exact headers.found.within unmoved here there
    | _ => exact .none

theorem items {key : String} (unmoved : Unmoved doc doc' .alone [.key key] value value')
    (each : ∀ i, Unmoved doc doc' .alone [.key key, .item i] value value') :
    Option.Rel (List.Forall₂ (Kept doc doc')) (entries.array? key) (entries'.array? key) := by
  refine related_imp (headers.array unmoved) fun items items' ⟨_, respelled, within⟩ => ?_
  exact items_kept respelled fun i => within i [] (each i)

theorem item {key : String} {i : Nat} (unmoved : Unmoved doc doc' .alone [.key key] value value')
    (own : Unmoved doc doc' .alone [.key key, .item i] value value') :
    Option.Rel (Kept doc doc') ((entries.array? key).bind (·[i]?))
      ((entries'.array? key).bind (·[i]?)) := by
  refine related_bind (headers.array unmoved) fun items items' ⟨found, _, within⟩ => ?_
  exact found.site (within i [] own)

theorem matrix (unmoved : Unmoved doc doc' .alone [.key "Matrix"] value value')
    (each : ∀ i, Unmoved doc doc' .alone [.key "Matrix", .item i] value value') :
    (entries.matrix : Matrix K) = entries'.matrix := by
  have read : (entries.array? "Matrix").bind Object.matrix? =
      ((entries'.array? "Matrix").bind Object.matrix? : Option (Matrix K)) := by
    refine bind_related (headers.items unmoved each) fun _ _ items => ?_
    rw [Object.matrix?, Object.matrix?, Object.numbers?, Object.numbers?,
      mapM_kept items fun _ _ kept => kept_number kept]
  rw [Dictionary.matrix, Dictionary.matrix, read]

theorem boundingBox (unmoved : Unmoved doc doc' .alone [.key "BBox"] value value')
    (each : ∀ i, Unmoved doc doc' .alone [.key "BBox", .item i] value value') :
    (entries.boundingBox? : Option (Rect K)) = entries'.boundingBox? := by
  rw [Dictionary.boundingBox?, Dictionary.boundingBox?]
  refine bind_related (headers.items unmoved each) fun _ _ items => ?_
  rw [Object.numbersOf, Object.numbersOf, filterMap_kept items fun _ _ kept => kept_number kept]

variable (rewritten : Rewritten doc doc')
include rewritten

theorem followed (key : String) :
    Agree (Option.Rel (Reached doc doc' value value' [.key key])) (followed? doc entries key)
      (followed? doc' entries' key) := by
  have pair : Option.Rel (Respelled doc doc') (entries.entry? key) (entries'.entry? key) :=
    entries_get headers.respelled _
  have here := headers.here key
  have there := headers.there key
  rw [followed?, followed?]
  generalize entries.entry? key = inner at pair here ⊢
  generalize entries'.entry? key = inner' at pair there ⊢
  cases pair with
  | none => exact .ok .none
  | @some inner inner' pair =>
    have agree := resolve_reaches rewritten (.key key) headers.found here there pair
    dsimp only
    generalize doc.resolve inner = answer at agree ⊢
    generalize doc'.resolve inner' = answer' at agree ⊢
    cases agree with
    | error e => exact .error _
    | ok reached => exact .ok (.some reached)

end Headers

theorem entriesOf_agrees {value value' : Object} (found : Found doc doc' value value')
    (kind : DictionaryKind) (name : String) :
    Agree (Headers doc doc' value value') (Scope.entriesOf kind name value)
      (Scope.entriesOf kind name value') := by
  obtain ⟨kept, direct⟩ := found
  cases kept with
  | dictionary entries => exact .ok ⟨⟨.dictionary entries, direct⟩, fun _ => rfl, fun _ => rfl, entries⟩
  | _ => exact .error _

theorem headerOf_agrees {value value' : Object} (found : Found doc doc' value value')
    (kind : DictionaryKind) (name : String) :
    Agree (Headers doc doc' value value') (Scope.headerOf kind name value)
      (Scope.headerOf kind name value') := by
  obtain ⟨kept, direct⟩ := found
  cases kept with
  | dictionary entries => exact .ok ⟨⟨.dictionary entries, direct⟩, fun _ => rfl, fun _ => rfl, entries⟩
  | stream entries => exact .ok ⟨⟨.stream entries, direct⟩, fun _ => rfl, fun _ => rfl, entries⟩
  | _ => exact .error _

end PageMarks.Resource
