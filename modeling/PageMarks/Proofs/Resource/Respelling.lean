import Mathlib.Data.List.Forall2
import PageMarks.Document.Decoder

/-!
Documents that differ in where values are. A value that an entry or an item holds is either in its
place, or in an object of its own that is referred to from there. Following references comes to the
same value in both; the value in the place itself is the same only if it was not moved.
-/

namespace PageMarks

inductive Place
  | key (key : String)
  | item (i : Nat)

def Object.child? : Object → Place → Option Object
  | .dictionary entries, .key key | .stream entries _, .key key => Dictionary.entry? entries key
  | .array items, .item i => items[i]?
  | _, _ => none

/-- What stands at the end of a path, references on the way to it followed. -/
def Document.at? (doc : Document) : List Place → Object → Option Object
  | [], value => some value
  | place :: path, value =>
    match doc.resolve value with
    | .error _ => none
    | .ok held => (held.child? place).bind (doc.at? path)

namespace Resource

mutual

/-- The same value in two documents, except that values in it may have been moved. -/
inductive Kept (doc doc' : Document) : Object → Object → Prop
  | null : Kept doc doc' .null .null
  | boolean {value} : Kept doc doc' (.boolean value) (.boolean value)
  | integer {value} : Kept doc doc' (.integer value) (.integer value)
  | real {value} : Kept doc doc' (.real value) (.real value)
  | name {bytes} : Kept doc doc' (.name bytes) (.name bytes)
  | string {bytes form} : Kept doc doc' (.string bytes form) (.string bytes form)
  | array {items items'} : RespelledItems doc doc' items items' →
    Kept doc doc' (.array items) (.array items')
  | dictionary {entries entries'} : RespelledEntries doc doc' entries entries' →
    Kept doc doc' (.dictionary entries) (.dictionary entries')
  | stream {entries entries' data} : RespelledEntries doc doc' entries entries' →
    Kept doc doc' (.stream entries data) (.stream entries' data)
  | reference {id} : (doc.find? id = none → doc'.find? id = none) →
    Kept doc doc' (.reference id) (.reference id)

/-- What a place holds in two documents: the same value, or a reference to it in the second. -/
inductive Respelled (doc doc' : Document) : Object → Object → Prop
  | kept {value value'} : Kept doc doc' value value' → Respelled doc doc' value value'
  | moved {value value' id} : (∀ id, value ≠ .reference id) → doc'.find? id = some value' →
    Kept doc doc' value value' → Respelled doc doc' value (.reference id)

inductive RespelledItems (doc doc' : Document) : List Object → List Object → Prop
  | nil : RespelledItems doc doc' [] []
  | cons {item item' rest rest'} : Respelled doc doc' item item' → RespelledItems doc doc' rest rest' →
    RespelledItems doc doc' (item :: rest) (item' :: rest')

inductive RespelledEntries (doc doc' : Document) : Dictionary → Dictionary → Prop
  | nil : RespelledEntries doc doc' [] []
  | cons {key value value' rest rest'} : Respelled doc doc' value value' →
    RespelledEntries doc doc' rest rest' →
    RespelledEntries doc doc' ((key, value) :: rest) ((key, value') :: rest')

end

def Rewritten (doc doc' : Document) : Prop :=
  ∀ id value, doc.find? id = some value → ∃ value', doc'.find? id = some value' ∧ Kept doc doc' value value'

inductive Agree {ε α β : Type} (Rel : α → β → Prop) : Except ε α → Except ε β → Prop
  | error (e : ε) : Agree Rel (.error e) (.error e)
  | ok {a b} : Rel a b → Agree Rel (.ok a) (.ok b)

namespace Agree

variable {ε α β α' β' : Type} {Rel : α → β → Prop} {Rel' : α' → β' → Prop} {x : Except ε α}
  {y : Except ε β}

theorem bind (agree : Agree Rel x y) {f : α → Except ε α'} {g : β → Except ε β'}
    (each : ∀ a b, Rel a b → Agree Rel' (f a) (g b)) : Agree Rel' (x >>= f) (y >>= g) := by
  cases agree with
  | error e => exact .error e
  | ok related => exact each _ _ related

theorem map (agree : Agree Rel x y) {f : α → α'} {g : β → β'}
    (each : ∀ a b, Rel a b → Rel' (f a) (g b)) : Agree Rel' (x.map f) (y.map g) := by
  cases agree with
  | error e => exact .error e
  | ok related => exact .ok (each _ _ related)

theorem imp (agree : Agree Rel x y) {Rel' : α → β → Prop} (each : ∀ a b, Rel a b → Rel' a b) :
    Agree Rel' x y := by
  cases agree with
  | error e => exact .error e
  | ok related => exact .ok (each _ _ related)

theorem of_eq {x y : Except ε α} (same : x = y) {Rel : α → α → Prop} (each : ∀ a, Rel a a) :
    Agree Rel x y := by
  subst same
  cases x with
  | error e => exact .error e
  | ok a => exact .ok (each a)

theorem same {x y : Except ε α} : Agree Eq x y ↔ x = y := by
  constructor
  · rintro (_ | ⟨rfl⟩) <;> rfl
  · exact fun same => of_eq same fun _ => rfl

theorem bind_same (x : Except ε α) {f : α → Except ε α'} {g : α → Except ε β'}
    (each : ∀ a, Agree Rel' (f a) (g a)) : Agree Rel' (x >>= f) (x >>= g) := by
  cases x with
  | error e => exact .error e
  | ok a => exact each a

end Agree

section

variable {α β α' β' : Type} {Rel : α → β → Prop} {Rel' : α' → β' → Prop} {held : Option α}
  {held' : Option β} (pair : Option.Rel Rel held held')
include pair

theorem related_imp {Rel' : α → β → Prop} (each : ∀ a b, Rel a b → Rel' a b) :
    Option.Rel Rel' held held' := by
  cases pair with
  | none => exact .none
  | some related => exact .some (each _ _ related)

theorem related_bind {read : α → Option α'} {read' : β → Option β'}
    (each : ∀ a b, Rel a b → Option.Rel Rel' (read a) (read' b)) :
    Option.Rel Rel' (held.bind read) (held'.bind read') := by
  cases pair with
  | none => exact .none
  | some related => exact each _ _ related

theorem bind_related {read : α → Option α'} {read' : β → Option α'}
    (same : ∀ a b, Rel a b → read a = read' b) : held.bind read = held'.bind read' := by
  cases pair with
  | none => rfl
  | some related => exact same _ _ related

end

variable {doc doc' : Document}

section

variable {value value' : Object} (kept : Kept doc doc' value value')
include kept

theorem kept_number {K : Type} [Scalar K] : (value.number? : Option K) = value'.number? := by
  cases kept <;> rfl

theorem kept_whole (low high : Int) : value.whole? low high = value'.whole? low high := by
  rw [Object.whole?, kept_number kept]
  rfl

theorem kept_word : value.word? = value'.word? := by rw [Object.word?, kept_whole kept]; rfl

theorem kept_long : value.long? = value'.long? := kept_whole kept _ _

theorem kept_name : value.name? = value'.name? := by cases kept <;> rfl

theorem kept_isTrue : value.isTrue = value'.isTrue := by cases kept <;> rfl

theorem kept_array : Option.Rel (RespelledItems doc doc') value.array? value'.array? := by
  cases kept with
  | array items => exact .some items
  | _ => exact .none

end

theorem items_get {items items' : List Object} (respelled : RespelledItems doc doc' items items')
    (i : Nat) : Option.Rel (Respelled doc doc') items[i]? items'[i]? := by
  induction items generalizing items' i with
  | nil =>
    cases respelled
    exact .none
  | cons item rest ih =>
    cases respelled with
    | cons first others =>
      cases i with
      | zero => exact .some first
      | succ i => exact ih others i

theorem entries_get {entries entries' : Dictionary}
    (respelled : RespelledEntries doc doc' entries entries') (key : Bytes) :
    Option.Rel (Respelled doc doc') (entries.get? key) (entries'.get? key) := by
  induction entries generalizing entries' with
  | nil =>
    cases respelled
    exact .none
  | cons entry rest ih =>
    cases respelled with
    | @cons own _ value' _ rest' first others =>
      simp only [Dictionary.get?, List.find?_cons]
      split
      · exact .some first
      · exact ih others

structure Found (doc doc' : Document) (value value' : Object) : Prop where
  kept : Kept doc doc' value value'
  direct : ∀ id, value ≠ .reference id

theorem stored_agrees (rewritten : Rewritten doc doc') {id : ObjectId}
    (absent : doc.find? id = none → doc'.find? id = none) :
    Option.Rel (Kept doc doc') (doc.find? id) (doc'.find? id) := by
  cases stored : doc.find? id with
  | none =>
    rw [absent stored]
    exact .none
  | some value =>
    obtain ⟨value', stored', kept⟩ := rewritten id value stored
    rw [stored']
    exact .some kept

theorem follow_agrees (rewritten : Rewritten doc doc') (id : ObjectId) (room : Nat)
    (absent : doc.find? id = none → doc'.find? id = none) :
    Agree (Found doc doc') (doc.follow id room) (doc'.follow id room) := by
  induction room using Nat.strongRecOn generalizing id with
  | ind room ih =>
    have pair := stored_agrees rewritten absent
    unfold Document.follow
    generalize doc.find? id = stored at pair ⊢
    generalize doc'.find? id = stored' at pair ⊢
    cases pair with
    | none => exact .error _
    | some kept =>
      cases kept
      case reference next gone =>
        cases room with
        | zero =>
          have further := stored_agrees rewritten gone
          dsimp only
          generalize doc.find? next = beyond at further ⊢
          generalize doc'.find? next = beyond' at further ⊢
          cases further <;> exact .error _
        | succ room => exact ih room (Nat.lt_succ_self room) next gone
      all_goals exact .ok ⟨by constructor <;> assumption, nofun⟩

theorem resolve_direct {value : Object} (direct : ∀ id, value ≠ .reference id) (doc : Document) :
    doc.resolve value = .ok value := by
  cases value
  case reference id => exact absurd rfl (direct id)
  all_goals rfl

theorem get_direct {id : ObjectId} {value : Object} (stored : doc.find? id = some value)
    (direct : ∀ id, value ≠ .reference id) : doc.get id = .ok value := by
  rw [Document.get, Document.chainLimit, Document.follow, stored]
  cases value
  case reference id => exact absurd rfl (direct id)
  all_goals rfl

theorem kept_direct {value value' : Object} (kept : Kept doc doc' value value')
    (direct : ∀ id, value ≠ .reference id) (id : ObjectId) : value' ≠ .reference id := by
  cases kept with
  | reference => exact absurd rfl (direct _)
  | _ => nofun

theorem resolve_agrees (rewritten : Rewritten doc doc') {value value' : Object}
    (respelled : Respelled doc doc' value value') :
    Agree (Found doc doc') (doc.resolve value) (doc'.resolve value') := by
  cases respelled with
  | kept kept =>
    cases kept
    case reference absent => exact follow_agrees rewritten _ _ absent
    all_goals exact .ok ⟨by constructor <;> assumption, nofun⟩
  | moved direct stored kept =>
    rw [resolve_direct direct]
    change Agree _ _ (doc'.get _)
    rw [get_direct stored (kept_direct kept direct)]
    exact .ok ⟨kept, direct⟩

/-- How much of what stands in a place is read where it stands: the value alone, or all of it. -/
inductive Extent
  | alone
  | whole

/-- Of two values alone, the second is a reference only if the first is. -/
def Extent.Same : Extent → Option Object → Option Object → Prop
  | .alone, held, held' => ∀ id, held' = some (.reference id) → held = some (.reference id)
  | .whole, held, held' => held = held'

def Unmoved (doc doc' : Document) (extent : Extent) (path : List Place) (value value' : Object) : Prop :=
  extent.Same (doc.at? path value) (doc'.at? path value')

theorem child_respelled {value value' : Object} (kept : Kept doc doc' value value') (place : Place) :
    Option.Rel (Respelled doc doc') (value.child? place) (value'.child? place) := by
  cases kept with
  | array items =>
    cases place with
    | key => exact .none
    | item i => exact items_get items i
  | dictionary entries | stream entries =>
    cases place with
    | key key => exact entries_get entries _
    | item => exact .none
  | _ => cases place <;> exact .none

theorem at?_resolved {value held : Object} (resolved : doc.resolve value = .ok held) (place : Place)
    (path : List Place) :
    doc.at? (place :: path) value = (held.child? place).bind (doc.at? path) := by
  rw [Document.at?, resolved]

theorem at?_append (first second : List Place) (value : Object) :
    doc.at? (first ++ second) value = (doc.at? first value).bind (doc.at? second) := by
  induction first generalizing value with
  | nil => rfl
  | cons place first ih =>
    rw [List.cons_append, Document.at?, Document.at?]
    rcases doc.resolve value with _ | held
    · rfl
    · rcases child : held.child? place with _ | inner
      · simp only [child]; rfl
      · simp only [child]
        exact ih inner

theorem kept_of_unmoved {value value' : Object} (respelled : Respelled doc doc' value value')
    (unmoved : Unmoved doc doc' .alone [] value value') : Kept doc doc' value value' := by
  cases respelled with
  | kept kept => exact kept
  | moved direct => exact absurd (Option.some.inj (unmoved _ rfl)) (direct _)

theorem unmoved_within {extent : Extent} {first second : List Place} {value value' inner inner' : Object}
    (unmoved : Unmoved doc doc' extent (first ++ second) value value')
    (found : doc.at? first value = some inner) (found' : doc'.at? first value' = some inner') :
    Unmoved doc doc' extent second inner inner' := by
  rw [Unmoved, at?_append, at?_append, found, found'] at unmoved
  exact unmoved

theorem unmoved_resolved {extent : Extent} {place : Place} {path : List Place}
    {value value' held held' : Object} (unmoved : Unmoved doc doc' extent (place :: path) value value')
    (resolved : doc.resolve value = .ok held) (resolved' : doc'.resolve value' = .ok held')
    (found : Found doc doc' held held') : Unmoved doc doc' extent (place :: path) held held' := by
  rw [Unmoved, at?_resolved (resolve_direct found.direct doc),
    at?_resolved (resolve_direct (kept_direct found.kept found.direct) doc'), ← at?_resolved resolved,
    ← at?_resolved resolved']
  exact unmoved

namespace Found

variable {value value' : Object} (found : Found doc doc' value value')
include found

theorem direct' (id : ObjectId) : value' ≠ .reference id := kept_direct found.kept found.direct id

theorem at?_child (place : Place) (path : List Place) :
    doc.at? (place :: path) value = (value.child? place).bind (doc.at? path) :=
  at?_resolved (resolve_direct found.direct doc) place path

theorem at?_child' (place : Place) (path : List Place) :
    doc'.at? (place :: path) value' = (value'.child? place).bind (doc'.at? path) :=
  at?_resolved (resolve_direct found.direct' doc') place path

theorem within {extent : Extent} {place : Place} {path : List Place} {inner inner' : Object}
    (unmoved : Unmoved doc doc' extent (place :: path) value value')
    (child : value.child? place = some inner) (child' : value'.child? place = some inner') :
    Unmoved doc doc' extent path inner inner' := by
  rw [Unmoved, found.at?_child, found.at?_child', child, child'] at unmoved
  exact unmoved

theorem site {place : Place} (unmoved : Unmoved doc doc' .alone [place] value value') :
    Option.Rel (Kept doc doc') (value.child? place) (value'.child? place) := by
  have respelled := child_respelled found.kept place
  generalize child : value.child? place = held at respelled
  generalize child' : value'.child? place = held' at respelled
  cases respelled with
  | none => exact .none
  | some inner => exact .some (kept_of_unmoved inner (found.within unmoved child child'))

theorem whole {place : Place} (unmoved : Unmoved doc doc' .whole [place] value value') :
    value.child? place = value'.child? place := by
  rw [Unmoved, found.at?_child, found.at?_child'] at unmoved
  have here : (value.child? place).bind some = (value'.child? place).bind some := unmoved
  rwa [Option.bind_fun_some, Option.bind_fun_some] at here

end Found

/-- The same value in two documents, at the end of a path and behind the references there. -/
structure Reached (doc doc' : Document) (value value' : Object) (path : List Place)
    (held held' : Object) : Prop where
  found : Found doc doc' held held'
  here : ∃ inner, doc.at? path value = some inner ∧ doc.resolve inner = .ok held
  there : ∃ inner, doc'.at? path value' = some inner ∧ doc'.resolve inner = .ok held'

theorem at?_beyond {value inner held : Object} {path : List Place} (at_ : doc.at? path value = some inner)
    (resolved : doc.resolve inner = .ok held) (place : Place) (rest : List Place) :
    doc.at? (path ++ place :: rest) value = (held.child? place).bind (doc.at? rest) := by
  rw [at?_append, at_]
  exact at?_resolved resolved place rest

namespace Reached

variable {value value' held held' : Object} {path : List Place}
  (reached : Reached doc doc' value value' path held held')
include reached

theorem unmoved {extent : Extent} {place : Place} {rest : List Place}
    (unmoved : Unmoved doc doc' extent (path ++ place :: rest) value value') :
    Unmoved doc doc' extent (place :: rest) held held' := by
  obtain ⟨found, ⟨inner, at_, resolved⟩, ⟨inner', at', resolved'⟩⟩ := reached
  rw [Unmoved, at?_beyond at_ resolved, at?_beyond at' resolved'] at unmoved
  rwa [Unmoved, found.at?_child, found.at?_child']

theorem child (place : Place) : doc.at? (path ++ [place]) value = held.child? place := by
  obtain ⟨inner, at_, resolved⟩ := reached.here
  exact (at?_beyond at_ resolved place []).trans (Option.bind_fun_some _)

theorem child' (place : Place) : doc'.at? (path ++ [place]) value' = held'.child? place := by
  obtain ⟨inner, at_, resolved⟩ := reached.there
  exact (at?_beyond at_ resolved place []).trans (Option.bind_fun_some _)

theorem further {place : Place} {rest : List Place} {inner inner' : Object}
    (beyond : Reached doc doc' held held' (place :: rest) inner inner') :
    Reached doc doc' value value' (path ++ place :: rest) inner inner' := by
  obtain ⟨found, ⟨outer, at_, resolved⟩, ⟨outer', at', resolved'⟩⟩ := reached
  obtain ⟨target, ⟨last, end_, final⟩, ⟨last', end', final'⟩⟩ := beyond
  rw [found.at?_child] at end_
  rw [found.at?_child'] at end'
  exact ⟨target, ⟨last, (at?_beyond at_ resolved place rest).trans end_, final⟩,
    ⟨last', (at?_beyond at' resolved' place rest).trans end', final'⟩⟩

end Reached

theorem at?_place {value inner : Object} (direct : ∀ id, value ≠ .reference id) {place : Place}
    (child : value.child? place = some inner) : doc.at? [place] value = some inner := by
  rw [at?_resolved (resolve_direct direct doc), child]
  rfl

theorem resolve_reaches (rewritten : Rewritten doc doc') {value value' inner inner' : Object}
    (place : Place) (found : Found doc doc' value value') (child : value.child? place = some inner)
    (child' : value'.child? place = some inner') (pair : Respelled doc doc' inner inner') :
    Agree (Reached doc doc' value value' [place]) (doc.resolve inner) (doc'.resolve inner') := by
  have agree := resolve_agrees rewritten pair
  generalize resolved : doc.resolve inner = answer at agree ⊢
  generalize resolved' : doc'.resolve inner' = answer' at agree ⊢
  cases agree with
  | error e => exact .error e
  | ok held =>
    exact .ok ⟨held, ⟨inner, at?_place found.direct child, resolved⟩,
      ⟨inner', at?_place found.direct' child', resolved'⟩⟩

theorem items_kept {items items' : List Object} (respelled : RespelledItems doc doc' items items')
    (unmoved : ∀ i, Unmoved doc doc' .alone [.item i] (.array items) (.array items')) :
    List.Forall₂ (Kept doc doc') items items' := by
  induction items generalizing items' with
  | nil =>
    cases respelled
    exact .nil
  | cons item rest ih =>
    cases respelled with
    | cons first others =>
      refine .cons (kept_of_unmoved first fun id => unmoved 0 id) (ih others fun i id => ?_)
      exact unmoved (i + 1) id

theorem filterMap_kept {α : Type} {items items' : List Object}
    (kept : List.Forall₂ (Kept doc doc') items items') {read : Object → Option α}
    (same : ∀ value value', Kept doc doc' value value' → read value = read value') :
    items.filterMap read = items'.filterMap read := by
  induction kept with
  | nil => rfl
  | cons first _ ih => rw [List.filterMap_cons, List.filterMap_cons, same _ _ first, ih]

theorem mapM_kept {m : Type → Type} [Monad m] [LawfulMonad m] {α : Type} {items items' : List Object}
    (kept : List.Forall₂ (Kept doc doc') items items') {read : Object → m α}
    (same : ∀ value value', Kept doc doc' value value' → read value = read value') :
    items.mapM read = items'.mapM read := by
  induction kept with
  | nil => rfl
  | cons first _ ih => rw [List.mapM_cons, List.mapM_cons, same _ _ first, ih]

theorem streamData_kept [Decoder] [Decoder.Local] {entries entries' : Dictionary} {data : Bytes}
    (found : Found doc doc' (.stream entries data) (.stream entries' data))
    (unmoved : ∀ key ∈ Decoder.keys,
      Unmoved doc doc' .whole [.key key] (.stream entries data) (.stream entries' data)) :
    Document.streamData entries data = Document.streamData entries' data := by
  have same (key : String) (own : key ∈ Decoder.keys) : entries.entry? key = entries'.entry? key :=
    found.whole (unmoved key own)
  rw [Document.streamData, Document.streamData, same "Filter" List.mem_cons_self,
    Decoder.Local.undo_congr same]

end Resource
end PageMarks
