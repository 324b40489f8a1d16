import PageMarks.Proofs.Content.Continuation
import PageMarks.Proofs.Resource.Enclosure
import PageMarks.Resource.InlineImage

/-!
Inline images in content. No value that is read from content is a stream, nor is one inside it, and so no
decoder has a say in what an inline image comes to.
-/

namespace PageMarks

inductive Object.Streamless : Object → Prop
  | null : Streamless .null
  | boolean {value} : Streamless (.boolean value)
  | integer {value} : Streamless (.integer value)
  | real {value} : Streamless (.real value)
  | name {bytes} : Streamless (.name bytes)
  | string {bytes form} : Streamless (.string bytes form)
  | reference {id} : Streamless (.reference id)
  | array {items} : (∀ item ∈ items, Streamless item) → Streamless (.array items)
  | dictionary {entries : Dictionary} : (∀ entry ∈ entries, Streamless entry.2) →
    Streamless (.dictionary entries)

namespace Dictionary

theorem mem_set {key : Bytes} {value : Object} {d : Dictionary} {entry : Bytes × Object}
    (member : entry ∈ d.set key value) : entry = (key, value) ∨ entry ∈ d := by
  induction d with
  | nil => exact .inl (List.mem_singleton.mp member)
  | cons first rest ih =>
    rw [set] at member
    split at member
    · exact (List.mem_cons.mp member).imp_right (List.mem_cons_of_mem _)
    · rcases List.mem_cons.mp member with rfl | later
      · exact .inr List.mem_cons_self
      · exact (ih later).imp_right (List.mem_cons_of_mem _)

theorem mem_ofList {entries : List (Bytes × Object)} {entry : Bytes × Object}
    (member : entry ∈ ofList entries) : entry ∈ entries := by
  induction entries using List.reverseRecOn with
  | nil => cases member
  | append_singleton entries last ih =>
    rw [ofList, List.foldl_append] at member
    rcases mem_set member with rfl | earlier
    · exact List.mem_append_right _ (List.mem_singleton_self _)
    · exact List.mem_append_left _ (ih earlier)

end Dictionary

namespace Content

open Object (Streamless)

theorem streamless_ofList {entries : List (Bytes × Object)}
    (each : ∀ entry ∈ entries, Streamless entry.2) :
    Streamless (.dictionary (Dictionary.ofList entries)) :=
  .dictionary fun entry member => each entry (Dictionary.mem_ofList member)

theorem numberValue_streamless {token : Bytes} {value : Object} (read : numberValue? token = some value) :
    Streamless value := by
  unfold numberValue? at read
  dsimp only at read
  split at read
  · obtain ⟨-, same⟩ := Option.ite_none_left_eq_some.mp read
    cases same
    exact .integer
  · cases read
    exact .real

theorem wordValue_streamless (word : String) : Streamless (wordValue word) := by
  unfold wordValue
  split_ifs <;> constructor

mutual

theorem ValueAt.streamless {s after : Bytes} {value : Object} : ValueAt s value after → Streamless value
  | .literal _ | .hexadecimal _ _ => .string
  | .dictionary entries => streamless_ofList entries.streamless
  | .array items => .array items.streamless
  | .name => .name
  | .number _ read => numberValue_streamless read
  | .word _ _ => wordValue_streamless _

theorem ItemsAt.streamless {s after : Bytes} {items : List Object} :
    ItemsAt s items after → ∀ item ∈ items, Streamless item
  | .done _ => List.forall_mem_nil _
  | .next _ _ first others => List.forall_mem_cons.mpr ⟨first.streamless, others.streamless⟩

theorem EntriesAt.streamless {s after : Bytes} {entries : List (Bytes × Object)} :
    EntriesAt s entries after → ∀ entry ∈ entries, Streamless entry.2
  | .done _ => List.forall_mem_nil _
  | .next _ first others => List.forall_mem_cons.mpr ⟨first.streamless, others.streamless⟩

end

theorem ImageEntriesAt.streamless {s after : Bytes} {entries : List (Bytes × Object)}
    (rules : ImageEntriesAt s entries after) : ∀ entry ∈ entries, Streamless entry.2 := by
  induction rules with
  | done => exact List.forall_mem_nil _
  | next _ first _ ih => exact List.forall_mem_cons.mpr ⟨first.streamless, ih⟩

def Item.values : Item → List Object
  | .operand value => [value]
  | .operator _ => []
  | .image entries data => [.dictionary entries, .string data .literal]

theorem ItemAt.streamless {b : UInt8} {rest after : Bytes} {item : Option Item}
    (rules : ItemAt b rest item after) : ∀ one ∈ item.toList, ∀ value ∈ one.values, Streamless value := by
  cases rules with
  | stray => exact List.forall_mem_nil _
  | image _ _ inside =>
    refine List.forall_mem_singleton.mpr (List.forall_mem_cons.mpr ⟨?_, ?_⟩)
    · exact streamless_ofList inside.streamless
    · exact List.forall_mem_singleton.mpr .string
  | word =>
    refine List.forall_mem_singleton.mpr ?_
    unfold wordItem
    split
    · exact List.forall_mem_singleton.mpr (wordValue_streamless _)
    · exact List.forall_mem_nil _
  | value _ rules => exact List.forall_mem_singleton.mpr (List.forall_mem_singleton.mpr rules.streamless)

theorem readStream_streamless {s : Bytes} {items : List Item} (read : readStream s = .ok items) :
    ∀ item ∈ items, ∀ value ∈ item.values, Streamless value := by
  cases begins : skipBlanks s with
  | nil =>
    rw [readStream_blank begins] at read
    cases read
    exact List.forall_mem_nil _
  | cons b rest =>
    cases first : readItem b rest with
    | error stop =>
      rw [readStream_stop begins first] at read
      cases read
    | ok item =>
      have yields : Yields (readItem b rest) item.value item.rest := ⟨item, first, rfl, rfl⟩
      rw [readStream_step begins yields] at read
      cases others : readStream item.rest with
      | error stop =>
        rw [others] at read
        cases read
      | ok more =>
        rw [others] at read
        cases read
        have shorter : item.rest.length < s.length :=
          Nat.lt_of_lt_of_le item.shorter (length_of_skipBlanks begins)
        exact List.forall_mem_append.mpr
          ⟨(readItem_iff.mp yields).streamless, readStream_streamless others⟩
termination_by s.length

theorem gather_streamless {items : List Item}
    (each : ∀ item ∈ items, ∀ value ∈ item.values, Streamless value) {waiting : List Object}
    (before : ∀ value ∈ waiting, Streamless value) :
    ∀ op ∈ (gather waiting items).1, ∀ value ∈ op.operands, Streamless value := by
  induction items generalizing waiting with
  | nil => exact List.forall_mem_nil _
  | cons item rest ih =>
    obtain ⟨own, later⟩ := List.forall_mem_cons.mp each
    cases item with
    | operand value => exact ih later (List.forall_mem_append.mpr ⟨before, own⟩)
    | operator token => exact List.forall_mem_cons.mpr ⟨before, ih later (List.forall_mem_nil _)⟩
    | image entries data => exact List.forall_mem_cons.mpr ⟨own, ih later (List.forall_mem_nil _)⟩

theorem operations_streamless {bytes : Bytes} {ops : List Operation} (read : operations bytes = .ok ops) :
    ∀ op ∈ ops, ∀ value ∈ op.operands, Streamless value := by
  unfold operations at read
  split at read
  · cases read
  · next items found =>
    cases read
    exact gather_streamless (readStream_streamless found) (List.forall_mem_nil _)

end Content

namespace Resource

open Object (Streamless)

theorem locate_streamless {value held : Object} (own : Streamless value)
    (located : locate none value = .ok held) : Streamless held := by
  cases own <;> cases located
  all_goals constructor <;> assumption

theorem parameter_streamless {items : List Object} (each : ∀ item ∈ items, Streamless item)
    {family : String} {i : Nat} {held : Object} (given : locateParameter none family items i = .ok held) :
    Streamless held := by
  obtain ⟨item, member, located⟩ := locateParameter_ok given
  exact locate_streamless (each item member) located

theorem settled_bind_ok {α β : Type} {result : Except ResolveError α} {next next' : α → Bounded β}
    (same : ∀ x, result = .ok x → next x = next' x) :
    settled result >>= next = settled result >>= next' := by
  cases result with
  | error e => rfl
  | ok x => exact same x rfl

section

variable (first second : Decoder) {items : List Object} (each : ∀ item ∈ items, Streamless item)
  {read read' : Object → Bounded ColorSpace} (same : ∀ item ∈ items, read item = read' item)

include same in
theorem parameter_undecoded (family : String) (i : Nat) (next : ColorSpace → Bounded ColorSpace) :
    (settled (parameter family items i) >>= fun value => read value >>= next) =
      settled (parameter family items i) >>= fun value => read' value >>= next := by
  refine settled_bind_ok fun value given => ?_
  rw [parameter_eq] at given
  cases found : items[i]? with
  | none => simp [found] at given
  | some item =>
    rw [found] at given
    cases given
    rw [same value (List.mem_of_getElem? found)]

include each same in
theorem spaceOfArray_undecoded :
    @spaceOfArray first none read items = @spaceOfArray second none read' items := by
  unfold spaceOfArray
  cases items.head?.bind Object.name? with
  | none => rfl
  | some family =>
    simp only [pure_bind]
    split
    case h_1 =>
      refine settled_bind_ok fun held given => ?_
      cases parameter_streamless each given <;> rfl
    case h_2 | h_3 =>
      refine (parameter_undecoded same _ 1 _).trans (settled_bind_ok fun value given => ?_)
      refine congrArg _ (funext fun base => settled_bind_ok fun high given => ?_)
      refine congrArg _ (funext fun high => settled_bind_ok fun held given => ?_)
      cases parameter_streamless each given <;> rfl
    case h_4 => exact congrArg _ (funext fun colorant => parameter_undecoded same _ 2 _)
    case h_5 =>
      refine congrArg _ (funext fun held => congrArg _ (funext fun colorants => ?_))
      exact parameter_undecoded same _ 2 _
    case h_6 =>
      cases found : items[1]? with
      | none => rfl
      | some underlying =>
        dsimp only
        rw [same underlying (List.mem_of_getElem? found)]
    case h_7 => simp only [*]

theorem spaceWithin_undecoded (room : Nat) {value : Object} (own : Streamless value) :
    @spaceWithin first none room value = @spaceWithin second none room value := by
  induction room generalizing value with
  | zero => rfl
  | succ room ih =>
    rw [@spaceWithin_succ first, @spaceWithin_succ second]
    refine settled_bind_ok fun held located => ?_
    cases locate_streamless own located with
    | array inside =>
      exact spaceOfArray_undecoded first second inside fun item member => ih (inside item member)
    | _ => rfl

theorem colorSpace_undecoded {value : Object} (own : Streamless value) :
    @colorSpace first none value = @colorSpace second none value := by
  unfold colorSpace
  rw [spaceWithin_undecoded first second _ own]

end

end Resource

namespace InlineImage

open Object (Streamless)

theorem expandKeys_streamless {entries : Dictionary} (each : ∀ entry ∈ entries, Streamless entry.2) :
    ∀ entry ∈ expandKeys entries, Streamless entry.2 := by
  intro entry member
  obtain ⟨own, written, rfl⟩ := List.mem_map.mp (Dictionary.mem_ofList member)
  exact each own written

theorem spaceOf_undecoded (first second : Decoder) {entries : Dictionary}
    (each : ∀ entry ∈ entries, Streamless entry.2) :
    @spaceOf first entries = @spaceOf second entries := by
  unfold spaceOf
  cases found : entries.entry? "ColorSpace" with
  | none => rfl
  | some value =>
    obtain ⟨entry, member, rfl⟩ := Resource.entry?_mem found
    have own := each entry member
    generalize entry.2 = value at own
    cases own with
    | array inside =>
      dsimp only
      rw [Resource.colorSpace_undecoded first second (.array inside)]
    | _ => rfl

/-- An inline image in content is the same with any decoder. -/
theorem ofContent_eq [Decoder] {K : Type} [Scalar K] {bytes : Bytes} {ops : List Operation}
    (read : Content.operations bytes = .ok ops) {op : Operation} (member : op ∈ ops) :
    (ofContent op.operands : Except ResolveError (InlineImage K)) = ofOperands op.operands := by
  have each := Content.operations_streamless read op member
  unfold ofContent ofOperands
  split
  · next entries data form rest operands =>
    rw [operands] at each
    cases each _ List.mem_cons_self with
    | dictionary inside =>
      unfold ofEntries
      rw [spaceOf_undecoded _ _ (expandKeys_streamless inside)]
  · rfl

end InlineImage
end PageMarks
