import PageMarks.Proofs.Content.Values

/-!
What is written as operations is read as the same operations. Tokens are taken off the front of a
layout one item at a time; what the rest of it is read as is a hypothesis, and the induction is on
the operations.
-/

namespace PageMarks.Content

section Streams

variable {capitals : Bool}

theorem readWord_operator {word : String} (free : word ∉ ["true", "false", "null", "BI"])
    {b : UInt8} {rest after : Bytes} (read : keyword b rest = (word, after)) :
    Yields (readWord b rest) (.operator word) after := by
  have known : (readKeyword b rest).value = word := congrArg Prod.fst read
  simp only [List.mem_cons, List.not_mem_nil, or_false, not_or] at free
  simp only [readWord, known, free, or_self, if_false]
  exact ⟨_, rfl, congrArg Item.operator known, congrArg Prod.snd read⟩

theorem readWord_constant {word : String} (constant : word ∈ ["true", "false", "null"])
    {b : UInt8} {rest after : Bytes} (read : keyword b rest = (word, after)) :
    Yields (readWord b rest) (.operand (wordValue word)) after := by
  have known : (readKeyword b rest).value = word := congrArg Prod.fst read
  have notImage : word ≠ "BI" := by
    rintro rfl
    revert constant
    decide
  simp only [List.mem_cons, List.not_mem_nil, or_false] at constant
  simp only [readWord, known, constant, notImage, if_true, if_false]
  exact ⟨_, rfl, congrArg (fun word => Item.operand (wordValue word)) known,
    congrArg Prod.snd read⟩

theorem readItem_word {b : UInt8} {rest after : Bytes} {item : Item} (solid : Solid b)
    (starts : startsOperator b = true) (read : Yields (readWord b rest) item after) :
    Yields (readItem b rest) (some item) after := by
  have bracket : (b == 93) = false := by simpa using solid.bracket
  rw [readItem, bracket, solid.stray, starts]
  exact read.map some

theorem readItem_value {b : UInt8} {rest after : Bytes} {value : Object} (solid : Solid b)
    (other : startsOperator b = false) (read : Yields (readValue .stream (b :: rest)) value after) :
    Yields (readItem b rest) (some (.operand value)) after := by
  have bracket : (b == 93) = false := by simpa using solid.bracket
  rw [readItem, bracket, solid.stray, other]
  exact read.map fun value => some (Item.operand value)

/-- Wherever these tokens are written, the stream is read as these items. -/
def Streams (tokens : List Bytes) (items : List Item) : Prop :=
  ∀ (apart : Bool) (s : Bytes), Written apart tokens s → readStream s = .ok items

theorem readStream_next {s rest after : Bytes} {b : UInt8} {item : Option Item} {items : List Item}
    (begins : skipBlanks s = b :: rest) (first : Yields (readItem b rest) item after)
    (others : readStream after = .ok items) : readStream s = .ok (item.toList ++ items) := by
  obtain ⟨r, read, rfl, rfl⟩ := first
  rw [readStream]
  split
  · next none => simp [begins] at none
  · next found =>
    rw [begins] at found
    cases found
    simp [read, others]

theorem streams_nil : Streams [] [] := by
  intro apart s written
  rw [readStream]
  split
  · rfl
  · next found => simp [written.spent] at found

variable {more : List Bytes} {items : List Item} (rest : Streams more items)

include rest

theorem streams_operator {word : String} (h : IsOperator word) :
    Streams (wordToken word :: more) (.operator word :: items) := by
  intro apart s written
  obtain ⟨b, tail, shape, starts, regular⟩ := h.front
  have solid := solid_of_regular regular
  rw [shape] at written
  obtain ⟨after, begins, follows⟩ := written.front solid.space solid.comment
  have first := readItem_word solid starts (readWord_operator h.free (h.read shape follows.endsRun))
  exact readStream_next begins first (rest _ _ follows)

theorem streams_operand {value : Object} (h : Writable value) :
    Streams (spell capitals value ++ more) (.operand value :: items) := by
  intro apart s written
  rcases spell_cases h with ⟨word, constant, spelled, rfl⟩ | ⟨b, token, tail, spelled, solid, other⟩
  · have isWord := isWord_constant constant
    obtain ⟨b, tail, shape, starts, regular⟩ := isWord.front
    have solid := solid_of_regular regular
    rw [spelled, List.singleton_append, shape] at written
    obtain ⟨after, begins, follows⟩ := written.front solid.space solid.comment
    have read := isWord.read shape follows.endsRun
    have first := readItem_word solid starts (readWord_constant constant read)
    exact readStream_next begins first (rest _ _ follows)
  · obtain ⟨after, read, follows⟩ := readBack_of_writable h .stream apart more s written
    rw [spelled] at written
    obtain ⟨inside, begins, -⟩ := written.front solid.space solid.comment
    rw [begins] at read
    exact readStream_next begins (readItem_value solid other read) (rest _ _ follows)

theorem streams_operands {values : List Object} (h : ∀ value ∈ values, Writable value) :
    Streams (spellItems capitals values ++ more) (values.map .operand ++ items) := by
  induction values with
  | nil => exact rest
  | cons value values ih =>
    obtain ⟨first, others⟩ := List.forall_mem_cons.1 h
    rw [spellItems, List.append_assoc]
    exact streams_operand (ih others) first

end Streams

def itemsOf (op : Operation) : List Item := op.operands.map .operand ++ [.operator op.operator]

theorem streams_operations {capitals : Bool} {ops : List Operation}
    (h : ∀ op ∈ ops, WritableOperation op) :
    Streams (ops.flatMap (spellOperation capitals)) (ops.flatMap itemsOf) := by
  induction ops with
  | nil => exact streams_nil
  | cons op ops ih =>
    obtain ⟨first, others⟩ := List.forall_mem_cons.1 h
    have operator := streams_operator (ih others) first.operator
    have operation : Streams (spellItems capitals op.operands ++ _) _ :=
      streams_operands operator first.operands
    simpa [spellOperation, itemsOf] using operation

theorem gather_operands (waiting values : List Object) (items : List Item) :
    gather waiting (values.map .operand ++ items) = gather (waiting ++ values) items := by
  induction values generalizing waiting with
  | nil => simp
  | cons value values ih => simpa [gather] using ih (waiting ++ [value])

theorem gather_append (waiting : List Object) (items more : List Item) :
    gather waiting (items ++ more) =
      ((gather waiting items).1 ++ (gather (gather waiting items).2 more).1,
        (gather (gather waiting items).2 more).2) := by
  induction items generalizing waiting with
  | nil => rfl
  | cons item items ih =>
    cases item with
    | operand value => exact ih _
    | operator token => simp [gather, ih]
    | image entries data => simp [gather, ih]

theorem gather_operations (ops : List Operation) : gather [] (ops.flatMap itemsOf) = (ops, []) := by
  induction ops with
  | nil => rfl
  | cons op ops ih =>
    rw [List.flatMap_cons, itemsOf, List.append_assoc, gather_operands]
    simp [gather, ih]

/-- Operations are read as they were written, whatever blanks lie between their tokens. -/
theorem operations_written (capitals : Bool) (ops : List Operation)
    (writable : ∀ op ∈ ops, WritableOperation op) (bytes : Bytes)
    (written : Written false (ops.flatMap (spellOperation capitals)) bytes) :
    operations bytes = .ok ops := by
  have items := streams_operations writable false bytes written
  rw [operations, items]
  exact congrArg (fun gathered => Except.ok gathered.1) (gather_operations ops)

/-- A comment, a negative number and an escaped parenthesis: `% \n[ -7 (a\() ] TJ`. -/
theorem operations_written_array :
    WritableOperation ⟨"TJ", [.array [.integer (-7), .string [97, 40] .literal]]⟩ ∧
    Written false (spellOperation true ⟨"TJ", [.array [.integer (-7), .string [97, 40] .literal]]⟩)
      [37, 32, 10, 91, 32, 45, 55, 32, 40, 97, 92, 40, 41, 32, 93, 32, 84, 74] ∧
    operations [37, 32, 10, 91, 32, 45, 55, 32, 40, 97, 92, 40, 41, 32, 93, 32, 84, 74] =
      .ok [⟨"TJ", [.array [.integer (-7), .string [97, 40] .literal]]⟩] := by
  have operator : IsOperator "TJ" := ⟨⟨by simp, List.all_eq_true.1 rfl, rfl⟩, by decide⟩
  have operand : Writable (.array [.integer (-7), .string [97, 40] .literal]) := by
    apply Writable.array
    intro item member
    simp only [List.mem_cons, List.not_mem_nil, or_false] at member
    rcases member with rfl | rfl
    · exact .integer (-7) (by decide) (by decide)
    · exact .string [97, 40] .literal
  have writable : WritableOperation ⟨"TJ", [.array [.integer (-7), .string [97, 40] .literal]]⟩ :=
    ⟨operator, by simpa using operand⟩
  have tokens : spellOperation true ⟨"TJ", [.array [.integer (-7), .string [97, 40] .literal]]⟩ =
      [[91], [45, 55], [40, 97, 92, 40, 41], [93], [84, 74]] := by
    have minus : integerToken (-7) = [45, 55] := by
      rw [show (-7 : Int) = .negSucc 6 from rfl, integerToken, decimal]
      rfl
    simp only [spellOperation, spellItems, spell, minus]
    decide
  have comment : Blanks [37, 32, 10] := .comment (fun b (h : b ∈ [32]) => by simp_all) (.inl rfl) .nil
  have space : Blanks [32] := .space rfl .nil
  have apart : true = true → ([32] : Bytes) ≠ [] := by simp
  have laid : Written false [[91], [45, 55], [40, 97, 92, 40, 41], [93], [84, 74]]
      ([37, 32, 10] ++ ([91] ++ ([32] ++ ([45, 55] ++ ([32] ++ ([40, 97, 92, 40, 41] ++ ([32] ++
        ([93] ++ ([32] ++ ([84, 74] ++ [])))))))))) :=
    .token comment (by simp) (.token space apart (.token space apart (.token space apart
      (.token space apart (.done .nil)))))
  rw [← tokens] at laid
  exact ⟨writable, laid, operations_written true _ (by simpa using writable) _ (by simpa using laid)⟩

end PageMarks.Content
