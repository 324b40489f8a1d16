import Mathlib.Logic.Relation
import PageMarks.Proofs.Content.Stops

/-!
Positions in the input. A reading goes through stages: each has a reader begin somewhere in the input,
and leads to the readers that it has read a part, or that go on from there. The main statement is
that from any input on the stages only go forward and come to an end, that all they take lies inside
the input, and that what goes wrong is reported where it lies.
-/

namespace PageMarks.Content

inductive Reader
  | stream
  | image
  | imageEntries
  | imageData
  | value
  | items
  | entries
  | literal
  | hexadecimal
  | name
  | number
  | word
  deriving DecidableEq, Repr

structure Stage where
  reader : Reader
  left : Bytes

/-- The stages that come directly after one. A stream and the insides of arrays, dictionaries and
images go on after each part of them. -/
inductive Leads : Stage → Stage → Prop
  | word {s b rest} : skipBlanks s = b :: rest → startsOperator b = true →
    Leads ⟨.stream, s⟩ ⟨.word, b :: rest⟩
  | image {s b rest} : skipBlanks s = b :: rest → startsOperator b = true →
    (keyword b rest).1 = "BI" → Leads ⟨.stream, s⟩ ⟨.image, (keyword b rest).2⟩
  | operand {s b rest} : skipBlanks s = b :: rest → b ≠ 93 → isStray b = false →
    startsOperator b = false → Leads ⟨.stream, s⟩ ⟨.value, b :: rest⟩
  | nextItem {s b rest item after} : skipBlanks s = b :: rest → Yields (readItem b rest) item after →
    Leads ⟨.stream, s⟩ ⟨.stream, after⟩
  | imageEntries {s} : Leads ⟨.image, s⟩ ⟨.imageEntries, s⟩
  | imageKey {s rest} : skipBlanks s = 47 :: rest → Leads ⟨.imageEntries, s⟩ ⟨.name, 47 :: rest⟩
  | imageValue {s rest} : skipBlanks s = 47 :: rest →
    Leads ⟨.imageEntries, s⟩ ⟨.value, skipBlanks (name rest).2⟩
  | nextImageEntry {s rest value after} : skipBlanks s = 47 :: rest →
    Yields (readValue .imageDictionary (skipBlanks (name rest).2)) value after →
    Leads ⟨.imageEntries, s⟩ ⟨.imageEntries, after⟩
  | imageData {s b rest} : skipBlanks s = b :: rest → beginsData (b :: rest) = true →
    Leads ⟨.imageEntries, s⟩ ⟨.imageData, dataStart (b :: rest)⟩
  | literal {rest} : Leads ⟨.value, 40 :: rest⟩ ⟨.literal, 40 :: rest⟩
  | hexadecimal {rest} : rest.head? ≠ some 60 →
    Leads ⟨.value, 60 :: rest⟩ ⟨.hexadecimal, 60 :: rest⟩
  | entries {rest} : Leads ⟨.value, 60 :: 60 :: rest⟩ ⟨.entries, rest⟩
  | items {rest} : Leads ⟨.value, 91 :: rest⟩ ⟨.items, rest⟩
  | name {rest} : Leads ⟨.value, 47 :: rest⟩ ⟨.name, 47 :: rest⟩
  | number {b rest} : startsNumber b = true → Leads ⟨.value, b :: rest⟩ ⟨.number, b :: rest⟩
  | bareWord {b rest} : isRegular b = true → startsNumber b = false →
    Leads ⟨.value, b :: rest⟩ ⟨.word, b :: rest⟩
  | item {s b rest} : skipBlanks s = b :: rest → b ≠ 93 → Leads ⟨.items, s⟩ ⟨.value, b :: rest⟩
  | nextArrayItem {s b rest value after} : skipBlanks s = b :: rest → b ≠ 93 →
    Yields (readValue .array (b :: rest)) value after → Leads ⟨.items, s⟩ ⟨.items, after⟩
  | key {s rest} : skipBlanks s = 47 :: rest → Leads ⟨.entries, s⟩ ⟨.name, 47 :: rest⟩
  | entryValue {s rest} : skipBlanks s = 47 :: rest →
    Leads ⟨.entries, s⟩ ⟨.value, skipBlanks (name rest).2⟩
  | nextEntry {s rest value after} : skipBlanks s = 47 :: rest →
    Yields (readValue .dictionary (skipBlanks (name rest).2)) value after →
    Leads ⟨.entries, s⟩ ⟨.entries, after⟩

def Reached (input : Bytes) : Stage → Prop := Relation.ReflTransGen Leads ⟨.stream, input⟩

/-- The reader of a stage comes to its end and leaves these bytes. A stream is left after each of its
items. -/
inductive Ends : Stage → Bytes → Prop
  | item {s b rest item after} : skipBlanks s = b :: rest → Yields (readItem b rest) item after →
    Ends ⟨.stream, s⟩ after
  | image {s item after} : Yields (readImage s) item after → Ends ⟨.image, s⟩ after
  | imageEntries {s start entries after} : Yields (readImageEntries start s) entries after →
    Ends ⟨.imageEntries, s⟩ after
  | imageData {s data after} : Content.imageData true s = some (data, after) →
    Ends ⟨.imageData, s⟩ after
  | value {s part value after} : Yields (readValue part s) value after → Ends ⟨.value, s⟩ after
  | items {s start items after} : Yields (readItems start s) items after → Ends ⟨.items, s⟩ after
  | entries {s start entries after} : Yields (readEntries start s) entries after →
    Ends ⟨.entries, s⟩ after
  | literal {rest bytes after} : Content.literal ⟨0, .plain⟩ rest = some (bytes, after) →
    Ends ⟨.literal, 40 :: rest⟩ after
  | hexadecimal {start rest digits after} : hexDigits start rest = .ok (digits, after) →
    Ends ⟨.hexadecimal, 60 :: rest⟩ after
  | name {rest} : Ends ⟨.name, 47 :: rest⟩ (Content.name rest).2
  | number {b rest} : startsNumber b = true → Ends ⟨.number, b :: rest⟩ (numberToken b rest).2
  | word {b rest} : Ends ⟨.word, b :: rest⟩ (keyword b rest).2

theorem items_rules {start : Nat} {s after : Bytes} {items : List Object}
    (yields : Yields (readItems start s) items after) : ItemsAt s items after :=
  (rulesBelow (s.length + 1)).items (Nat.lt_succ_self _) yields

theorem entries_rules {start : Nat} {s after : Bytes} {entries : List (Bytes × Object)}
    (yields : Yields (readEntries start s) entries after) : EntriesAt s entries after :=
  (rulesBelow (s.length + 1)).entries (Nat.lt_succ_self _) yields

theorem Ends.remains {stage : Stage} {after : Bytes} (ends : Ends stage after) :
    Remains stage.left after := by
  cases ends with
  | item begins yields => exact (readItem_iff.mp yields).remains.after_suffix (begins_suffix begins)
  | image yields =>
    obtain ⟨_, _, _, entries, data, -⟩ := image_read yields
    exact entries.remains.trans (imageData_remains data)
  | imageEntries yields => exact (imageEntries_read yields).remains
  | imageData found => exact imageData_remains found
  | value yields => exact (readValue_iff.mp yields).remains
  | items yields => exact (items_rules yields).remains
  | entries yields => exact (entries_rules yields).remains
  | literal read => exact (ValueAt.literal read).remains
  | hexadecimal read => exact hexDigits_remains read
  | name => exact name_remains _
  | number starts => exact number_remains starts _
  | word => exact keyword_remains _ _

/-- Where two stages begin at one place, the one that leads to the other has the higher rank. -/
def Reader.rank : Reader → Nat
  | .image => 3
  | .stream | .imageEntries | .items | .entries => 2
  | .value => 1
  | .imageData | .literal | .hexadecimal | .name | .number | .word => 0

structure Onward (stage next : Stage) : Prop where
  suffix : next.left <:+ stage.left
  falls : next.left.length < stage.left.length ∨
    next.left.length ≤ stage.left.length ∧ next.reader.rank < stage.reader.rank

theorem Onward.further {stage next : Stage} (remains : Remains stage.left next.left) :
    Onward stage next :=
  ⟨remains.suffix, .inl remains.shorter⟩

theorem Onward.lower {stage next : Stage} (suffix : next.left <:+ stage.left)
    (lower : next.reader.rank < stage.reader.rank) : Onward stage next :=
  ⟨suffix, .inr ⟨suffix.length_le, lower⟩⟩

theorem Leads.onward {stage next : Stage} (leads : Leads stage next) : Onward stage next := by
  cases leads with
  | word begins | operand begins | imageKey begins | item begins | key begins =>
    exact .lower (begins_suffix begins) (by simp [Reader.rank])
  | image begins => exact .further ((keyword_remains _ _).after_suffix (begins_suffix begins))
  | nextItem begins yields => exact .further (Ends.item begins yields).remains
  | imageEntries | literal | hexadecimal | name | number | bareWord =>
    exact .lower List.suffix_rfl (by simp [Reader.rank])
  | imageValue begins | entryValue begins => exact .further (keyed_remains begins)
  | nextImageEntry begins yields | nextEntry begins yields =>
    exact .further ((keyed_remains begins).trans (readValue_iff.mp yields).remains)
  | imageData begins found => exact .further (dataStart_remains begins found)
  | entries => exact .further ((Remains.tail _ _).trans (Remains.tail _ _))
  | items => exact .further (Remains.tail _ _)
  | nextArrayItem begins _ yields =>
    exact .further ((readValue_iff.mp yields).remains.after_suffix (begins_suffix begins))

theorem Reached.suffix {input : Bytes} {stage : Stage} (reached : Reached input stage) :
    stage.left <:+ input := by
  induction reached with
  | refl => exact List.suffix_rfl
  | tail _ leads ih => exact leads.onward.suffix.trans ih

def Reader.isLexeme : Reader → Bool
  | .literal | .hexadecimal | .name | .number | .word => true
  | .stream | .image | .imageEntries | .imageData | .value | .items | .entries => false

theorem Reached.begun {input : Bytes} {stage : Stage} (reached : Reached input stage)
    (lexeme : stage.reader.isLexeme = true) : stage.left ≠ [] := by
  rcases Relation.ReflTransGen.cases_tail reached with same | ⟨before, -, leads⟩
  · subst same
    cases lexeme
  · cases leads with
    | word | imageKey | literal | hexadecimal | name | number | bareWord | key =>
      exact List.cons_ne_nil _ _
    | image | operand | nextItem | imageEntries | imageValue | nextImageEntry | imageData | entries
    | items | item | nextArrayItem | entryValue | nextEntry => cases lexeme

def Stage.weight (stage : Stage) : Nat := 4 * stage.left.length + stage.reader.rank

theorem Reader.rank_lt (reader : Reader) : reader.rank < 4 := by
  cases reader <;> decide

theorem Leads.lighter {stage next : Stage} (leads : Leads stage next) :
    next.weight < stage.weight := by
  have low := next.reader.rank_lt
  unfold Stage.weight
  rcases leads.onward.falls with shorter | ⟨shorter, lower⟩
  all_goals omega

theorem stages_few (stages : Nat → Stage) {n : Nat}
    (leads : ∀ i < n, Leads (stages i) (stages (i + 1))) :
    (stages n).weight + n ≤ (stages 0).weight := by
  induction n with
  | zero => exact Nat.le_refl _
  | succ n ih =>
    have before := ih fun i below => leads i (Nat.lt_succ_of_lt below)
    have last := (leads n (Nat.lt_succ_self n)).lighter
    omega

def position (input s : Bytes) : Nat := input.length - s.length

def slice? (input : Bytes) (start stop : Nat) : Option Bytes :=
  if start ≤ stop ∧ stop ≤ input.length then some ((input.drop start).take (stop - start)) else none

section Positions

variable {input s after token : Bytes}

theorem position_mono (onward : after.length ≤ s.length) :
    position input s ≤ position input after := Nat.sub_le_sub_left onward _

theorem Remains.position_lt (inside : s <:+ input) (remains : Remains s after) :
    position input s < position input after := by
  have shorter := remains.shorter
  have fits := inside.length_le
  unfold position
  omega

theorem slice?_token (inside : s <:+ input) (split : s = token ++ after) :
    slice? input (position input s) (position input after) = some token := by
  obtain ⟨front, rfl⟩ := inside
  subst split
  have start : position (front ++ (token ++ after)) (token ++ after) = front.length := by
    simp [position]
  have stop : position (front ++ (token ++ after)) after = front.length + token.length := by
    simp only [position, List.length_append]
    omega
  have bounds : front.length ≤ front.length + token.length ∧
      front.length + token.length ≤ (front ++ (token ++ after)).length := by
    simp only [List.length_append]
    omega
  rw [start, stop, slice?, if_pos bounds, List.drop_left, Nat.add_sub_cancel_left, List.take_left]

theorem slice?_data {boundary : Bool} {data : Bytes} (inside : s <:+ input)
    (found : imageData boundary s = some (data, after)) :
    slice? input (position input s) (position input s + data.dropLast.length) =
      some data.dropLast := by
  obtain ⟨last, whole⟩ : ∃ last, data = data.dropLast ++ last := by
    rcases imageData_space found with rfl | ⟨bytes, v, rfl, -⟩
    · exact ⟨[], rfl⟩
    · exact ⟨[v], by simp⟩
  have split : s = data.dropLast ++ (last ++ ([69, 73] ++ after)) := by
    rw [← List.append_assoc, ← whole]
    exact (imageData_iff.mp found).1
  have lengths := congrArg List.length split
  have fits := inside.length_le
  have stop : position input (last ++ ([69, 73] ++ after)) =
      position input s + data.dropLast.length := by
    unfold position
    rw [List.length_append] at lengths
    omega
  rw [← stop]
  exact slice?_token inside split

theorem getElem?_position (inside : s <:+ input) (i : Nat) :
    input[position input s + i]? = s[i]? := by
  obtain ⟨front, rfl⟩ := inside
  have place : position (front ++ s) s = front.length := by simp [position]
  rw [place, getElem?_behind]

theorem byte_before_end {boundary : Bool} {data : Bytes} (inside : s <:+ input)
    (found : imageData boundary s = some (data, after)) (nonempty : data ≠ []) :
    ∃ v, isSpace v = true ∧ input[position input s + (data.length - 1)]? = some v := by
  rcases imageData_space found with rfl | ⟨bytes, v, rfl, space⟩
  · exact absurd rfl nonempty
  · refine ⟨v, space, ?_⟩
    rw [getElem?_position inside, (imageData_iff.mp found).1]
    simp

end Positions

/-- What a stage reads lies inside the input: the bytes that its reader looks at, and the pieces that
it takes whole, which are slices. It goes forward, by a byte at least if it comes to its end. -/
structure Inside (input : Bytes) (stage : Stage) : Prop where
  suffix : stage.left <:+ input
  bytes : ∀ i, input[position input stage.left + i]? = stage.left[i]?
  opens : stage.reader.isLexeme = true → position input stage.left < input.length
  onward : ∀ next, Leads stage next → position input stage.left ≤ position input next.left ∧
    next.left <:+ input
  consumes : ∀ after, Ends stage after → position input stage.left < position input after ∧
    after <:+ input
  word : ∀ b rest, stage = ⟨.word, b :: rest⟩ →
    (slice? input (position input (b :: rest)) (position input (keyword b rest).2)).map
      Text.Utf8.decode = some (keyword b rest).1
  name : ∀ rest, stage = ⟨.name, 47 :: rest⟩ →
    (slice? input (position input rest) (position input (name rest).2)).map decodeName =
      some (name rest).1
  number : ∀ b rest, stage = ⟨.number, b :: rest⟩ →
    slice? input (position input (b :: rest)) (position input (numberToken b rest).2) =
      some (numberToken b rest).1
  imageData : ∀ s data after, stage = ⟨.imageData, s⟩ →
    Content.imageData true s = some (data, after) →
      slice? input (position input s) (position input s + data.dropLast.length) =
        some data.dropLast ∧
      (data ≠ [] → ∃ v, isSpace v = true ∧
        input[position input s + (data.length - 1)]? = some v)

theorem Reached.inside {input : Bytes} {stage : Stage} (reached : Reached input stage) :
    Inside input stage where
  suffix := reached.suffix
  bytes := getElem?_position reached.suffix
  opens lexeme := by
    have fits := reached.suffix.length_le
    have begun := List.length_pos_iff.mpr (reached.begun lexeme)
    unfold position
    omega
  onward next leads :=
    ⟨position_mono leads.onward.suffix.length_le, leads.onward.suffix.trans reached.suffix⟩
  consumes after ends :=
    ⟨ends.remains.position_lt reached.suffix, ends.remains.suffix.trans reached.suffix⟩
  word b rest same := by
    subst same
    rw [slice?_token reached.suffix (keyword_split b rest)]
    rfl
  name rest same := by
    subst same
    have inside : rest <:+ input := (List.suffix_cons 47 rest).trans reached.suffix
    rw [slice?_token inside (List.tail_eq_of_cons_eq (name_split rest))]
    rfl
  number b rest same := by
    subst same
    exact slice?_token reached.suffix (numberToken_split b rest)
  imageData s data after same found := by
    subst same
    exact ⟨slice?_data reached.suffix found, byte_before_end reached.suffix found⟩

/-- Every input is read to operations or to an error, which lies inside it at the byte that it names;
the stages are few, and all of them stay inside the input. -/
theorem reading_bounded (input : Bytes) :
    ((∃ ops, operations input = .ok ops) ∨
      ∃ e, operations input = .error e ∧ e.offset ≤ input.length ∧
        ∀ byte, e.fault.byte? = some byte → input[e.offset]? = some byte) ∧
    (∀ (stages : Nat → Stage) (n : Nat), stages 0 = ⟨.stream, input⟩ →
      (∀ i < n, Leads (stages i) (stages (i + 1))) → n ≤ 4 * input.length + 2) ∧
    ∀ stage, Reached input stage → Inside input stage := by
  refine ⟨?_, ?_, fun stage reached => reached.inside⟩
  · cases read : operations input with
    | ok ops => exact .inl ⟨ops, rfl⟩
    | error e => exact .inr ⟨e, rfl, operations_error read⟩
  · intro stages n first leads
    have few := stages_few stages leads
    rw [first] at few
    exact Nat.le_trans (Nat.le_add_left n _) few

end PageMarks.Content
