import PageMarks.Proofs.Content.RoundTrip

/-!
What a content stream may hold. The rules below say which bytes make a value or an item of a stream,
and what they leave; the main statements are that a value and an item are read exactly where the rules
have them, a value whichever part of the stream it is asked for.
-/

namespace PageMarks.Content

mutual

/-- Bytes that begin with a value, the value, and the bytes after it. -/
inductive ValueAt : Bytes → Object → Bytes → Prop
  | literal {rest bytes after} : literal ⟨0, .plain⟩ rest = some (bytes, after) →
    ValueAt (40 :: rest) (.string bytes .literal) after
  | hexadecimal {start rest digits after} : rest.head? ≠ some 60 →
    hexDigits start rest = .ok (digits, after) →
    ValueAt (60 :: rest) (.string (pairDigits digits) .hexadecimal) after
  | dictionary {rest entries after} : EntriesAt rest entries after →
    ValueAt (60 :: 60 :: rest) (.dictionary (Dictionary.ofList entries)) after
  | array {rest items after} : ItemsAt rest items after → ValueAt (91 :: rest) (.array items) after
  | name {rest} : ValueAt (47 :: rest) (.name (name rest).1) (name rest).2
  | number {b rest value} : startsNumber b = true →
    numberValue? (numberToken b rest).1 = some value →
    ValueAt (b :: rest) value (numberToken b rest).2
  | word {b rest} : isRegular b = true → startsNumber b = false →
    ValueAt (b :: rest) (wordValue (keyword b rest).1) (keyword b rest).2

inductive ItemsAt : Bytes → List Object → Bytes → Prop
  | done {s after} : skipBlanks s = 93 :: after → ItemsAt s [] after
  | next {s b rest item between items after} : skipBlanks s = b :: rest → b ≠ 93 →
    ValueAt (b :: rest) item between → ItemsAt between items after →
    ItemsAt s (item :: items) after

inductive EntriesAt : Bytes → List (Bytes × Object) → Bytes → Prop
  | done {s after} : skipBlanks s = 62 :: 62 :: after → EntriesAt s [] after
  | next {s rest value between entries after} : skipBlanks s = 47 :: rest →
    ValueAt (skipBlanks (name rest).2) value between → EntriesAt between entries after →
    EntriesAt s (((name rest).1, value) :: entries) after

end

/-- The entries of an inline image, with the bytes of its data and all after them. -/
inductive ImageEntriesAt : Bytes → List (Bytes × Object) → Bytes → Prop
  | done {s b rest} : skipBlanks s = b :: rest → beginsData (b :: rest) = true →
    ImageEntriesAt s [] (dataStart (b :: rest))
  | next {s rest value between entries after} : skipBlanks s = 47 :: rest →
    ValueAt (skipBlanks (name rest).2) value between → ImageEntriesAt between entries after →
    ImageEntriesAt s (((name rest).1, value) :: entries) after

def wordItem (word : String) : Item :=
  if word = "true" ∨ word = "false" ∨ word = "null" then .operand (wordValue word)
  else .operator word

/-- The item that a byte and those after it begin with, if they do not begin with a stray byte. -/
inductive ItemAt (b : UInt8) (rest : Bytes) : Option Item → Bytes → Prop
  | stray : isStray b = true → ItemAt b rest none rest
  | image {entries between data after} : startsOperator b = true → (keyword b rest).1 = "BI" →
    ImageEntriesAt (keyword b rest).2 entries between →
    imageData true between = some (data, after) →
    ItemAt b rest (some (.image (Dictionary.ofList entries) data.dropLast)) after
  | word : startsOperator b = true → (keyword b rest).1 ≠ "BI" →
    ItemAt b rest (some (wordItem (keyword b rest).1)) (keyword b rest).2
  | value {value after} : startsOperator b = false → ValueAt (b :: rest) value after →
    ItemAt b rest (some (.operand value)) after

theorem hexDigits_start {start : Nat} (other : Nat) {s after : Bytes} {digits : List Nat}
    (read : hexDigits start s = .ok (digits, after)) : hexDigits other s = .ok (digits, after) := by
  induction s generalizing digits after with
  | nil => simp [hexDigits] at read
  | cons b rest ih =>
    simp only [hexDigits] at read ⊢
    split_ifs at read ⊢
    · exact read
    · exact ih read
    · cases known : hexValue? b with
      | none => simp [known] at read
      | some digit =>
        simp only [known] at read ⊢
        cases found : hexDigits start rest with
        | error stop => simp [found, Except.map] at read
        | ok pair =>
          rw [ih found]
          rwa [found] at read

mutual

theorem ValueAt.yields {s after : Bytes} {value : Object} (part : Part) :
    ValueAt s value after → Yields (readValue part s) value after
  | .literal read => by
    rw [readValue_parenthesis]
    exact readLiteral_yields read
  | .hexadecimal single read => by
    rw [readValue_angle single]
    exact readHex_yields (hexDigits_start _ read)
  | .dictionary entries => readValue_dictionary fun start => entries.yields start
  | .array items => readValue_array fun start => items.yields start
  | .name => by
    rw [readValue_slash]
    exact ⟨_, rfl, rfl, rfl⟩
  | .number starts counts => by
    rw [readValue_number starts]
    exact readNumber_yields rfl counts
  | .word regular other => by
    rw [readValue_regular regular other]
    exact ⟨_, rfl, rfl, rfl⟩

theorem ItemsAt.yields {s after : Bytes} {items : List Object} (start : Nat) :
    ItemsAt s items after → Yields (readItems start s) items after
  | .done closes => readItems_end closes
  | .next begins other first others => by
    have first := first.yields .array
    rw [← begins] at first
    exact readItems_next begins other first (others.yields start)

theorem EntriesAt.yields {s after : Bytes} {entries : List (Bytes × Object)} (start : Nat) :
    EntriesAt s entries after → Yields (readEntries start s) entries after
  | .done closes => readEntries_end closes
  | .next begins first others =>
    readEntries_next begins rfl (first.yields .dictionary) (others.yields start)

end

section Inversion

variable {part : Part} {start : Nat} {s rest after : Bytes} {value : Object}

theorem literal_read {b : UInt8} (yields : Yields (readLiteral b rest) value after) :
    ∃ bytes, literal ⟨0, .plain⟩ rest = some (bytes, after) ∧ value = .string bytes .literal := by
  obtain ⟨r, read, rfl, rfl⟩ := yields
  unfold readLiteral at read
  split at read
  · cases read
  · next found =>
    cases read
    exact ⟨_, found, rfl⟩

theorem hex_read {b : UInt8} (yields : Yields (readHex b rest) value after) :
    ∃ digits, hexDigits (rest.length + 1) rest = .ok (digits, after) ∧
      value = .string (pairDigits digits) .hexadecimal := by
  obtain ⟨r, read, rfl, rfl⟩ := yields
  unfold readHex at read
  split at read
  · cases read
  · next found =>
    cases read
    exact ⟨_, found, rfl⟩

theorem number_read {b : UInt8} {starts : startsNumber b = true}
    (yields : Yields (readNumber b rest starts) value after) :
    numberValue? (numberToken b rest).1 = some value ∧ after = (numberToken b rest).2 := by
  obtain ⟨r, read, rfl, rfl⟩ := yields
  simp only [readNumber] at read
  split at read
  · cases read
  · next found =>
    cases read
    exact ⟨found, rfl⟩

theorem array_read (yields : Yields (readValue part (91 :: rest)) value after) :
    ∃ items, Yields (readItems (rest.length + 1) rest) items after ∧ value = .array items := by
  obtain ⟨r, read, rfl, rfl⟩ := yields
  rw [readValue_bracket] at read
  split at read
  · cases read
  · next found =>
    cases read
    exact ⟨_, ⟨_, found, rfl, rfl⟩, rfl⟩

theorem dictionary_read (yields : Yields (readValue part (60 :: 60 :: rest)) value after) :
    ∃ entries, Yields (readEntries (rest.length + 2) rest) entries after ∧
      value = .dictionary (Dictionary.ofList entries) := by
  obtain ⟨r, read, rfl, rfl⟩ := yields
  rw [readValue_angles] at read
  split at read
  · cases read
  · next found =>
    cases read
    exact ⟨_, ⟨_, found, rfl, rfl⟩, rfl⟩

theorem items_read {items : List Object} (yields : Yields (readItems start s) items after) :
    (skipBlanks s = 93 :: after ∧ items = []) ∨
      ∃ b rest item between others, skipBlanks s = b :: rest ∧ b ≠ 93 ∧
        Yields (readValue .array (b :: rest)) item between ∧ between.length < s.length ∧
        Yields (readItems start between) others after ∧ items = item :: others := by
  obtain ⟨r, read, rfl, rfl⟩ := yields
  unfold readItems at read
  split at read
  · cases read
  · next b rest begins =>
    have shorter := length_of_skipBlanks begins
    split_ifs at read with closes
    · obtain rfl : b = 93 := by simpa using closes
      cases read
      exact .inl ⟨begins, rfl⟩
    · split at read
      · cases read
      · next item first =>
        dsimp only at read
        split at read
        · cases read
        · next found =>
          cases read
          have within : item.rest.length < s.length := Nat.lt_of_lt_of_le item.shorter shorter
          exact .inr ⟨b, rest, item.value, item.rest, _, begins, by simpa using closes,
            ⟨item, first, rfl, rfl⟩, within, ⟨_, found, rfl, rfl⟩, rfl⟩

theorem entries_read {entries : List (Bytes × Object)}
    (yields : Yields (readEntries start s) entries after) :
    (skipBlanks s = 62 :: 62 :: after ∧ entries = []) ∨
      ∃ rest value between others, skipBlanks s = 47 :: rest ∧
        Yields (readValue .dictionary (skipBlanks (name rest).2)) value between ∧
        (skipBlanks (name rest).2).length < s.length ∧ between.length < s.length ∧
        Yields (readEntries start between) others after ∧
        entries = ((name rest).1, value) :: others := by
  obtain ⟨r, read, rfl, rfl⟩ := yields
  unfold readEntries at read
  split at read
  · cases read
  · next b rest begins =>
    have shorter := length_of_skipBlanks begins
    split_ifs at read with closes named
    · cases read
      obtain ⟨rfl, second⟩ : b = 62 ∧ rest.head? = some 62 := by simpa using closes
      obtain ⟨tail, rfl⟩ := List.head?_eq_some_iff.mp second
      exact .inl ⟨begins, rfl⟩
    · obtain rfl : b = 47 := by simpa using named
      dsimp only at read
      split at read
      · cases read
      · next item first =>
        split at read
        · cases read
        · next found =>
          cases read
          have keyed : (skipBlanks (name rest).2).length < s.length :=
            Nat.lt_of_le_of_lt (skipBlanks_length _)
              (Nat.lt_of_lt_of_le (readName 47 rest).shorter shorter)
          exact .inr ⟨rest, item.value, item.rest, _, begins, ⟨item, first, rfl, rfl⟩, keyed,
            Nat.lt_trans item.shorter keyed, ⟨_, found, rfl, rfl⟩, rfl⟩

end Inversion

/-- The rules have all that is read from fewer than `n` bytes. -/
structure RulesBelow (n : Nat) : Prop where
  value {part s value after} : s.length < n → Yields (readValue part s) value after →
    ValueAt s value after
  items {start s items after} : s.length < n → Yields (readItems start s) items after →
    ItemsAt s items after
  entries {start s entries after} : s.length < n → Yields (readEntries start s) entries after →
    EntriesAt s entries after

theorem RulesBelow.value_succ {n : Nat} (below : RulesBelow n) {part : Part} {s after : Bytes}
    {value : Object} (short : s.length < n + 1) (yields : Yields (readValue part s) value after) :
    ValueAt s value after := by
  match s with
  | [] =>
    obtain ⟨r, read, -, -⟩ := yields
    unfold readValue at read
    cases read
  | b :: rest =>
    have within : rest.length < n := Nat.lt_of_succ_lt_succ short
    by_cases parenthesis : b = 40
    · subst parenthesis
      rw [readValue_parenthesis] at yields
      obtain ⟨bytes, read, rfl⟩ := literal_read yields
      exact .literal read
    by_cases angle : b = 60
    · subst angle
      by_cases single : rest.head? = some 60
      · obtain ⟨inner, rfl⟩ := List.head?_eq_some_iff.mp single
        obtain ⟨entries, inside, rfl⟩ := dictionary_read yields
        exact .dictionary (below.entries (Nat.lt_of_succ_lt within) inside)
      · rw [readValue_angle single] at yields
        obtain ⟨digits, read, rfl⟩ := hex_read yields
        exact .hexadecimal single read
    by_cases bracket : b = 91
    · subst bracket
      obtain ⟨items, inside, rfl⟩ := array_read yields
      exact .array (below.items within inside)
    by_cases slash : b = 47
    · subst slash
      rw [readValue_slash] at yields
      obtain ⟨r, read, rfl, rfl⟩ := yields
      cases read
      exact .name
    cases starts : startsNumber b with
    | true =>
      rw [readValue_number starts] at yields
      obtain ⟨counts, rfl⟩ := number_read yields
      exact .number starts counts
    | false =>
      cases regular : isRegular b with
      | true =>
        rw [readValue_regular regular starts] at yields
        obtain ⟨r, read, rfl, rfl⟩ := yields
        cases read
        exact .word regular starts
      | false =>
        obtain ⟨r, read, -, -⟩ := yields
        unfold readValue at read
        simp [parenthesis, angle, bracket, slash, starts, regular] at read

theorem rulesBelow (n : Nat) : RulesBelow n := by
  induction n with
  | zero => exact ⟨fun short => absurd short (Nat.not_lt_zero _),
      fun short => absurd short (Nat.not_lt_zero _), fun short => absurd short (Nat.not_lt_zero _)⟩
  | succ n below =>
    constructor
    · exact below.value_succ
    · intro start s items after short yields
      rcases items_read yields with ⟨closes, rfl⟩ |
        ⟨b, rest, item, between, others, begins, other, first, shorter, more, rfl⟩
      · exact .done closes
      · have front : (b :: rest).length < n + 1 :=
          Nat.lt_of_le_of_lt (length_of_skipBlanks begins) short
        exact .next begins other (below.value_succ front first) (below.items (by omega) more)
    · intro start s entries after short yields
      rcases entries_read yields with ⟨closes, rfl⟩ |
        ⟨rest, value, between, others, begins, first, keyed, shorter, more, rfl⟩
      · exact .done closes
      · exact .next begins (below.value (by omega) first) (below.entries (by omega) more)

theorem readValue_iff {part : Part} {s after : Bytes} {value : Object} :
    Yields (readValue part s) value after ↔ ValueAt s value after :=
  ⟨(rulesBelow (s.length + 1)).value (Nat.lt_succ_self _), fun rules => rules.yields part⟩

theorem ValueAt.solid {b : UInt8} {rest after : Bytes} {value : Object}
    (rules : ValueAt (b :: rest) value after) : Solid b := by
  cases rules with
  | literal | hexadecimal | dictionary | array | name => constructor <;> decide
  | number starts => exact solid_of_regular (number_regular starts)
  | word regular => exact solid_of_regular regular

theorem beginsData_front {b : UInt8} {rest : Bytes} (begins : beginsData (b :: rest) = true) :
    ∃ data, b = 73 ∧ rest = 68 :: data ∧ endsRun data = true := by
  unfold beginsData at begins
  split at begins
  · next data same =>
    obtain ⟨rfl, rfl⟩ := List.cons.inj same
    exact ⟨data, rfl, rfl, begins⟩
  · cases begins

theorem ImageEntriesAt.yields {s after : Bytes} {entries : List (Bytes × Object)} (start : Nat)
    (rules : ImageEntriesAt s entries after) :
    Yields (readImageEntries start s) entries after := by
  induction rules with
  | done begins found =>
    unfold readImageEntries
    split
    · next none => simp [begins] at none
    · next same =>
      rw [begins] at same
      obtain ⟨rfl, rfl⟩ := List.cons.inj same
      rw [dif_pos found]
      exact ⟨_, rfl, rfl, rfl⟩
  | @next s rest value between entries after begins first _ ih =>
    obtain ⟨r, read, rfl, rfl⟩ := ih
    obtain ⟨item, found, rfl, rfl⟩ := first.yields .imageDictionary
    have keyed : readValue .imageDictionary (skipBlanks (readName 47 rest).rest) = .ok item := found
    have named : beginsData (47 :: rest) = false := rfl
    unfold readImageEntries
    split
    · next none => simp [begins] at none
    · next same =>
      rw [begins] at same
      obtain ⟨rfl, rfl⟩ := List.cons.inj same
      simp only [named, Bool.false_eq_true, dite_false, beq_self_eq_true, if_true, keyed, read]
      exact ⟨_, rfl, rfl, rfl⟩

theorem imageEntries_read {start : Nat} {s after : Bytes} {entries : List (Bytes × Object)}
    (yields : Yields (readImageEntries start s) entries after) : ImageEntriesAt s entries after := by
  obtain ⟨r, read, rfl, rfl⟩ := yields
  unfold readImageEntries at read
  split at read
  · cases read
  · next b rest begins =>
    split_ifs at read with found named
    · cases read
      exact .done begins found
    · obtain rfl : b = 47 := by simpa using named
      dsimp only at read
      split at read
      · cases read
      · next item first =>
        split at read
        · cases read
        · next inner more =>
          cases read
          have shorter : item.rest.length < s.length :=
            Nat.lt_of_lt_of_le item.shorter (Nat.le_trans (skipBlanks_length _)
              (Nat.le_trans (Nat.le_of_lt (readName 47 rest).shorter) (length_of_skipBlanks begins)))
          exact .next begins (readValue_iff.mp ⟨item, first, rfl, rfl⟩)
            (imageEntries_read ⟨inner, more, rfl, rfl⟩)
termination_by s.length

theorem operator_solid {b : UInt8} (starts : startsOperator b = true) : Solid b := by
  constructor
  all_goals
    simp [startsOperator, isStray, isSpace, UInt8.le_iff_toNat_le, ← UInt8.toNat_inj] at starts ⊢
    omega

theorem readImage_yields {s between data after : Bytes} {entries : List (Bytes × Object)}
    (inside : ImageEntriesAt s entries between)
    (found : imageData true between = some (data, after)) :
    Yields (readImage s) (.image (Dictionary.ofList entries) data.dropLast) after := by
  obtain ⟨r, read, rfl, rfl⟩ := inside.yields s.length
  unfold readImage
  rw [read]
  dsimp only
  split
  · next none => simp [found] at none
  · next same =>
    rw [found] at same
    cases same
    exact ⟨_, rfl, rfl, rfl⟩

theorem readWord_image {b : UInt8} {rest between data after : Bytes}
    {entries : List (Bytes × Object)} (opens : (keyword b rest).1 = "BI")
    (inside : ImageEntriesAt (keyword b rest).2 entries between)
    (found : imageData true between = some (data, after)) :
    Yields (readWord b rest) (.image (Dictionary.ofList entries) data.dropLast) after := by
  have opens : (readKeyword b rest).value = "BI" := opens
  have image : Yields (readImage (readKeyword b rest).rest)
      (.image (Dictionary.ofList entries) data.dropLast) after := readImage_yields inside found
  obtain ⟨image, read, value, rest⟩ := image
  unfold readWord
  rw [if_pos opens, read]
  exact ⟨_, rfl, value, rest⟩

theorem readWord_other {b : UInt8} {rest : Bytes} (other : (keyword b rest).1 ≠ "BI") :
    Yields (readWord b rest) (wordItem (keyword b rest).1) (keyword b rest).2 := by
  have split : keyword b rest = ((keyword b rest).1, (keyword b rest).2) := rfl
  by_cases constant : (keyword b rest).1 ∈ ["true", "false", "null"]
  · have read := readWord_constant constant split
    rwa [wordItem, if_pos (by simpa using constant)]
  · have free : (keyword b rest).1 ∉ ["true", "false", "null", "BI"] := by
      simp only [List.mem_cons, List.not_mem_nil, or_false, not_or] at constant ⊢
      exact ⟨constant.1, constant.2.1, constant.2.2, other⟩
    have read := readWord_operator free split
    rwa [wordItem, if_neg (by simpa using constant)]

theorem ItemAt.yields {b : UInt8} {rest after : Bytes} {item : Option Item}
    (rules : ItemAt b rest item after) : Yields (readItem b rest) item after := by
  cases rules with
  | stray stray =>
    have bracket : (b == 93) = false := by
      by_contra closes
      obtain rfl : b = 93 := by simpa using closes
      cases stray
    rw [readItem, bracket, stray]
    exact ⟨_, rfl, rfl, rfl⟩
  | image starts opens inside found =>
    exact readItem_word (operator_solid starts) starts (readWord_image opens inside found)
  | word starts other => exact readItem_word (operator_solid starts) starts (readWord_other other)
  | value other rules => exact readItem_value rules.solid other (rules.yields .stream)

theorem mapped_yields {α β : Type} {s rest : Bytes} {read : Except Stop (Read α s)} {f : α → β}
    {value : β} (yields : Yields (read.map (Read.map f)) value rest) :
    ∃ inner, Yields read inner rest ∧ value = f inner := by
  cases read with
  | error stop =>
    obtain ⟨r, same, -, -⟩ := yields
    cases same
  | ok r =>
    obtain ⟨_, same, rfl, rfl⟩ := yields
    cases same
    exact ⟨r.value, ⟨r, rfl, rfl, rfl⟩, rfl⟩

theorem image_read {s after : Bytes} {item : Item} (yields : Yields (readImage s) item after) :
    ∃ entries between data, ImageEntriesAt s entries between ∧
      imageData true between = some (data, after) ∧
      item = .image (Dictionary.ofList entries) data.dropLast := by
  obtain ⟨r, read, rfl, rfl⟩ := yields
  unfold readImage at read
  split at read
  · cases read
  · next inner inside =>
    split at read
    · cases read
    · next data after found =>
      cases read
      exact ⟨_, _, data, imageEntries_read ⟨inner, inside, rfl, rfl⟩, found, rfl⟩

theorem word_read {b : UInt8} {rest after : Bytes} {item : Item}
    (starts : startsOperator b = true) (yields : Yields (readWord b rest) item after) :
    ItemAt b rest (some item) after := by
  by_cases opens : (keyword b rest).1 = "BI"
  · obtain ⟨r, read, rfl, rfl⟩ := yields
    have opened : (readKeyword b rest).value = "BI" := opens
    unfold readWord at read
    rw [if_pos opened] at read
    split at read
    · cases read
    · next image found =>
      cases read
      obtain ⟨entries, between, data, inside, found, value⟩ := image_read ⟨image, found, rfl, rfl⟩
      have rules := ItemAt.image starts opens inside found
      rwa [← value] at rules
  · obtain ⟨r, read, rfl, rfl⟩ := yields
    obtain ⟨r', same, value, left⟩ := readWord_other opens
    rw [read] at same
    cases same
    rw [value, left]
    exact .word starts opens

theorem readItem_iff {b : UInt8} {rest after : Bytes} {item : Option Item} :
    Yields (readItem b rest) item after ↔ ItemAt b rest item after := by
  refine ⟨fun yields => ?_, ItemAt.yields⟩
  unfold readItem at yields
  split_ifs at yields with bracket stray starts
  · obtain ⟨r, read, -, -⟩ := yields
    cases read
  · obtain ⟨r, read, rfl, rfl⟩ := yields
    cases read
    exact .stray stray
  · obtain ⟨word, inner, rfl⟩ := mapped_yields yields
    exact word_read starts inner
  · obtain ⟨value, inner, rfl⟩ := mapped_yields yields
    exact .value (by simpa using starts) (readValue_iff.mp inner)

end PageMarks.Content
