import PageMarks.Proofs.Content.Lexemes

/-!
Values are read back from their tokens wherever other tokens follow, so a reading can be cut between
any two values.
-/

namespace PageMarks.Dictionary

theorem set_absent {d : Dictionary} {key : Bytes} (value : Object) (absent : key ∉ d.map (·.1)) :
    d.set key value = d ++ [(key, value)] := by
  induction d with
  | nil => rfl
  | cons entry d ih =>
    simp only [List.map_cons, List.mem_cons, not_or] at absent
    have other : (entry.1 == key) = false := by simpa using Ne.symm absent.1
    rw [set, other, ih absent.2]
    rfl

theorem foldl_set {entries d : Dictionary} (distinct : ((d ++ entries).map (·.1)).Nodup) :
    entries.foldl (fun d (key, value) => d.set key value) d = d ++ entries := by
  induction entries generalizing d with
  | nil => simp
  | cons entry entries ih =>
    obtain ⟨key, value⟩ := entry
    have shift : d ++ (key, value) :: entries = d ++ [(key, value)] ++ entries := by simp
    have absent : key ∉ d.map (·.1) := by
      intro present
      rw [List.map_append, List.map_cons] at distinct
      exact (List.nodup_append.1 distinct).2.2 key present key List.mem_cons_self rfl
    calc ((key, value) :: entries).foldl (fun d (key, value) => d.set key value) d
        = entries.foldl (fun d (key, value) => d.set key value) (d ++ [(key, value)]) := by
          rw [← set_absent value absent]
          rfl
      _ = d ++ (key, value) :: entries := shift ▸ ih (shift ▸ distinct)

theorem ofList_distinct {entries : List (Bytes × Object)}
    (distinct : (entries.map (·.1)).Nodup) : ofList entries = entries :=
  foldl_set (d := []) distinct

end PageMarks.Dictionary

namespace PageMarks.Content

/-- The reading ends with this value, and with these bytes left. -/
def Yields {α : Type} {s : Bytes} (read : Except Stop (Read α s)) (value : α) (rest : Bytes) :
    Prop :=
  ∃ r, read = .ok r ∧ r.value = value ∧ r.rest = rest

theorem Yields.map {α β : Type} {s rest : Bytes} {read : Except Stop (Read α s)} {value : α}
    (f : α → β) (yields : Yields read value rest) :
    Yields (read.map (Read.map f)) (f value) rest := by
  obtain ⟨r, rfl, rfl, rfl⟩ := yields
  exact ⟨r.map f, rfl, rfl, rfl⟩

/-- A byte that begins a token other than a closing one. -/
structure Solid (b : UInt8) : Prop where
  space : isSpace b = false
  comment : b ≠ 37
  bracket : b ≠ 93
  stray : isStray b = false

theorem solid_of_regular {b : UInt8} (h : isRegular b = true) : Solid b := by
  simp only [isRegular, isDelimiter, Bool.and_eq_true, Bool.not_eq_true', Bool.or_eq_false_iff] at h
  constructor
  all_goals simp_all [isStray]

theorem Written.front {apart : Bool} {b : UInt8} {token s : Bytes} {tokens : List Bytes}
    (written : Written apart ((b :: token) :: tokens) s) (space : isSpace b = false)
    (comment : b ≠ 37) : ∃ rest, skipBlanks s = b :: (token ++ rest) ∧ Written true tokens rest := by
  cases written with
  | @token _ gap _ rest _ blanks _ others =>
    refine ⟨rest, ?_, others⟩
    rw [blanks.skip, List.cons_append, skipBlanks_solid space comment]

theorem Written.spent {apart : Bool} {s : Bytes} (written : Written apart [] s) :
    skipBlanks s = [] := by
  cases written with
  | done blanks =>
    have skipped := blanks.skip []
    rwa [List.append_nil] at skipped

section Values

variable {capitals : Bool} {part : Part} {rest : Bytes}

theorem readValue_slash : readValue part (47 :: rest) = .ok ((readName 47 rest).map .name) := by
  unfold readValue
  rfl

theorem readValue_parenthesis : readValue part (40 :: rest) = readLiteral 40 rest := by
  unfold readValue
  rfl

theorem readValue_angle (single : rest.head? ≠ some 60) :
    readValue part (60 :: rest) = readHex 60 rest := by
  unfold readValue
  simp only [show (60 : UInt8) ≠ 40 by decide, beq_iff_eq, beq_self_eq_true, if_true, if_false]
  split
  · simp at single
  · rfl

theorem readValue_bracket : readValue part (91 :: rest) =
    match readItems (rest.length + 1) rest with
    | .error stop => .error stop
    | .ok r => .ok ((r.map Object.array).within (le_cons 91 rest)) := by
  unfold readValue
  rfl

theorem readValue_angles : readValue part (60 :: 60 :: rest) =
    match readEntries (rest.length + 2) rest with
    | .error stop => .error stop
    | .ok r => .ok ((r.map fun es => Object.dictionary (Dictionary.ofList es)).within
        (Nat.le_trans (le_cons 60 rest) (le_cons 60 (60 :: rest)))) := by
  unfold readValue
  rfl

theorem regular_not_mark {b : UInt8} (regular : isRegular b = true) :
    (b == 40) = false ∧ (b == 60) = false ∧ (b == 91) = false ∧ (b == 47) = false := by
  simp only [isRegular, isDelimiter, Bool.and_eq_true, Bool.not_eq_true', Bool.or_eq_false_iff]
    at regular
  simp [regular]

theorem readValue_number {b : UInt8} (h : startsNumber b = true) :
    readValue part (b :: rest) = readNumber b rest h := by
  unfold readValue
  simp [regular_not_mark (number_regular h), h]

theorem readValue_regular {b : UInt8} (regular : isRegular b = true) (h : startsNumber b = false) :
    readValue part (b :: rest) = .ok ((readKeyword b rest).map wordValue) := by
  unfold readValue
  simp [regular_not_mark regular, h, regular]

theorem readValue_name (bytes : Bytes) (ends : endsRun rest = true) :
    Yields (readValue part (nameToken capitals bytes ++ rest)) (.name bytes) rest := by
  have read := name_spelled capitals bytes ends
  rw [nameToken, List.cons_append, readValue_slash]
  exact ⟨_, rfl, by simp [Read.map, readName, read], by simp [Read.map, readName, read]⟩

theorem readLiteral_yields {b : UInt8} {bytes after : Bytes}
    (read : literal ⟨0, .plain⟩ rest = some (bytes, after)) :
    Yields (readLiteral b rest) (.string bytes .literal) after := by
  unfold readLiteral
  split
  · next failed =>
    rw [read] at failed
    contradiction
  · next found =>
    rw [read] at found
    cases found
    exact ⟨_, rfl, rfl, rfl⟩

theorem readHex_yields {b : UInt8} {digits : List Nat} {after : Bytes}
    (read : hexDigits (rest.length + 1) rest = .ok (digits, after)) :
    Yields (readHex b rest) (.string (pairDigits digits) .hexadecimal) after := by
  unfold readHex
  split
  · next failed =>
    rw [read] at failed
    contradiction
  · next found =>
    rw [read] at found
    cases found
    exact ⟨_, rfl, rfl, rfl⟩

theorem readNumber_yields {b : UInt8} {h : startsNumber b = true} {token after : Bytes}
    {value : Object} (read : numberToken b rest = (token, after))
    (counts : numberValue? token = some value) : Yields (readNumber b rest h) value after := by
  simp only [readNumber]
  split
  · next failed => simp [read, counts] at failed
  · next found =>
    rw [read, counts, Option.some.injEq] at found
    exact ⟨_, rfl, found.symm, congrArg Prod.snd read⟩

theorem readValue_string (bytes : Bytes) (form : StringForm) :
    Yields (readValue part (stringToken capitals bytes form ++ rest)) (.string bytes form) rest := by
  cases form with
  | literal =>
    rw [stringToken, List.cons_append, List.append_assoc, readValue_parenthesis]
    exact readLiteral_yields (literal_spelled bytes rest)
  | hexadecimal =>
    rw [stringToken, List.cons_append, List.append_assoc, List.singleton_append,
      readValue_angle (hexString_front capitals bytes rest)]
    obtain ⟨digits, read, same⟩ := hexDigits_spelled capitals
      ((bytes.flatMap (hexPair capitals) ++ 62 :: rest).length + 1) bytes rest
    have yields := readHex_yields (b := 60) read
    rwa [same] at yields

theorem readValue_integer {n : Int} (low : -Bound.long ≤ n) (high : n < Bound.long)
    (ends : endsRun rest = true) :
    Yields (readValue part (integerToken n ++ rest)) (.integer n) rest := by
  obtain ⟨b, tail, shape, starts, read⟩ := numberToken_integer n ends
  rw [shape, List.cons_append, readValue_number starts]
  exact readNumber_yields read (numberValue_integer low high)

theorem operator_not_number {b : UInt8} (h : startsOperator b = true) : startsNumber b = false := by
  simp [startsOperator, startsNumber, isDigit, isSign, UInt8.le_iff_toNat_le, ← UInt8.toNat_inj] at h ⊢
  omega

theorem readValue_word {word : String} (constant : word ∈ ["true", "false", "null"])
    (ends : endsRun rest = true) :
    Yields (readValue part (wordToken word ++ rest)) (wordValue word) rest := by
  have isWord := isWord_constant constant
  obtain ⟨b, tail, shape, starts, regular⟩ := isWord.front
  have read := isWord.read shape ends
  rw [shape, List.cons_append, readValue_regular regular (operator_not_number starts)]
  exact ⟨_, rfl, by simp [Read.map, readKeyword, read], by simp [Read.map, readKeyword, read]⟩

end Values

section Nested

variable {part : Part} {start : Nat} {s rest after : Bytes}

theorem readItems_end (closes : skipBlanks s = 93 :: rest) :
    Yields (readItems start s) [] rest := by
  unfold readItems
  split
  · next none => simp [closes] at none
  · next found =>
    rw [closes] at found
    cases found
    exact ⟨_, rfl, rfl, rfl⟩

theorem readItems_next {b : UInt8} {item : Object} {items : List Object} {between : Bytes}
    (begins : skipBlanks s = b :: rest) (other : b ≠ 93)
    (first : Yields (readValue .array (skipBlanks s)) item between)
    (others : Yields (readItems start between) items after) :
    Yields (readItems start s) (item :: items) after := by
  obtain ⟨r, read, rfl, rfl⟩ := others
  rw [begins] at first
  obtain ⟨r₀, read₀, rfl, rfl⟩ := first
  unfold readItems
  split
  · next none => simp [begins] at none
  · next found =>
    rw [begins] at found
    cases found
    simp only [beq_iff_eq, other, if_false, read₀, read]
    exact ⟨_, rfl, rfl, rfl⟩

theorem readValue_array {items : List Object}
    (read : ∀ start, Yields (readItems start rest) items after) :
    Yields (readValue part (91 :: rest)) (.array items) after := by
  obtain ⟨r, found, rfl, rfl⟩ := read (rest.length + 1)
  rw [readValue_bracket, found]
  exact ⟨_, rfl, rfl, rfl⟩

theorem readEntries_end (closes : skipBlanks s = 62 :: 62 :: rest) :
    Yields (readEntries start s) [] rest := by
  unfold readEntries
  split
  · next none => simp [closes] at none
  · next found =>
    rw [closes] at found
    cases found
    exact ⟨_, rfl, rfl, rfl⟩

theorem readEntries_next {key between tail : Bytes} {value : Object}
    {entries : List (Bytes × Object)} (begins : skipBlanks s = 47 :: tail)
    (named : name tail = (key, rest))
    (first : Yields (readValue .dictionary (skipBlanks rest)) value between)
    (others : Yields (readEntries start between) entries after) :
    Yields (readEntries start s) ((key, value) :: entries) after := by
  obtain ⟨r, read, rfl, rfl⟩ := others
  cases named
  obtain ⟨r₀, read₀, rfl, rfl⟩ := first
  have keyed : readValue .dictionary (skipBlanks (readName 47 tail).rest) = .ok r₀ := read₀
  unfold readEntries
  split
  · next none => simp [begins] at none
  · next found =>
    rw [begins] at found
    cases found
    simp only [keyed, read]
    exact ⟨_, rfl, rfl, rfl⟩

theorem readValue_dictionary {entries : List (Bytes × Object)}
    (read : ∀ start, Yields (readEntries start rest) entries after) :
    Yields (readValue part (60 :: 60 :: rest)) (.dictionary (Dictionary.ofList entries)) after := by
  obtain ⟨r, found, rfl, rfl⟩ := read (rest.length + 2)
  rw [readValue_angles, found]
  exact ⟨_, rfl, rfl, rfl⟩

end Nested

section Trees

variable (capitals : Bool)

def ReadBack (value : Object) : Prop :=
  ∀ (part : Part) (apart : Bool) (more : List Bytes) (s : Bytes),
    Written apart (spell capitals value ++ more) s →
      ∃ after, Yields (readValue part (skipBlanks s)) value after ∧ Written true more after

variable {capitals}

theorem spell_cases {value : Object} (h : Writable value) :
    (∃ word ∈ ["true", "false", "null"],
      spell capitals value = [wordToken word] ∧ value = wordValue word) ∨
    ∃ b token tail, spell capitals value = (b :: token) :: tail ∧ Solid b ∧
      startsOperator b = false := by
  have marks : ∀ b : UInt8, b ∈ [40, 47, 60, 91] → Solid b ∧ startsOperator b = false := by
    intro b member
    simp only [List.mem_cons, List.not_mem_nil, or_false] at member
    rcases member with rfl | rfl | rfl | rfl
    all_goals exact ⟨⟨rfl, by decide, by decide, rfl⟩, rfl⟩
  cases h with
  | null => exact .inl ⟨"null", by simp, by rw [spell], rfl⟩
  | boolean value =>
    cases value with
    | true => exact .inl ⟨"true", by simp, by rw [spell], rfl⟩
    | false => exact .inl ⟨"false", by simp, by rw [spell], rfl⟩
  | integer n =>
    obtain ⟨b, tail, shape, starts, -⟩ := numberToken_integer n (show endsRun [] = true from rfl)
    refine .inr ⟨b, tail, [], by rw [spell, shape], solid_of_regular (number_regular starts), ?_⟩
    by_contra operator
    simp [operator_not_number (by simpa using operator)] at starts
  | name bytes => exact .inr ⟨47, _, _, by rw [spell, nameToken], marks 47 (by simp)⟩
  | string bytes form =>
    cases form with
    | literal => exact .inr ⟨40, _, _, by rw [spell, stringToken], marks 40 (by simp)⟩
    | hexadecimal => exact .inr ⟨60, _, _, by rw [spell, stringToken], marks 60 (by simp)⟩
  | array items => exact .inr ⟨91, _, _, by rw [spell], marks 91 (by simp)⟩
  | dictionary entries => exact .inr ⟨60, _, _, by rw [spell], marks 60 (by simp)⟩

theorem spell_front {value : Object} (h : Writable value) :
    ∃ b token tail, spell capitals value = (b :: token) :: tail ∧ Solid b := by
  rcases spell_cases h with ⟨word, constant, spelled, -⟩ | ⟨b, token, tail, spelled, solid, -⟩
  · obtain ⟨b, token, shape, -, regular⟩ := (isWord_constant constant).front
    exact ⟨b, token, [], shape ▸ spelled, solid_of_regular regular⟩
  · exact ⟨b, token, tail, spelled, solid⟩

theorem readBack_token {value : Object} (h : Writable value) {token : Bytes}
    (spelled : spell capitals value = [token])
    (read : ∀ part rest, endsRun rest = true → Yields (readValue part (token ++ rest)) value rest) :
    ReadBack capitals value := by
  intro part apart more s written
  obtain ⟨b, tail, others, shape, solid⟩ := spell_front h
  obtain ⟨rfl, rfl⟩ := List.cons_eq_cons.1 (spelled.symm.trans shape)
  rw [spelled] at written
  obtain ⟨rest, skipped, follows⟩ := written.front solid.space solid.comment
  rw [skipped]
  exact ⟨rest, read part rest follows.endsRun, follows⟩

theorem readItems_spelled {items : List Object} (writable : ∀ item ∈ items, Writable item)
    (each : ∀ item ∈ items, ReadBack capitals item) {apart : Bool} {more : List Bytes} {s : Bytes}
    (written : Written apart (spellItems capitals items ++ [93] :: more) s) :
    ∃ after, (∀ start, Yields (readItems start s) items after) ∧ Written true more after := by
  induction items generalizing apart s with
  | nil =>
    obtain ⟨rest, closes, follows⟩ := written.front rfl (by decide)
    exact ⟨rest, fun start => readItems_end closes, follows⟩
  | cons item items ih =>
    rw [spellItems, List.append_assoc] at written
    obtain ⟨b, token, tail, spelled, solid⟩ := spell_front (writable item List.mem_cons_self)
    have shape := written
    rw [spelled] at shape
    obtain ⟨rest, begins, -⟩ := shape.front solid.space solid.comment
    obtain ⟨between, first, follows⟩ := each item List.mem_cons_self .array _ _ _ written
    obtain ⟨after, others, last⟩ := ih (fun item member => writable item (.tail _ member))
      (fun item member => each item (.tail _ member)) follows
    exact ⟨after, fun start => readItems_next begins solid.bracket first (others start), last⟩

theorem readEntries_spelled {entries : List (Bytes × Object)}
    (each : ∀ entry ∈ entries, ReadBack capitals entry.2) {apart : Bool} {more : List Bytes}
    {s : Bytes} (written : Written apart (spellEntries capitals entries ++ [62, 62] :: more) s) :
    ∃ after, (∀ start, Yields (readEntries start s) entries after) ∧ Written true more after := by
  induction entries generalizing apart s with
  | nil =>
    obtain ⟨rest, closes, follows⟩ := written.front rfl (by decide)
    exact ⟨rest, fun start => readEntries_end closes, follows⟩
  | cons entry entries ih =>
    obtain ⟨key, value⟩ := entry
    rw [spellEntries, List.cons_append, List.append_assoc, nameToken] at written
    obtain ⟨rest, begins, keyed⟩ := written.front rfl (by decide)
    have named := name_spelled capitals key keyed.endsRun
    obtain ⟨between, first, follows⟩ := each _ List.mem_cons_self .dictionary _ _ _ keyed
    obtain ⟨after, others, last⟩ := ih (fun entry member => each entry (.tail _ member)) follows
    exact ⟨after, fun start => readEntries_next begins named first (others start), last⟩

/-- By induction on the tree: what is inside an array or a dictionary is read back in front of its
closing token, and that in front of the rest. -/
theorem readBack_of_writable {value : Object} (h : Writable value) : ReadBack capitals value := by
  have constant {value : Object} (h : Writable value) (word : String)
      (known : word ∈ ["true", "false", "null"]) (spelled : spell capitals value = [wordToken word])
      (meant : wordValue word = value) : ReadBack capitals value :=
    readBack_token h spelled fun _ _ ends => meant ▸ readValue_word known ends
  induction h with
  | null => exact constant .null "null" (by simp) (by rw [spell]) rfl
  | boolean value =>
    cases value with
    | true => exact constant (.boolean true) "true" (by simp) (by rw [spell]) rfl
    | false => exact constant (.boolean false) "false" (by simp) (by rw [spell]) rfl
  | integer n low high =>
    exact readBack_token (.integer n low high) (by rw [spell]) fun _ _ => readValue_integer low high
  | name bytes => exact readBack_token (.name bytes) (by rw [spell]) fun _ _ => readValue_name bytes
  | string bytes form =>
    exact readBack_token (.string bytes form) (by rw [spell]) fun _ _ _ =>
      readValue_string bytes form
  | array items writable each =>
    intro part apart more s written
    rw [spell, List.cons_append, List.append_assoc] at written
    obtain ⟨rest, begins, inside⟩ := written.front rfl (by decide)
    obtain ⟨after, read, follows⟩ := readItems_spelled writable each inside
    rw [begins]
    exact ⟨after, readValue_array read, follows⟩
  | dictionary entries distinct writable each =>
    intro part apart more s written
    rw [spell, List.cons_append, List.append_assoc] at written
    obtain ⟨rest, begins, inside⟩ := written.front rfl (by decide)
    obtain ⟨after, read, follows⟩ := readEntries_spelled each inside
    rw [begins]
    have whole : Yields (readValue part _) _ after := readValue_dictionary read
    rw [Dictionary.ofList_distinct distinct] at whole
    exact ⟨after, whole, follows⟩

end Trees

end PageMarks.Content
