import PageMarks.Proofs.Content.Progress

/-!
Where a reading stops when it fails. The stop of a reader lies in the bytes that it was given, or
where the array, dictionary, string or image under way was opened; a byte that the fault names is the
one found there. The main statement is about whole streams.
-/

namespace PageMarks.Content

def Fault.byte? : Fault → Option UInt8
  | .unexpectedByte byte _ | .invalidHexDigit byte => some byte
  | .unterminated _ | .invalidNumber _ => none

/-- The stop lies where some end of `s` begins, at the byte that its fault names. -/
structure Stop.Within (stop : Stop) (s : Bytes) : Prop where
  place : ∃ rest, rest <:+ s ∧ rest.length = stop.left ∧
    ∀ byte, stop.fault.byte? = some byte → rest.head? = some byte

namespace Stop.Within

variable {s t : Bytes} {stop : Stop}

theorem mono (within : stop.Within t) (suffix : t <:+ s) : stop.Within s := by
  obtain ⟨rest, inside, place⟩ := within.place
  exact ⟨rest, inside.trans suffix, place⟩

theorem here {fault : Fault} {left : Nat} (whole : s.length = left)
    (names : ∀ byte, fault.byte? = some byte → s.head? = some byte) : Within ⟨fault, left⟩ s :=
  ⟨s, List.suffix_rfl, whole, names⟩

theorem unexpected {b : UInt8} {rest : Bytes} {part : Part} :
    Within ⟨.unexpectedByte b part, rest.length + 1⟩ (b :: rest) :=
  here rfl fun _ names => names

theorem unterminated {part : Part} {left : Nat} (whole : s.length = left) :
    Within ⟨.unterminated part, left⟩ s :=
  here whole nofun

theorem left_le (within : stop.Within s) : stop.left ≤ s.length := by
  obtain ⟨rest, inside, same, -⟩ := within.place
  exact same ▸ inside.length_le

theorem byte_at (within : stop.Within s) {byte : UInt8} (names : stop.fault.byte? = some byte) :
    s[s.length - stop.left]? = some byte := by
  obtain ⟨rest, ⟨front, rfl⟩, same, there⟩ := within.place
  have position : (front ++ rest).length - stop.left = front.length := by
    rw [List.length_append]
    omega
  rw [position, List.getElem?_append_right (Nat.le_refl _), Nat.sub_self, ← List.head?_eq_getElem?]
  exact there byte names

end Stop.Within

section Lexemes

variable {rest : Bytes} {b : UInt8} {stop : Stop}

theorem hexDigits_within {start : Nat} {s : Bytes} (failed : hexDigits start s = .error stop) :
    stop = ⟨.unterminated .hexString, start⟩ ∨ stop.Within s := by
  induction s with
  | nil =>
    cases failed
    exact .inl rfl
  | cons b rest ih =>
    have further := fun (failed : hexDigits start rest = .error stop) =>
      (ih failed).imp_right fun within => within.mono (List.suffix_cons b rest)
    simp only [hexDigits] at failed
    split_ifs at failed
    · exact further failed
    · cases known : hexValue? b with
      | none =>
        rw [known] at failed
        cases failed
        exact .inr (.here rfl fun _ names => names)
      | some digit =>
        cases found : hexDigits start rest with
        | error inner =>
          rw [known, found] at failed
          cases failed
          exact further found
        | ok pair => simp [known, found, Except.map] at failed

theorem readHex_within (failed : readHex b rest = .error stop) : stop.Within (b :: rest) := by
  unfold readHex at failed
  split at failed
  · next inner found =>
    cases failed
    rcases hexDigits_within found with rfl | within
    · exact .unterminated rfl
    · exact within.mono (List.suffix_cons b rest)
  · cases failed

theorem readLiteral_within (failed : readLiteral b rest = .error stop) : stop.Within (b :: rest) := by
  unfold readLiteral at failed
  split at failed
  · cases failed
    exact .unterminated rfl
  · cases failed

theorem readNumber_within {starts : startsNumber b = true}
    (failed : readNumber b rest starts = .error stop) : stop.Within (b :: rest) := by
  simp only [readNumber] at failed
  split at failed
  · cases failed
    refine .here rfl ?_
    intro byte found
    cases found
  · cases failed

end Lexemes

section Values

variable {part : Part} {start : Nat} {s rest : Bytes} {stop : Stop}

theorem array_stop (failed : readValue part (91 :: rest) = .error stop) :
    readItems (rest.length + 1) rest = .error stop := by
  rw [readValue_bracket] at failed
  split at failed
  · next found =>
    cases failed
    exact found
  · cases failed

theorem dictionary_stop (failed : readValue part (60 :: 60 :: rest) = .error stop) :
    readEntries (rest.length + 2) rest = .error stop := by
  rw [readValue_angles] at failed
  split at failed
  · next found =>
    cases failed
    exact found
  · cases failed

theorem items_stop (failed : readItems start s = .error stop) :
    stop = ⟨.unterminated .array, start⟩ ∨
      ∃ b rest, skipBlanks s = b :: rest ∧ (readValue .array (b :: rest) = .error stop ∨
        ∃ item between, Yields (readValue .array (b :: rest)) item between ∧
          readItems start between = .error stop) := by
  unfold readItems at failed
  split at failed
  · cases failed
    exact .inl rfl
  · next b rest begins =>
    refine .inr ⟨b, rest, begins, ?_⟩
    split_ifs at failed
    split at failed
    · next found =>
      cases failed
      exact .inl found
    · next item first =>
      dsimp only at failed
      split at failed
      · next found =>
        cases failed
        exact .inr ⟨_, _, ⟨item, first, rfl, rfl⟩, found⟩
      · cases failed

theorem entries_stop (failed : readEntries start s = .error stop) :
    stop = ⟨.unterminated .dictionary, start⟩ ∨ stop.Within s ∨
      ∃ rest, skipBlanks s = 47 :: rest ∧
        (readValue .dictionary (skipBlanks (name rest).2) = .error stop ∨
          ∃ value between, Yields (readValue .dictionary (skipBlanks (name rest).2)) value between ∧
            readEntries start between = .error stop) := by
  unfold readEntries at failed
  split at failed
  · cases failed
    exact .inl rfl
  · next b rest begins =>
    right
    split_ifs at failed with closes named
    · obtain rfl : b = 47 := by simpa using named
      refine .inr ⟨rest, begins, ?_⟩
      dsimp only at failed
      split at failed
      · next found =>
        cases failed
        exact .inl found
      · next item first =>
        split at failed
        · next found =>
          cases failed
          exact .inr ⟨_, _, ⟨item, first, rfl, rfl⟩, found⟩
        · cases failed
    · cases failed
      exact .inl (Stop.Within.unexpected.mono (begins_suffix begins))

end Values

/-- The stops of what is read from fewer than `n` bytes. -/
structure StopsBelow (n : Nat) : Prop where
  value {part s stop} : s.length < n → readValue part s = .error stop → stop.Within s
  items {start s stop} : s.length < n → readItems start s = .error stop →
    stop = ⟨.unterminated .array, start⟩ ∨ stop.Within s
  entries {start s stop} : s.length < n → readEntries start s = .error stop →
    stop = ⟨.unterminated .dictionary, start⟩ ∨ stop.Within s

theorem StopsBelow.value_succ {n : Nat} (below : StopsBelow n) {part : Part} {s : Bytes}
    {stop : Stop} (short : s.length < n + 1)
    (failed : readValue part s = .error stop) : stop.Within s := by
  match s with
  | [] =>
    unfold readValue at failed
    cases failed
    exact .unterminated rfl
  | b :: rest =>
    have within : rest.length < n := Nat.lt_of_succ_lt_succ short
    by_cases parenthesis : b = 40
    · subst parenthesis
      rw [readValue_parenthesis] at failed
      exact readLiteral_within failed
    by_cases angle : b = 60
    · subst angle
      by_cases single : rest.head? = some 60
      · obtain ⟨inner, rfl⟩ := List.head?_eq_some_iff.mp single
        rcases below.entries (Nat.lt_of_succ_lt within) (dictionary_stop failed) with rfl | inside
        · exact .unterminated rfl
        · exact inside.mono (List.suffix_append [60, 60] inner)
      · rw [readValue_angle single] at failed
        exact readHex_within failed
    by_cases bracket : b = 91
    · subst bracket
      rcases below.items within (array_stop failed) with rfl | inside
      · exact .unterminated rfl
      · exact inside.mono (List.suffix_cons 91 rest)
    by_cases slash : b = 47
    · subst slash
      rw [readValue_slash] at failed
      cases failed
    cases starts : startsNumber b with
    | true =>
      rw [readValue_number starts] at failed
      exact readNumber_within failed
    | false =>
      cases regular : isRegular b with
      | true =>
        rw [readValue_regular regular starts] at failed
        cases failed
      | false =>
        unfold readValue at failed
        simp only [beq_iff_eq, parenthesis, angle, bracket, slash, starts, regular] at failed
        cases failed
        exact .unexpected

theorem stopsBelow (n : Nat) : StopsBelow n := by
  induction n with
  | zero => exact ⟨fun short => absurd short (Nat.not_lt_zero _),
      fun short => absurd short (Nat.not_lt_zero _), fun short => absurd short (Nat.not_lt_zero _)⟩
  | succ n below =>
    constructor
    · exact below.value_succ
    · intro start s stop short failed
      obtain rfl | ⟨b, rest, begins, failed | ⟨item, between, first, failed⟩⟩ := items_stop failed
      · exact .inl rfl
      · have front := begins_suffix begins
        have below' := below.value_succ (Nat.lt_of_le_of_lt front.length_le short) failed
        exact .inr (below'.mono front)
      · have further := (readValue_iff.mp first).remains.after_suffix (begins_suffix begins)
        have shorter := further.shorter
        exact (below.items (by omega) failed).imp_right fun inside => inside.mono further.suffix
    · intro start s stop short failed
      obtain rfl | inside | ⟨rest, begins, others⟩ := entries_stop failed
      · exact .inl rfl
      · exact .inr inside
      · have keyed := keyed_remains begins
        have shorter := keyed.shorter
        obtain failed | ⟨value, between, first, failed⟩ := others
        · exact .inr ((below.value (by omega) failed).mono keyed.suffix)
        · have further := keyed.trans (readValue_iff.mp first).remains
          have shorter := further.shorter
          exact (below.entries (by omega) failed).imp_right fun inside => inside.mono further.suffix

theorem readValue_within {part : Part} {s : Bytes} {stop : Stop}
    (failed : readValue part s = .error stop) : stop.Within s :=
  (stopsBelow (s.length + 1)).value (Nat.lt_succ_self _) failed

theorem readImageEntries_within {start : Nat} {s : Bytes} {stop : Stop}
    (failed : readImageEntries start s = .error stop) :
    stop = ⟨.unterminated .imageDictionary, start⟩ ∨ stop.Within s := by
  unfold readImageEntries at failed
  split at failed
  · cases failed
    exact .inl rfl
  · next b rest begins =>
    split_ifs at failed with found named
    · obtain rfl : b = 47 := by simpa using named
      have keyed := keyed_remains begins
      dsimp only at failed
      split at failed
      · next found =>
        cases failed
        exact .inr ((readValue_within found).mono keyed.suffix)
      · next item first =>
        have value : Yields (readValue .imageDictionary (skipBlanks (name rest).2)) item.value
          item.rest := ⟨item, first, rfl, rfl⟩
        have further := keyed.trans (readValue_iff.mp value).remains
        split at failed
        · next found =>
          cases failed
          have shorter := further.shorter
          exact (readImageEntries_within found).imp_right fun inside => inside.mono further.suffix
        · cases failed
    · cases failed
      exact .inr (Stop.Within.unexpected.mono (begins_suffix begins))
termination_by s.length

section Items

variable {s rest : Bytes} {b : UInt8} {stop : Stop}

theorem readImage_within (failed : readImage s = .error stop) : stop.Within s := by
  unfold readImage at failed
  split at failed
  · next found =>
    cases failed
    rcases readImageEntries_within found with rfl | within
    · exact .unterminated rfl
    · exact within
  · next entries read =>
    split at failed
    · cases failed
      have opened := (imageEntries_read ⟨entries, read, rfl, rfl⟩).remains
      exact (Stop.Within.unterminated rfl).mono opened.suffix
    · cases failed

theorem readWord_within (failed : readWord b rest = .error stop) : stop.Within (b :: rest) := by
  unfold readWord at failed
  dsimp only at failed
  split_ifs at failed
  split at failed
  · next found =>
    cases failed
    exact (readImage_within found).mono (keyword_remains b rest).suffix
  · cases failed

theorem mapped_stop {α β : Type} {read : Except Stop (Read α s)} {f : α → β}
    (failed : read.map (Read.map f) = .error stop) : read = .error stop := by
  cases read with
  | error =>
    cases failed
    rfl
  | ok => cases failed

theorem readItem_within (failed : readItem b rest = .error stop) : stop.Within (b :: rest) := by
  unfold readItem at failed
  split_ifs at failed
  · cases failed
    exact .unexpected
  · exact readWord_within (mapped_stop failed)
  · exact readValue_within (mapped_stop failed)

end Items

theorem readStream_within {s : Bytes} {stop : Stop} (failed : readStream s = .error stop) :
    stop.Within s := by
  unfold readStream at failed
  split at failed
  · cases failed
  · next b rest begins =>
    have front := begins_suffix begins
    split at failed
    · next found =>
      cases failed
      exact (readItem_within found).mono front
    · next item first =>
      have further := (readItem_iff.mp ⟨item, first, rfl, rfl⟩).remains.after_suffix front
      dsimp only at failed
      split at failed
      · next found =>
        cases failed
        have shorter := further.shorter
        exact (readStream_within found).mono further.suffix
      · cases failed
termination_by s.length

/-- An error lies in the input or at its end, at the byte that it reports if it reports one. -/
theorem operations_error {input : Bytes} {e : Error} (failed : operations input = .error e) :
    e.offset ≤ input.length ∧ ∀ byte, e.fault.byte? = some byte → input[e.offset]? = some byte := by
  unfold operations at failed
  split at failed
  · next stop found =>
    cases failed
    exact ⟨Nat.sub_le _ _, fun byte names => (readStream_within found).byte_at names⟩
  · cases failed

end PageMarks.Content
