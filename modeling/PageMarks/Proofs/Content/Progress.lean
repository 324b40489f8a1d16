import PageMarks.Proofs.Content.Grammar
import PageMarks.Proofs.Content.ImageData

/-!
What a reading leaves is an end of what it was given, shorter by at least a byte. For lexemes the
bytes between are the lexeme itself; for values, items and images the statements go by the rules of
the grammar.
-/

namespace PageMarks.Content

/-- `after` is what remains of `s` once some of it, at least a byte, is read. -/
structure Remains (s after : Bytes) : Prop where
  suffix : after <:+ s
  shorter : after.length < s.length

namespace Remains

variable {s t u : Bytes}

theorem of_split {token : Bytes} (nonempty : token ≠ []) : Remains (token ++ s) s where
  suffix := List.suffix_append token s
  shorter := by
    have := List.length_pos_iff.mpr nonempty
    rw [List.length_append]
    omega

theorem tail (b : UInt8) (rest : Bytes) : Remains (b :: rest) rest := of_split (List.cons_ne_nil b [])

theorem trans (first : Remains s t) (second : Remains t u) : Remains s u :=
  ⟨second.suffix.trans first.suffix, Nat.lt_trans second.shorter first.shorter⟩

theorem after_suffix (first : t <:+ s) (second : Remains t u) : Remains s u :=
  ⟨second.suffix.trans first, Nat.lt_of_lt_of_le second.shorter first.length_le⟩

theorem suffix_after (first : Remains s t) (second : u <:+ t) : Remains s u :=
  ⟨second.trans first.suffix, Nat.lt_of_le_of_lt second.length_le first.shorter⟩

end Remains

section Lexemes

variable {s after : Bytes}

theorem blanksFrom_suffix (inComment : Bool) (s : Bytes) : blanksFrom inComment s <:+ s := by
  induction s generalizing inComment with
  | nil => exact List.suffix_rfl
  | cons b rest ih =>
    have further := fun inComment => (ih inComment).trans (List.suffix_cons b rest)
    simp only [blanksFrom]
    split_ifs
    · exact further _
    · exact further _
    · exact further _
    · exact List.suffix_rfl

theorem skipBlanks_suffix (s : Bytes) : skipBlanks s <:+ s := blanksFrom_suffix false s

theorem begins_suffix {b : UInt8} {rest : Bytes} (begins : skipBlanks s = b :: rest) :
    b :: rest <:+ s := begins ▸ skipBlanks_suffix s

theorem literal_suffix {state : LiteralState} {bytes : Bytes}
    (read : literal state s = some (bytes, after)) : after <:+ s := by
  induction s generalizing state bytes after with
  | nil => cases read
  | cons b rest ih =>
    simp only [literal] at read
    split at read
    · obtain ⟨-, rfl⟩ := Prod.mk.inj (Option.some.inj read)
      exact List.suffix_cons b rest
    · obtain ⟨⟨inner, tail⟩, found, same⟩ := Option.map_eq_some_iff.mp read
      obtain ⟨-, rfl⟩ := Prod.mk.inj same
      exact (ih found).trans (List.suffix_cons b rest)

theorem hexDigits_suffix {start : Nat} {digits : List Nat}
    (read : hexDigits start s = .ok (digits, after)) : after <:+ s := by
  induction s generalizing digits after with
  | nil => cases read
  | cons b rest ih =>
    have further := fun {digits} (read : hexDigits start rest = .ok (digits, after)) =>
      (ih read).trans (List.suffix_cons b rest)
    simp only [hexDigits] at read
    split_ifs at read
    · obtain ⟨-, rfl⟩ := Prod.mk.inj (Except.ok.inj read)
      exact List.suffix_cons b rest
    · exact further read
    · cases known : hexValue? b with
      | none => simp [known] at read
      | some digit =>
        cases found : hexDigits start rest with
        | error stop => simp [known, found, Except.map] at read
        | ok pair =>
          rw [known, found] at read
          cases read
          exact further found

theorem keyword_split (b : UInt8) (rest : Bytes) :
    b :: rest = (b :: rest.takeWhile isRegular) ++ (keyword b rest).2 := by
  rw [keyword, List.cons_append, List.takeWhile_append_dropWhile]

theorem name_split (rest : Bytes) :
    47 :: rest = (47 :: rest.takeWhile isRegular) ++ (name rest).2 := by
  rw [name, List.cons_append, List.takeWhile_append_dropWhile]

theorem decimalRun_split (pointAllowed : Bool) (s : Bytes) :
    s = (decimalRun pointAllowed s).1 ++ (decimalRun pointAllowed s).2 := by
  induction s generalizing pointAllowed with
  | nil => rfl
  | cons b rest ih =>
    simp only [decimalRun]
    split_ifs
    · rw [List.cons_append, ← ih]
    · rw [List.cons_append, ← ih]
    · rfl

theorem numberToken_split (b : UInt8) (rest : Bytes) :
    b :: rest = (numberToken b rest).1 ++ (numberToken b rest).2 := by
  rw [numberToken]
  split_ifs
  · rw [List.cons_append, ← decimalRun_split]
  · exact decimalRun_split true (b :: rest)

theorem dataStart_suffix (s : Bytes) : dataStart s <:+ s := by
  have opened := List.drop_suffix 2 s
  unfold dataStart
  split
  · exact List.nil_suffix
  · next b rest begins =>
    rw [begins] at opened
    split_ifs
    · exact (List.suffix_cons b rest).trans opened
    · exact opened

end Lexemes

theorem name_remains (rest : Bytes) : Remains (47 :: rest) (name rest).2 := by
  rw [name_split]
  exact .of_split (List.cons_ne_nil _ _)

theorem keyed_remains {s rest : Bytes} (begins : skipBlanks s = 47 :: rest) :
    Remains s (skipBlanks (name rest).2) :=
  ((name_remains rest).suffix_after (skipBlanks_suffix _)).after_suffix (begins_suffix begins)

theorem keyword_remains (b : UInt8) (rest : Bytes) : Remains (b :: rest) (keyword b rest).2 := by
  rw [keyword_split]
  exact .of_split (List.cons_ne_nil _ _)

theorem number_remains {b : UInt8} (starts : startsNumber b = true) (rest : Bytes) :
    Remains (b :: rest) (numberToken b rest).2 where
  suffix := ⟨_, (numberToken_split b rest).symm⟩
  shorter := numberToken_length starts rest

theorem hexDigits_remains {b : UInt8} {start : Nat} {rest after : Bytes} {digits : List Nat}
    (read : hexDigits start rest = .ok (digits, after)) : Remains (b :: rest) after where
  suffix := (hexDigits_suffix read).trans (List.suffix_cons b rest)
  shorter := Nat.lt_succ_of_lt (hexDigits_length read)

theorem dataStart_remains {s rest : Bytes} {b : UInt8} (begins : skipBlanks s = b :: rest)
    (found : beginsData (b :: rest) = true) : Remains s (dataStart (b :: rest)) := by
  have here : Remains (b :: rest) (dataStart (b :: rest)) :=
    ⟨dataStart_suffix _, dataStart_length found⟩
  exact here.after_suffix (begins_suffix begins)

mutual

theorem ValueAt.remains {s after : Bytes} {value : Object} : ValueAt s value after → Remains s after
  | .literal read => ⟨(literal_suffix read).trans (List.suffix_cons _ _),
      Nat.lt_succ_of_lt (literal_length read)⟩
  | .hexadecimal _ read => hexDigits_remains read
  | .dictionary entries => (Remains.tail _ _).trans ((Remains.tail _ _).trans entries.remains)
  | .array items => (Remains.tail _ _).trans items.remains
  | .name => name_remains _
  | .number starts _ => number_remains starts _
  | .word _ _ => keyword_remains _ _

theorem ItemsAt.remains {s after : Bytes} {items : List Object} :
    ItemsAt s items after → Remains s after
  | .done closes => (Remains.tail _ _).after_suffix (begins_suffix closes)
  | .next begins _ first others =>
    (first.remains.trans others.remains).after_suffix (begins_suffix begins)

theorem EntriesAt.remains {s after : Bytes} {entries : List (Bytes × Object)} :
    EntriesAt s entries after → Remains s after
  | .done closes =>
    ((Remains.tail _ _).trans (Remains.tail _ _)).after_suffix (begins_suffix closes)
  | .next begins first others => (keyed_remains begins).trans (first.remains.trans others.remains)

end

theorem ImageEntriesAt.remains {s after : Bytes} {entries : List (Bytes × Object)}
    (rules : ImageEntriesAt s entries after) : Remains s after := by
  induction rules with
  | done begins found => exact dataStart_remains begins found
  | next begins first _ ih => exact (keyed_remains begins).trans (first.remains.trans ih)

theorem imageData_remains {boundary : Bool} {s data after : Bytes}
    (found : imageData boundary s = some (data, after)) : Remains s after := by
  rw [(imageData_iff.mp found).1, ← List.append_assoc]
  apply Remains.of_split
  simp

theorem ItemAt.remains {b : UInt8} {rest after : Bytes} {item : Option Item}
    (rules : ItemAt b rest item after) : Remains (b :: rest) after := by
  cases rules with
  | stray => exact .tail b rest
  | image _ _ inside found =>
    exact (keyword_remains b rest).trans (inside.remains.trans (imageData_remains found))
  | word => exact keyword_remains b rest
  | value _ rules => exact rules.remains

end PageMarks.Content
