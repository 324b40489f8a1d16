import PageMarks.Proofs.Content.Grammar

/-!
Streams that go on. What is read from bytes is read from the front of longer ones, if a word or a
number cannot run on into what is added. The main statement is about whole streams: one that is added
to another is read after it, from inside a comment if the other one ends in a comment.
-/

namespace PageMarks.Content

/-- Whether bytes that are blank to their end leave a comment open. -/
def commentLasts (inComment : Bool) : Bytes → Bool
  | [] => inComment
  | b :: rest =>
    if inComment then commentLasts (b != 10 && b != 13) rest
    else if isSpace b then commentLasts false rest
    else if b == 37 then commentLasts true rest
    else false

def endsInComment (s : Bytes) : Bool :=
  match h : skipBlanks s with
  | [] => commentLasts false s
  | b :: rest =>
    match readItem b rest with
    | .error _ => false
    | .ok item =>
      have : item.rest.length < s.length :=
        Nat.lt_of_lt_of_le item.shorter (length_of_skipBlanks h)
      endsInComment item.rest
termination_by s.length

section Lexemes

variable {s t : Bytes}

theorem blanksFrom_append {inComment : Bool} {b : UInt8} {rest : Bytes}
    (begins : blanksFrom inComment s = b :: rest) (t : Bytes) :
    blanksFrom inComment (s ++ t) = b :: (rest ++ t) := by
  induction s generalizing inComment with
  | nil => cases begins
  | cons c s ih =>
    simp only [List.cons_append, blanksFrom] at begins ⊢
    split_ifs at begins ⊢
    · exact ih begins
    · exact ih begins
    · exact ih begins
    · obtain ⟨rfl, rfl⟩ := List.cons.inj begins
      rfl

theorem skipBlanks_append {b : UInt8} {rest : Bytes} (begins : skipBlanks s = b :: rest)
    (t : Bytes) : skipBlanks (s ++ t) = b :: (rest ++ t) :=
  blanksFrom_append begins t

theorem blanksFrom_blank {inComment : Bool} (blank : blanksFrom inComment s = []) (t : Bytes) :
    blanksFrom inComment (s ++ t) = blanksFrom (commentLasts inComment s) t := by
  induction s generalizing inComment with
  | nil => rfl
  | cons c s ih =>
    simp only [List.cons_append, blanksFrom, commentLasts] at blank ⊢
    split_ifs at blank ⊢
    · exact ih blank
    · exact ih blank
    · exact ih blank

theorem blanksFrom_idem (inComment : Bool) (s : Bytes) :
    skipBlanks (blanksFrom inComment s) = blanksFrom inComment s := by
  induction s generalizing inComment with
  | nil => rfl
  | cons b s ih =>
    simp only [blanksFrom]
    split_ifs with _ space comment
    · exact ih _
    · exact ih _
    · exact ih _
    · exact skipBlanks_solid (by simpa using space) (by simpa using comment) s

theorem literal_append {state : LiteralState} {bytes after : Bytes}
    (read : literal state s = some (bytes, after)) (t : Bytes) :
    literal state (s ++ t) = some (bytes, after ++ t) := by
  induction s generalizing state bytes after with
  | nil => cases read
  | cons b s ih =>
    simp only [List.cons_append, literal] at read ⊢
    generalize state.step b = stepped at read ⊢
    obtain ⟨out, _ | next⟩ := stepped
    · cases read
      rfl
    · obtain ⟨⟨inner, tail⟩, found, same⟩ := Option.map_eq_some_iff.mp read
      cases same
      dsimp only
      rw [ih found]
      rfl

theorem hexDigits_append {start : Nat} {digits : List Nat} {after : Bytes}
    (read : hexDigits start s = .ok (digits, after)) (t : Bytes) :
    hexDigits start (s ++ t) = .ok (digits, after ++ t) := by
  induction s generalizing digits after with
  | nil => cases read
  | cons b s ih =>
    simp only [List.cons_append, hexDigits] at read ⊢
    split_ifs at read ⊢
    · cases read
      rfl
    · exact ih read
    · cases known : hexValue? b with
      | none => simp [known] at read
      | some digit =>
        simp only [known] at read ⊢
        cases found : hexDigits start s with
        | error stop => simp [found, Except.map] at read
        | ok pair =>
          rw [found] at read
          cases read
          rw [ih found]
          rfl

theorem skipBlanks_value {value : Object} {after : Bytes}
    (read : ValueAt (skipBlanks s) value after) (t : Bytes) :
    skipBlanks (s ++ t) = skipBlanks s ++ t := by
  cases front : skipBlanks s with
  | nil =>
    rw [front] at read
    cases read
  | cons b rest => exact skipBlanks_append front t

theorem dataStart_append {b : UInt8} (found : beginsData (b :: s) = true)
    (more : dataStart (b :: s) ≠ []) :
    beginsData (b :: (s ++ t)) = true ∧ dataStart (b :: (s ++ t)) = dataStart (b :: s) ++ t := by
  obtain ⟨data, rfl, rfl, apart⟩ := beginsData_front found
  cases data with
  | nil => cases more rfl
  | cons c data =>
    refine ⟨apart, ?_⟩
    simp only [dataStart, List.cons_append, List.drop_succ_cons, List.drop_zero]
    split_ifs <;> rfl

variable (ends : endsRun t = true)
include ends

theorem endsRun_append : endsRun (s.dropWhile isRegular ++ t) = true := by
  have stops := List.head?_dropWhile_not isRegular s
  cases found : s.dropWhile isRegular with
  | nil => exact ends
  | cons b rest =>
    rw [found] at stops
    simpa [endsRun] using stops

theorem takeWhile_append : (s ++ t).takeWhile isRegular = s.takeWhile isRegular := by
  calc (s ++ t).takeWhile isRegular
      = (s.takeWhile isRegular ++ (s.dropWhile isRegular ++ t)).takeWhile isRegular := by
        rw [← List.append_assoc, List.takeWhile_append_dropWhile]
    _ = s.takeWhile isRegular :=
        takeWhile_run (fun _ member => List.mem_takeWhile_imp member) (endsRun_append ends)

theorem dropWhile_append : (s ++ t).dropWhile isRegular = s.dropWhile isRegular ++ t := by
  calc (s ++ t).dropWhile isRegular
      = (s.takeWhile isRegular ++ (s.dropWhile isRegular ++ t)).dropWhile isRegular := by
        rw [← List.append_assoc, List.takeWhile_append_dropWhile]
    _ = s.dropWhile isRegular ++ t :=
        dropWhile_run (fun _ member => List.mem_takeWhile_imp member) (endsRun_append ends)

theorem name_append : name (s ++ t) = ((name s).1, (name s).2 ++ t) := by
  simp only [name, takeWhile_append ends, dropWhile_append ends]

theorem keyword_append (b : UInt8) :
    keyword b (s ++ t) = ((keyword b s).1, (keyword b s).2 ++ t) := by
  simp only [keyword, takeWhile_append ends, dropWhile_append ends]

theorem decimalRun_append (pointAllowed : Bool) :
    decimalRun pointAllowed (s ++ t) =
      ((decimalRun pointAllowed s).1, (decimalRun pointAllowed s).2 ++ t) := by
  induction s generalizing pointAllowed with
  | nil =>
    cases t with
    | nil => rfl
    | cons b t =>
      have stops : isRegular b = false := by simpa [endsRun] using ends
      have notDigit : isDigit b = false := by
        by_contra digit
        rw [number_regular (by simp [startsNumber, digit])] at stops
        cases stops
      have notPoint : (b == 46) = false := by
        by_contra point
        rw [number_regular (by simp [startsNumber, point])] at stops
        cases stops
      simp [decimalRun, notDigit, notPoint]
  | cons b s ih =>
    simp only [List.cons_append, decimalRun, ih]
    split_ifs <;> rfl

theorem numberToken_append (b : UInt8) :
    numberToken b (s ++ t) = ((numberToken b s).1, (numberToken b s).2 ++ t) := by
  simp only [numberToken, decimalRun_append ends, ← List.cons_append]
  split_ifs <;> rfl

end Lexemes

section Rules

mutual

theorem ValueAt.append {s t after : Bytes} {value : Object} (ends : endsRun t = true) :
    ValueAt s value after → ValueAt (s ++ t) value (after ++ t)
  | .literal read => .literal (literal_append read t)
  | @ValueAt.hexadecimal start rest digits after single read => by
    have single : (rest ++ t).head? ≠ some 60 := by
      cases rest with
      | nil => cases read
      | cons => exact single
    exact .hexadecimal single (hexDigits_append read t)
  | .dictionary entries => .dictionary (entries.append ends)
  | .array items => .array (items.append ends)
  | @ValueAt.name rest => by
    have named : ValueAt (47 :: (rest ++ t)) _ _ := .name
    rwa [name_append ends] at named
  | @ValueAt.number b rest value starts counts => by
    have split := numberToken_append (s := rest) ends b
    have read : ValueAt (b :: (rest ++ t)) value _ := .number starts (by rw [split]; exact counts)
    rwa [split] at read
  | @ValueAt.word b rest regular other => by
    have read : ValueAt (b :: (rest ++ t)) _ _ := .word regular other
    rwa [keyword_append ends] at read

theorem ItemsAt.append {s t after : Bytes} {items : List Object} (ends : endsRun t = true) :
    ItemsAt s items after → ItemsAt (s ++ t) items (after ++ t)
  | .done closes => .done (skipBlanks_append closes t)
  | .next begins other first others =>
    .next (skipBlanks_append begins t) other (first.append ends) (others.append ends)

theorem EntriesAt.append {s t after : Bytes} {entries : List (Bytes × Object)}
    (ends : endsRun t = true) : EntriesAt s entries after → EntriesAt (s ++ t) entries (after ++ t)
  | .done closes => .done (skipBlanks_append closes t)
  | @EntriesAt.next s rest value between entries after begins first others => by
    have value : ValueAt (skipBlanks (name (rest ++ t)).2) value (between ++ t) := by
      rw [name_append ends, skipBlanks_value first]
      exact first.append ends
    have entry : EntriesAt (s ++ t) _ _ :=
      .next (skipBlanks_append begins t) value (others.append ends)
    rwa [name_append ends] at entry

end

variable {s t : Bytes} (ends : endsRun t = true)
include ends

theorem endsRun_same : endsRun (s ++ t) = endsRun s := by
  cases s with
  | nil => exact ends
  | cons => rfl

theorem endsImage_append (b : UInt8) : endsImage (b :: s ++ t) = endsImage (b :: s) := by
  cases s with
  | nil =>
    cases t with
    | nil => rfl
    | cons c t =>
      have other : c ≠ 73 := by
        rintro rfl
        cases ends
      simp [endsImage, other]
  | cons c s =>
    by_cases image : b = 69 ∧ c = 73
    · obtain ⟨rfl, rfl⟩ := image
      exact endsRun_same ends
    · simp only [List.cons_append, endsImage]
      split <;> split <;> simp_all

theorem imageData_append {boundary : Bool} {data after : Bytes}
    (found : imageData boundary s = some (data, after)) :
    imageData boundary (s ++ t) = some (data, after ++ t) := by
  induction s generalizing boundary data after with
  | nil => cases found
  | cons b s ih =>
    have same := endsImage_append (s := s) ends b
    simp only [List.cons_append] at same
    simp only [List.cons_append, imageData, same] at found ⊢
    split_ifs at found ⊢ with closes
    · obtain ⟨-, image⟩ := Bool.and_eq_true_iff.mp closes
      unfold endsImage at image
      split at image
      · next shape =>
        cases shape
        cases found
        rfl
      · cases image
    · obtain ⟨⟨inner, tail⟩, inside, same⟩ := Option.map_eq_some_iff.mp found
      cases same
      rw [ih inside]
      rfl

theorem ImageEntriesAt.append {entries : List (Bytes × Object)} {after : Bytes}
    (rules : ImageEntriesAt s entries after) (more : after ≠ []) :
    ImageEntriesAt (s ++ t) entries (after ++ t) := by
  induction rules with
  | done begins found =>
    obtain ⟨again, start⟩ := dataStart_append found more
    rw [← start]
    exact .done (skipBlanks_append begins t) again
  | @next s rest value between entries after begins first _ ih =>
    have value : ValueAt (skipBlanks (name (rest ++ t)).2) value (between ++ t) := by
      rw [name_append ends, skipBlanks_value first]
      exact first.append ends
    have entry : ImageEntriesAt (s ++ t) _ _ :=
      .next (skipBlanks_append begins t) value (ih more)
    rwa [name_append ends] at entry

theorem ItemAt.append {b : UInt8} {item : Option Item} {after : Bytes}
    (rules : ItemAt b s item after) : ItemAt b (s ++ t) item (after ++ t) := by
  cases rules with
  | stray stray => exact .stray stray
  | @image entries between data _ starts opens inside found =>
    have split := keyword_append (s := s) ends b
    have more : between ≠ [] := by
      rintro rfl
      cases found
    have inside : ImageEntriesAt (keyword b (s ++ t)).2 entries (between ++ t) := by
      rw [split]
      exact inside.append ends more
    exact .image starts (by rw [split]; exact opens) inside (imageData_append ends found)
  | word starts other =>
    have split := keyword_append (s := s) ends b
    have other : (keyword b (s ++ t)).1 ≠ "BI" := by rwa [split]
    have word := ItemAt.word starts other
    rwa [split] at word
  | value other rules => exact .value other (rules.append ends)

end Rules

theorem endsInComment_blank {s : Bytes} (blank : skipBlanks s = []) :
    endsInComment s = commentLasts false s := by
  rw [endsInComment]
  split
  · rfl
  · next found => simp [blank] at found

theorem endsInComment_step {s rest after : Bytes} {b : UInt8} {item : Option Item}
    (begins : skipBlanks s = b :: rest) (first : Yields (readItem b rest) item after) :
    endsInComment s = endsInComment after := by
  obtain ⟨r, read, rfl, rfl⟩ := first
  rw [endsInComment]
  split
  · next none => simp [begins] at none
  · next found =>
    rw [begins] at found
    cases found
    rw [read]

theorem readStream_step {s rest after : Bytes} {b : UInt8} {item : Option Item}
    (begins : skipBlanks s = b :: rest) (first : Yields (readItem b rest) item after) :
    readStream s = (readStream after).map (item.toList ++ ·) := by
  obtain ⟨r, read, rfl, rfl⟩ := first
  rw [readStream]
  split
  · next none => simp [begins] at none
  · next found =>
    rw [begins] at found
    cases found
    rw [read]
    dsimp only
    cases readStream r.rest <;> rfl

theorem readStream_stop {s rest : Bytes} {b : UInt8} {stop : Stop}
    (begins : skipBlanks s = b :: rest) (first : readItem b rest = .error stop) :
    readStream s = .error stop := by
  rw [readStream]
  split
  · next none => simp [begins] at none
  · next found =>
    rw [begins] at found
    cases found
    rw [first]

theorem readStream_blank {s : Bytes} (blank : skipBlanks s = []) : readStream s = .ok [] := by
  rw [readStream]
  split
  · rfl
  · next found => simp [blank] at found

theorem readStream_last {s rest : Bytes} {b : UInt8} {word : String}
    (begins : skipBlanks s = b :: rest) (starts : startsOperator b = true)
    (read : keyword b rest = (word, [])) (other : word ≠ "BI") :
    readStream s = .ok [wordItem word] := by
  have other : (keyword b rest).1 ≠ "BI" := by rwa [read]
  have first := ItemAt.word starts other
  rw [read] at first
  rw [readStream_step begins first.yields, readStream_blank rfl]
  rfl

theorem readStream_skip (s : Bytes) : readStream (skipBlanks s) = readStream s := by
  have idem : skipBlanks (skipBlanks s) = skipBlanks s := blanksFrom_idem false s
  cases begins : skipBlanks s with
  | nil => rw [readStream_blank begins, readStream_blank rfl]
  | cons b rest =>
    rw [begins] at idem
    cases first : readItem b rest with
    | error stop => rw [readStream_stop idem first, readStream_stop begins first]
    | ok item =>
      have first : Yields (readItem b rest) item.value item.rest := ⟨item, first, rfl, rfl⟩
      rw [readStream_step idem first, readStream_step begins first]

/-- What is added to a stream is read after it: from inside a comment, if the stream ends in one. -/
theorem readStream_append {s : Bytes} {items : List Item} (read : readStream s = .ok items)
    {t : Bytes} (ends : endsRun t = true) :
    readStream (s ++ t) = (readStream (blanksFrom (endsInComment s) t)).map (items ++ ·) := by
  cases begins : skipBlanks s with
  | nil =>
    have skipped : skipBlanks (s ++ t) = blanksFrom (commentLasts false s) t :=
      blanksFrom_blank begins t
    rw [readStream_blank begins] at read
    cases read
    rw [endsInComment_blank begins, ← readStream_skip (s ++ t), skipped]
    cases readStream (blanksFrom (commentLasts false s) t) <;> rfl
  | cons b rest =>
    cases first : readItem b rest with
    | error stop =>
      rw [readStream_stop begins first] at read
      cases read
    | ok item =>
      have yields : Yields (readItem b rest) item.value item.rest := ⟨item, first, rfl, rfl⟩
      have longer : Yields (readItem b (rest ++ t)) item.value (item.rest ++ t) :=
        readItem_iff.mpr ((readItem_iff.mp yields).append ends)
      rw [readStream_step begins yields] at read
      cases others : readStream item.rest with
      | error stop =>
        rw [others] at read
        cases read
      | ok more =>
        rw [others] at read
        cases read
        have shorter : item.rest.length < s.length :=
          Nat.lt_of_lt_of_le item.shorter (length_of_skipBlanks begins)
        calc readStream (s ++ t)
            = (readStream (item.rest ++ t)).map (item.value.toList ++ ·) :=
              readStream_step (skipBlanks_append begins t) longer
          _ = ((readStream (blanksFrom (endsInComment item.rest) t)).map (more ++ ·)).map
                (item.value.toList ++ ·) := by rw [readStream_append others ends]
          _ = (readStream (blanksFrom (endsInComment s) t)).map
                ((item.value.toList ++ more) ++ ·) := by
              rw [endsInComment_step begins yields]
              cases readStream (blanksFrom (endsInComment item.rest) t) with
              | error => rfl
              | ok last => simp [Except.map]
termination_by s.length

end PageMarks.Content
