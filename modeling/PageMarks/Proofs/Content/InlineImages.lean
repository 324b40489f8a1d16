import Mathlib.Tactic.IntervalCases
import PageMarks.Proofs.Content.Progress
import PageMarks.Proofs.Content.Resumption

/-!
Inline images, written and read. An image is its entries between `BI` and `ID`, one space, its data,
and an `EI` after one more space. The main statement is that it is read as one operation with the
entries and the data as they were, as long as the data holds no `EI` that would close it; and that in
any case the data that is read stands in the bytes as it is.
-/

namespace PageMarks.Content

/-- Bytes that an image may be written as. Its entries are tokens with blanks between them, and so is
`ID`; nothing in the data closes it before the `EI` that is meant to. -/
structure ImageLayout (entries : Dictionary) (data : Bytes) where
  capitals : Bool
  laid : Bytes
  gap : Bytes
  opening : UInt8
  closing : UInt8
  written : Written true (spellEntries capitals entries) laid
  blanks : Blanks gap
  apart : gap ≠ []
  opens : isSpace opening = true
  closes : isSpace closing = true
  whole : ∀ i, ¬ ClosesAt true (data ++ [closing]) i

namespace ImageLayout

variable {entries : Dictionary} {data : Bytes} (layout : ImageLayout entries data)

def body : Bytes :=
  layout.gap ++ 73 :: 68 :: layout.opening :: (data ++ [layout.closing])

def bytes : Bytes := [66, 73] ++ (layout.laid ++ (layout.body ++ [69, 73]))

end ImageLayout

theorem Written.spent_skip {apart : Bool} {s : Bytes} (written : Written apart [] s) (t : Bytes) :
    skipBlanks (s ++ t) = skipBlanks t := by
  cases written with
  | done blanks => exact blanks.skip t

theorem imageEntries_written {capitals : Bool} {entries : List (Bytes × Object)}
    (writable : ∀ entry ∈ entries, Writable entry.2) {apart : Bool} {s t rest : Bytes} {b : UInt8}
    (written : Written apart (spellEntries capitals entries) s) (ends : endsRun t = true)
    (begins : skipBlanks t = b :: rest) (found : beginsData (b :: rest) = true) :
    ImageEntriesAt (s ++ t) entries (dataStart (b :: rest)) := by
  induction entries generalizing apart s with
  | nil =>
    rw [spellEntries] at written
    exact .done ((written.spent_skip t).trans begins) found
  | cons entry entries ih =>
    obtain ⟨key, value⟩ := entry
    obtain ⟨first, others⟩ := List.forall_mem_cons.mp writable
    rw [spellEntries, nameToken] at written
    obtain ⟨keyed, front, follows⟩ := written.front rfl (by decide)
    have named : name (key.flatMap (nameByte capitals) ++ keyed ++ t) = (key, keyed ++ t) := by
      rw [List.append_assoc]
      apply name_spelled
      rw [endsRun_same ends]
      exact follows.endsRun
    obtain ⟨between, read, more⟩ := readBack_of_writable first .imageDictionary _ _ _ follows
    have inside := readValue_iff.mp read
    have valued : ValueAt (skipBlanks (name (key.flatMap (nameByte capitals) ++ keyed ++ t)).2) value
        (between ++ t) := by
      rw [named, skipBlanks_value inside]
      exact inside.append ends
    have entry : ImageEntriesAt (s ++ t) _ _ :=
      .next (skipBlanks_append front t) valued (ih others more)
    rwa [named] at entry

namespace ImageLayout

variable {entries : Dictionary} {data : Bytes} (layout : ImageLayout entries data)

theorem body_endsRun (t : Bytes) : endsRun (layout.body ++ t) = true := by
  rw [body, List.append_assoc]
  exact layout.blanks.endsRun layout.apart _

theorem entriesAt (writable : ∀ entry ∈ entries, Writable entry.2) (t : Bytes) :
    ImageEntriesAt (layout.laid ++ (layout.body ++ t)) entries (data ++ layout.closing :: t) := by
  have begins : skipBlanks (layout.body ++ t) =
      73 :: 68 :: layout.opening :: (data ++ layout.closing :: t) := by
    calc skipBlanks (layout.body ++ t)
        = skipBlanks (layout.gap ++ (73 :: 68 :: layout.opening :: (data ++ layout.closing :: t))) := by
          simp [body]
      _ = skipBlanks (73 :: 68 :: layout.opening :: (data ++ layout.closing :: t)) :=
          layout.blanks.skip _
      _ = _ := skipBlanks_solid rfl (by decide) _
  have opening : beginsData (73 :: 68 :: layout.opening :: (data ++ layout.closing :: t)) = true := by
    simp [beginsData, endsRun, isRegular, layout.opens]
  have start : dataStart (73 :: 68 :: layout.opening :: (data ++ layout.closing :: t)) =
      data ++ layout.closing :: t := by
    simp [dataStart, layout.opens]
  have read := imageEntries_written writable layout.written (layout.body_endsRun t) begins opening
  rwa [start] at read

theorem itemAt (distinct : (entries.map (·.1)).Nodup)
    (writable : ∀ entry ∈ entries, Writable entry.2) {after : Bytes} (ends : endsRun after = true) :
    ItemAt 66 (73 :: (layout.laid ++ (layout.body ++ 69 :: 73 :: after)))
      (some (.image entries data)) after := by
  have isWord : IsWord "BI" := ⟨by simp, List.all_eq_true.mp rfl, rfl⟩
  have free : endsRun (layout.laid ++ (layout.body ++ 69 :: 73 :: after)) = true := by
    rw [endsRun_same (layout.body_endsRun _)]
    exact layout.written.endsRun
  have opens : keyword 66 (73 :: (layout.laid ++ (layout.body ++ 69 :: 73 :: after))) =
      ("BI", layout.laid ++ (layout.body ++ 69 :: 73 :: after)) :=
    isWord.read (show wordToken "BI" = 66 :: [73] from rfl) free
  have inside : ImageEntriesAt
      (keyword 66 (73 :: (layout.laid ++ (layout.body ++ 69 :: 73 :: after)))).2 entries
      (data ++ layout.closing :: 69 :: 73 :: after) := by
    rw [opens]
    exact layout.entriesAt writable _
  have found := imageData_written layout.closes layout.whole ends
  have read := ItemAt.image rfl (by rw [opens]) inside found
  rwa [Dictionary.ofList_distinct distinct, List.dropLast_concat] at read

end ImageLayout

def Separator (s : Bytes) : Prop := s = [] ∨ ∃ b, s = [b] ∧ isSpace b = true

theorem ImageEntriesAt.split {s after : Bytes} {entries : List (Bytes × Object)}
    (rules : ImageEntriesAt s entries after) :
    ∃ front separator, s = front ++ ([73, 68] ++ (separator ++ after)) ∧ Separator separator := by
  induction rules with
  | @done s b rest begins found =>
    obtain ⟨data, rfl, rfl, -⟩ := beginsData_front found
    obtain ⟨front, whole⟩ := begins_suffix begins
    cases data with
    | nil => exact ⟨front, [], whole.symm, .inl rfl⟩
    | cons c data =>
      simp only [dataStart, List.drop_succ_cons, List.drop_zero]
      split_ifs with space
      · exact ⟨front, [c], whole.symm, .inr ⟨c, rfl, space⟩⟩
      · exact ⟨front, [], whole.symm, .inl rfl⟩
  | next begins first _ ih =>
    obtain ⟨front, separator, rfl, separates⟩ := ih
    obtain ⟨before, whole⟩ := ((keyed_remains begins).trans first.remains).suffix
    exact ⟨before ++ front, separator, by rw [← whole, List.append_assoc], separates⟩

theorem imageData_trimmed {first : Bool} {s data after : Bytes}
    (found : imageData first s = some (data, after)) :
    ∃ gap, s = data.dropLast ++ (gap ++ ([69, 73] ++ after)) ∧ Separator gap := by
  have split := (imageData_iff.mp found).1
  rcases imageData_space found with rfl | ⟨bytes, v, rfl, space⟩
  · exact ⟨[], split, .inl rfl⟩
  · refine ⟨[v], ?_, .inr ⟨v, rfl, space⟩⟩
    rw [split, List.dropLast_concat, List.append_assoc]

def letteredImage :
    ImageLayout [([73, 77], .boolean true)] [69, 73, 48, 32, 69, 73, 120, 32] where
  capitals := true
  laid := [32, 47, 73, 77, 32, 116, 114, 117, 101]
  gap := [32]
  opening := 32
  closing := 10
  written := by
    have space : Blanks [32] := .space rfl .nil
    have apart : true = true → ([32] : Bytes) ≠ [] := by simp
    have laid : Written true [[47, 73, 77], [116, 114, 117, 101]]
        ([32] ++ ([47, 73, 77] ++ ([32] ++ ([116, 114, 117, 101] ++ [])))) :=
      .token space apart (.token space apart (.done .nil))
    have tokens : spellEntries true [([73, 77], .boolean true)] =
        [[47, 73, 77], [116, 114, 117, 101]] := by
      simp only [spellEntries, spell]
      decide
    rw [tokens]
    exact laid
  blanks := .space rfl .nil
  apart := by simp
  opens := rfl
  closes := rfl
  whole := by
    intro i closes
    obtain ⟨e, letter⟩ := closes.letters
    have places : i = 0 ∨ i = 4 := by
      have inside := (List.getElem?_eq_some_iff.mp e).1
      have within : i < 9 := inside
      interval_cases i <;> simp at e ⊢
    rcases places with rfl | rfl
    · exact absurd (closes.apart 48 rfl) (by decide)
    · exact absurd (closes.apart 120 rfl) (by decide)

end PageMarks.Content
