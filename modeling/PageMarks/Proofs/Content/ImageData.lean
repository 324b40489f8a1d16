import Mathlib.Tactic.Common
import PageMarks.Content.Lexeme

/-!
Where the data of an inline image ends. The data may hold any bytes, and so may what comes after; the
main statement is that the data goes up to the first place where an `EI` closes it.
-/

namespace PageMarks.Content

theorem endsRun_iff {s : Bytes} : endsRun s = true ↔ ∀ c, s[0]? = some c → isRegular c = false := by
  cases s with
  | nil => simp [endsRun]
  | cons b rest => simp [endsRun]

theorem getElem?_behind (s t : Bytes) (i : Nat) : (s ++ t)[s.length + i]? = t[i]? := by
  rw [List.getElem?_append_right (Nat.le_add_right _ i), Nat.add_sub_cancel_left]

/-- At place `i` an `EI` closes an image: it begins the data or stands behind a space, and the run of
regular bytes ends with it. `first` says whether the data begins with `s`. -/
structure ClosesAt (first : Bool) (s : Bytes) (i : Nat) : Prop where
  boundary : (i = 0 ∧ first = true) ∨ (0 < i ∧ ∃ c, s[i - 1]? = some c ∧ isSpace c = true)
  letters : s[i]? = some 69 ∧ s[i + 1]? = some 73
  apart : ∀ c, s[i + 2]? = some c → isRegular c = false

theorem endsImage_iff {b : UInt8} {rest : Bytes} :
    endsImage (b :: rest) = true ↔ b = 69 ∧ ∃ after, rest = 73 :: after ∧ endsRun after = true := by
  constructor
  · intro ends
    unfold endsImage at ends
    split at ends
    · next after same =>
      cases same
      exact ⟨rfl, after, rfl, ends⟩
    · cases ends
  · rintro ⟨rfl, after, rfl, ends⟩
    exact ends

section Places

variable {first : Bool} {b : UInt8} {rest : Bytes} {i : Nat}

theorem closesAt_zero :
    ClosesAt first (b :: rest) 0 ↔ (first && endsImage (b :: rest)) = true := by
  rw [Bool.and_eq_true, endsImage_iff]
  constructor
  · rintro ⟨boundary, ⟨e, i⟩, apart⟩
    have begins : first = true := by simpa using boundary
    have second : rest.head? = some 73 := by
      rw [List.head?_eq_getElem?]
      exact i
    obtain ⟨after, rfl⟩ := List.head?_eq_some_iff.mp second
    exact ⟨begins, Option.some.inj e, after, rfl, endsRun_iff.mpr apart⟩
  · rintro ⟨begins, rfl, after, rfl, ends⟩
    exact ⟨.inl ⟨rfl, begins⟩, ⟨rfl, rfl⟩, endsRun_iff.mp ends⟩

theorem closesAt_succ : ClosesAt first (b :: rest) (i + 1) ↔ ClosesAt (isSpace b) rest i := by
  have boundary : ((i + 1 = 0 ∧ first = true) ∨
      (0 < i + 1 ∧ ∃ c, (b :: rest)[i + 1 - 1]? = some c ∧ isSpace c = true)) ↔
      ((i = 0 ∧ isSpace b = true) ∨ (0 < i ∧ ∃ c, rest[i - 1]? = some c ∧ isSpace c = true)) := by
    cases i with
    | zero => simp
    | succ i => simp
  exact ⟨fun ⟨before, letters, apart⟩ => ⟨boundary.mp before, letters, apart⟩,
    fun ⟨before, letters, apart⟩ => ⟨boundary.mpr before, letters, apart⟩⟩

end Places

theorem imageData_iff {first : Bool} {s data after : Bytes} :
    imageData first s = some (data, after) ↔ s = data ++ ([69, 73] ++ after) ∧
      ClosesAt first s data.length ∧ ∀ i < data.length, ¬ ClosesAt first s i := by
  induction s generalizing first data with
  | nil => simp [imageData]
  | cons b rest ih =>
    by_cases closes : (first && endsImage (b :: rest)) = true
    · have here := closesAt_zero.mpr closes
      obtain ⟨rfl, tail, rfl, -⟩ := endsImage_iff.mp (Bool.and_eq_true_iff.mp closes).2
      rw [imageData, if_pos closes]
      constructor
      · intro found
        cases found
        exact ⟨rfl, here, fun i below => absurd below (Nat.not_lt_zero i)⟩
      · rintro ⟨split, -, none⟩
        cases data with
        | nil =>
          cases split
          rfl
        | cons => exact absurd here (none 0 (Nat.succ_pos _))
    · have notHere : ¬ ClosesAt first (b :: rest) 0 := fun here => closes (closesAt_zero.mp here)
      rw [imageData, if_neg closes, Option.map_eq_some_iff]
      constructor
      · rintro ⟨⟨inner, tail⟩, found, same⟩
        cases same
        obtain ⟨split, there, none⟩ := ih.mp found
        refine ⟨congrArg (b :: ·) split, closesAt_succ.mpr there, fun i below => ?_⟩
        cases i with
        | zero => exact notHere
        | succ i => exact fun earlier => none i (Nat.lt_of_succ_lt_succ below) (closesAt_succ.mp earlier)
      · rintro ⟨split, there, none⟩
        cases data with
        | nil => exact absurd there notHere
        | cons c inner =>
          obtain ⟨rfl, tail⟩ := List.cons.inj split
          refine ⟨(inner, after), ih.mpr ⟨tail, closesAt_succ.mp there, fun i below earlier => ?_⟩, rfl⟩
          exact none (i + 1) (Nat.succ_lt_succ below) (closesAt_succ.mpr earlier)

section Found

variable {first : Bool} {s data after : Bytes}

theorem imageData_space (found : imageData first s = some (data, after)) :
    data = [] ∨ ∃ bytes v, data = bytes ++ [v] ∧ isSpace v = true := by
  obtain ⟨split, closes, -⟩ := imageData_iff.mp found
  rcases closes.boundary with ⟨empty, -⟩ | ⟨nonempty, v, last, space⟩
  · exact .inl (List.eq_nil_of_length_eq_zero empty)
  · have whole := List.dropLast_concat_getLast (List.length_pos_iff.mp nonempty)
    have same : data.getLast (List.length_pos_iff.mp nonempty) = v := by
      rw [split, List.getElem?_append_left (by omega), ← List.getLast?_eq_getElem?] at last
      exact Option.some.inj ((List.getLast?_eq_some_getLast _).symm.trans last)
    exact .inr ⟨_, _, whole.symm, same ▸ space⟩

theorem imageData_endsRun (found : imageData first s = some (data, after)) :
    endsRun after = true := by
  obtain ⟨split, closes, -⟩ := imageData_iff.mp found
  refine endsRun_iff.mpr fun c front => closes.apart c ?_
  rw [split, getElem?_behind]
  exact front

end Found

theorem closesAt_within {first : Bool} {data rest : Bytes} {space : UInt8} {i : Nat}
    (blank : isSpace space = true) (below : i < (data ++ [space]).length)
    (closes : ClosesAt first ((data ++ [space]) ++ rest) i) : ClosesAt first (data ++ [space]) i := by
  have notLetter : space ≠ 69 ∧ space ≠ 73 := by
    constructor <;> rintro rfl <;> cases blank
  have last : ((data ++ [space]) ++ rest)[data.length]? = some space := by
    rw [List.append_assoc, ← Nat.add_zero data.length, getElem?_behind]
    rfl
  obtain ⟨e, letter⟩ := closes.letters
  have inside : i + 1 < data.length := by
    rw [List.length_append, List.length_singleton] at below
    by_contra beyond
    rcases (by omega : data.length = i ∨ data.length = i + 1) with place | place
    · rw [place, e] at last
      exact notLetter.1 (Option.some.inj last).symm
    · rw [place, letter] at last
      exact notLetter.2 (Option.some.inj last).symm
  have same : ∀ j ≤ i + 2, ((data ++ [space]) ++ rest)[j]? = (data ++ [space])[j]? := by
    intro j fits
    apply List.getElem?_append_left
    rw [List.length_append, List.length_singleton]
    omega
  rw [same i (by omega)] at e
  rw [same (i + 1) (by omega)] at letter
  refine ⟨?_, ⟨e, letter⟩, fun c found => ?_⟩
  · rw [← same (i - 1) (by omega)]
    exact closes.boundary
  · rw [← same (i + 2) (Nat.le_refl _)] at found
    exact closes.apart c found

/-- The data is closed by the `EI` behind it, if neither the data nor the space after it holds one that
would close it before. -/
theorem imageData_written {data after : Bytes} {space : UInt8} (blank : isSpace space = true)
    (whole : ∀ i, ¬ ClosesAt true (data ++ [space]) i) (ends : endsRun after = true) :
    imageData true (data ++ space :: 69 :: 73 :: after) = some (data ++ [space], after) := by
  have split : data ++ space :: 69 :: 73 :: after = (data ++ [space]) ++ ([69, 73] ++ after) := by simp
  rw [imageData_iff, split]
  refine ⟨rfl, ⟨.inr ⟨by simp, space, by simp, blank⟩, ⟨?_, ?_⟩, fun c found => ?_⟩, ?_⟩
  · exact getElem?_behind (data ++ [space]) ([69, 73] ++ after) 0
  · exact getElem?_behind (data ++ [space]) ([69, 73] ++ after) 1
  · rw [getElem?_behind] at found
    exact endsRun_iff.mp ends c found
  · intro i below earlier
    have closed := closesAt_within blank below earlier
    exact whole i closed

end PageMarks.Content
