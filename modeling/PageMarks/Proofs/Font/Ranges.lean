import Mathlib.Tactic.ByContra
import PageMarks.Font

/-!
Widths from ranges. Of all ranges a code is looked up in one alone: among those that do not start
after it, the one that starts last, and of several that start there the one given last. The main
statement says for which lists of ranges this loses nothing, so that every code in a range gets the
width of a range that it is in.
-/

namespace PageMarks

variable {K : Type}

namespace WidthRange

def Covers (range : WidthRange K) (code : Nat) : Prop := range.first ≤ code ∧ code ≤ range.last

/-- Of the ranges that start where this one does, it is given last. -/
def GivenLast (ranges : List (WidthRange K)) (range : WidthRange K) : Prop :=
  (ranges.filter (·.first == range.first)).getLast? = some range

/-- The range that a code is looked up in. -/
structure Asked (ranges : List (WidthRange K)) (code : Nat) (range : WidthRange K) : Prop where
  starts : range.first ≤ code
  latest : ∀ other ∈ ranges, other.first ≤ code → other.first ≤ range.first
  givenLast : GivenLast ranges range

variable {ranges : List (WidthRange K)} {code : Nat} {range other : WidthRange K}

theorem GivenLast.mem (given : GivenLast ranges range) : range ∈ ranges :=
  (List.mem_filter.mp (List.mem_of_getLast? given)).1

theorem Asked.unique (asked : Asked ranges code range) (again : Asked ranges code other) :
    range = other := by
  have first : range.first = other.first := Nat.le_antisymm
    (again.latest range asked.givenLast.mem asked.starts)
    (asked.latest other again.givenLast.mem again.starts)
  have given := asked.givenLast
  rw [GivenLast, first, again.givenLast] at given
  exact (Option.some.inj given).symm

end WidthRange

namespace Font

open WidthRange (GivenLast Asked)

variable {ranges : List (WidthRange K)} {code : Nat} {range : WidthRange K}

def inOrder (ranges : List (WidthRange K)) : List (WidthRange K) :=
  ranges.mergeSort fun r s => r.first ≤ s.first

theorem inOrder_ascending (ranges : List (WidthRange K)) :
    (inOrder ranges).Pairwise fun r s => r.first ≤ s.first := by
  have sorted : (inOrder ranges).Pairwise fun r s => decide (r.first ≤ s.first) = true :=
    List.pairwise_mergeSort (fun r s t => by simpa using Nat.le_trans)
      (fun r s => by simpa using Nat.le_total _ _) ranges
  simpa using sorted

theorem mem_inOrder : range ∈ inOrder ranges ↔ range ∈ ranges := List.mem_mergeSort

theorem inOrder_same (ranges : List (WidthRange K)) (first : Nat) :
    (inOrder ranges).filter (·.first == first) = ranges.filter (·.first == first) := by
  have level : (ranges.filter (·.first == first)).Pairwise
      fun r s => decide (r.first ≤ s.first) = true := by
    refine List.pairwise_of_forall_mem_list fun r inside s within => ?_
    simp only [List.mem_filter, beq_iff_eq] at inside within
    simp [inside.2, within.2]
  have kept : (ranges.filter (·.first == first)).Sublist (inOrder ranges) :=
    List.sublist_mergeSort (fun r s t => by simpa using Nat.le_trans)
      (fun r s => by simpa using Nat.le_total _ _) level List.filter_sublist
  have filtered := kept.filter (·.first == first)
  simp only [List.filter_filter, Bool.and_self] at filtered
  have count : ((inOrder ranges).filter (·.first == first)).Perm
      (ranges.filter (·.first == first)) := (List.mergeSort_perm ranges _).filter _
  exact (filtered.eq_of_length count.length_eq.symm).symm

theorem takeWhile_ascending {sorted : List (WidthRange K)}
    (ascending : sorted.Pairwise fun r s => r.first ≤ s.first) (code : Nat) :
    sorted.takeWhile (·.first ≤ code) = sorted.filter (·.first ≤ code) := by
  induction sorted with
  | nil => rfl
  | cons range rest ih =>
    obtain ⟨before, ascending⟩ := List.pairwise_cons.mp ascending
    by_cases starts : range.first ≤ code
    · simp [starts, ih ascending]
    · have later : ∀ other ∈ rest, ¬other.first ≤ code := by
        intro other member
        have := before other member
        omega
      simpa [starts] using later

def latest? (ranges : List (WidthRange K)) (code : Nat) : Option (WidthRange K) :=
  ((inOrder ranges).takeWhile (·.first ≤ code)).getLast?

theorem latest_asked (latest : latest? ranges code = some range) : Asked ranges code range := by
  rw [latest?, takeWhile_ascending (inOrder_ascending ranges)] at latest
  obtain ⟨before, shape⟩ := List.getLast?_eq_some_iff.mp latest
  have member : range ∈ (inOrder ranges).filter (·.first ≤ code) := List.mem_of_getLast? latest
  have starts : range.first ≤ code := by simpa using (List.mem_filter.mp member).2
  refine ⟨starts, ?_, ?_⟩
  · intro other given early
    have ascending := (inOrder_ascending ranges).filter (·.first ≤ code)
    have within : other ∈ before ++ [range] := by
      rw [← shape]
      exact List.mem_filter.mpr ⟨mem_inOrder.mpr given, by simpa using early⟩
    rw [shape] at ascending
    rcases List.mem_append.mp within with earlier | same
    · exact (List.pairwise_append.mp ascending).2.2 other earlier range (List.mem_singleton_self _)
    · exact Nat.le_of_eq (congrArg WidthRange.first (List.mem_singleton.mp same))
  · have narrowed : (inOrder ranges).filter (·.first == range.first) =
        ((inOrder ranges).filter (·.first ≤ code)).filter (·.first == range.first) := by
      rw [List.filter_filter]
      refine List.filter_congr fun other _ => ?_
      rw [Bool.eq_iff_iff]
      simp only [beq_iff_eq, Bool.and_eq_true, decide_eq_true_eq]
      omega
    rw [GivenLast, ← inOrder_same, narrowed, shape, List.filter_append]
    simp

theorem latest_none : latest? ranges code = none ↔ ∀ range ∈ ranges, code < range.first := by
  rw [latest?, takeWhile_ascending (inOrder_ascending ranges), List.getLast?_eq_none_iff,
    List.filter_eq_nil_iff]
  simp only [mem_inOrder, decide_eq_true_eq, Nat.not_le]

theorem exists_asked (given : range ∈ ranges) (starts : range.first ≤ code) :
    ∃ asked, Asked ranges code asked := by
  cases latest : latest? ranges code with
  | none =>
    have := latest_none.mp latest range given
    omega
  | some asked => exact ⟨asked, latest_asked latest⟩

theorem latest_iff : latest? ranges code = some range ↔ Asked ranges code range := by
  refine ⟨latest_asked, fun asked => ?_⟩
  cases latest : latest? ranges code with
  | none =>
    have := latest_none.mp latest range asked.givenLast.mem
    have := asked.starts
    omega
  | some other => rw [(latest_asked latest).unique asked]

section Width

variable (name : String) (default : K)

theorem width_latest (ranges : List (WidthRange K)) (code : Nat) :
    (ofRanges name default ranges).width code =
      match latest? ranges code with
      | none => default
      | some range => if code ≤ range.last then range.width else default := rfl

theorem width_asked (asked : Asked ranges code range) :
    (ofRanges name default ranges).width code =
      if code ≤ range.last then range.width else default := by
  rw [width_latest, latest_iff.mpr asked]

theorem width_uncovered (outside : ∀ range ∈ ranges, ¬range.Covers code) :
    (ofRanges name default ranges).width code = default := by
  rw [width_latest]
  cases latest : latest? ranges code with
  | none => rfl
  | some range =>
    have asked := latest_asked latest
    refine if_neg fun inside => ?_
    exact outside range asked.givenLast.mem ⟨asked.starts, inside⟩

theorem width_covered (proper : ∀ range ∈ ranges, range.first ≤ range.last)
    (apart : ∀ r ∈ ranges, ∀ s ∈ ranges, ∀ code, r.Covers code → s.Covers code → r = s)
    (given : range ∈ ranges) (covers : range.Covers code) :
    (ofRanges name default ranges).width code = range.width := by
  obtain ⟨other, asked⟩ := exists_asked given covers.1
  have member := asked.givenLast.mem
  have start : range.first ≤ other.first := asked.latest range given covers.1
  obtain rfl : range = other := apart range given other member other.first
    ⟨start, Nat.le_trans asked.starts covers.2⟩ ⟨Nat.le_refl _, proper other member⟩
  rw [width_asked name default asked, if_pos covers.2]

end Width

def source? (ranges : List (WidthRange K)) (code : Nat) : Option (WidthRange K) :=
  (latest? ranges code).filter fun range => code ≤ range.last

theorem source_iff :
    source? ranges code = some range ↔ Asked ranges code range ∧ range.Covers code := by
  rw [source?, Option.filter_eq_some_iff, latest_iff, decide_eq_true_eq]
  exact ⟨fun ⟨asked, inside⟩ => ⟨asked, asked.starts, inside⟩,
    fun ⟨asked, covers⟩ => ⟨asked, covers.2⟩⟩

theorem width_source (name : String) (default : K) (ranges : List (WidthRange K)) (code : Nat) :
    (ofRanges name default ranges).width code =
      ((source? ranges code).map WidthRange.width).getD default := by
  rw [width_latest, source?]
  cases latest? ranges code with
  | none => rfl
  | some range => by_cases inside : code ≤ range.last <;> simp [Option.filter, inside]

/-- Where a range ends inside another that starts no later, a further one starts at the next code at
the latest. -/
def Relieved (ranges : List (WidthRange K)) : Prop :=
  ∀ inner, GivenLast ranges inner → ∀ outer ∈ ranges, outer.Covers inner.first →
    inner.last < outer.last →
      ∃ next ∈ ranges, inner.first < next.first ∧ next.first ≤ inner.last + 1

theorem Relieved.serves (relieved : Relieved ranges) (given : range ∈ ranges)
    (covers : range.Covers code) : ∃ r ∈ ranges, r.Covers code ∧ source? ranges code = some r := by
  obtain ⟨asked, found⟩ := exists_asked given covers.1
  have member := found.givenLast.mem
  have start : range.first ≤ asked.first := found.latest range given covers.1
  by_cases inside : code ≤ asked.last
  · exact ⟨asked, member, ⟨found.starts, inside⟩, source_iff.mpr ⟨found, found.starts, inside⟩⟩
  · have ends : asked.last < range.last := by
      have := covers.2
      omega
    obtain ⟨next, further, after, soon⟩ := relieved asked found.givenLast range given
      ⟨start, Nat.le_trans found.starts covers.2⟩ ends
    have := found.latest next further (by omega)
    omega

theorem relieved_of_serves
    (serves : ∀ code, (∃ r ∈ ranges, r.Covers code) → (source? ranges code).isSome) :
    Relieved ranges := by
  intro inner last outer given around ends
  by_contra alone
  -- The first code behind the inner range, or its start if it is empty.
  have covers : outer.Covers (max inner.first (inner.last + 1)) := by
    refine ⟨?_, ?_⟩
    · have := around.1
      omega
    · have := around.2
      omega
  have asked : Asked ranges (max inner.first (inner.last + 1)) inner := by
    refine ⟨Nat.le_max_left _ _, ?_, last⟩
    intro other member early
    by_contra after
    exact alone ⟨other, member, by omega, by omega⟩
  obtain ⟨served, found⟩ := Option.isSome_iff_exists.mp (serves _ ⟨outer, given, covers⟩)
  obtain ⟨again, -, inside⟩ := source_iff.mp found
  rw [again.unique asked] at inside
  omega

/-- A code has its width from the range that it is looked up in, if it is in it, and otherwise the
default. No code in a range falls back to the default just when, wherever a range ends inside
another that starts no later, a further one starts at the next code at the latest. -/
theorem served_iff (name : String) (ranges : List (WidthRange K)) :
    (∀ (default : K) code, (ofRanges name default ranges).width code =
      ((source? ranges code).map WidthRange.width).getD default) ∧
    (∀ code range, source? ranges code = some range ↔
      Asked ranges code range ∧ range.Covers code) ∧
    ((∀ code, (∃ range ∈ ranges, range.Covers code) →
      ∃ range ∈ ranges, range.Covers code ∧ source? ranges code = some range) ↔
        Relieved ranges) := by
  refine ⟨fun default => width_source name default ranges, fun _ _ => source_iff, ?_, ?_⟩
  · intro serves
    refine relieved_of_serves fun code covered => ?_
    obtain ⟨range, -, -, found⟩ := serves code covered
    rw [found, Option.isSome_some]
  · rintro relieved code ⟨range, given, covers⟩
    exact relieved.serves given covers

def nestedRanges : List (WidthRange Float) := [⟨0, 100, 500⟩, ⟨10, 20, 300⟩]

/-- A code in the outer range alone, behind the inner one, has neither width. -/
theorem outer_range_lost :
    (∃ range ∈ nestedRanges, range.Covers 50) ∧
    (ofRanges "F" 1000 nestedRanges).width 50 = 1000 ∧
    ∀ range ∈ nestedRanges, range.width ≠ 1000 := by
  have asked : Asked nestedRanges 50 ⟨10, 20, 300⟩ := by
    refine ⟨by decide, ?_, rfl⟩
    simp [nestedRanges]
  refine ⟨⟨_, List.mem_cons_self, by decide, by decide⟩, ?_, ?_⟩
  · rw [width_asked _ _ asked]
    rfl
  · simp only [nestedRanges, List.forall_mem_cons]
    exact ⟨by decide, by decide, by simp⟩

end Font
end PageMarks
