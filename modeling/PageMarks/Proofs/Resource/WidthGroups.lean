import Mathlib.Data.List.Forall2
import PageMarks.Proofs.Decimal.WholeNumbers
import PageMarks.Resource.Font

/-!
Arrays of widths. Such an array is a list of groups, and what is read from it are the ranges of its
groups. The main statement says so for any array, and that the reading fails just when a width
stands so far behind the first code of its group that its own code is no 32-bit number.
-/

namespace PageMarks

variable {K : Type}

/-- Widths for one code after another from a first one on, or one width for all codes from a first
to a last. An entry that is no number keeps its place. -/
inductive WidthGroup (K : Type)
  | row (first : Nat) (widths : List (Option K))
  | span (first last : Nat) (width : K)

namespace WidthGroup

def first : WidthGroup K → Nat
  | row first _ | span first _ _ => first

def ranges : WidthGroup K → List (WidthRange K)
  | row first widths => (widths.zipIdx first).filterMap fun (width, code) =>
      width.map (⟨code, code, ·⟩)
  | span first last width => [⟨first, last, width⟩]

/-- A width of the row has a code past the largest 32-bit number. -/
inductive Overflows : WidthGroup K → Prop
  | row {first : Nat} {widths : List (Option K)} {i : Nat} {width : K} :
    widths[i]? = some (some width) → Bound.word ≤ first + i → Overflows (row first widths)

theorem overflows_none {first : Nat} {widths : List (Option K)} :
    (row first (none :: widths)).Overflows ↔ (row (first + 1) widths).Overflows := by
  constructor
  · intro overflows
    cases overflows with
    | @row _ _ i width found large =>
      cases i with
      | zero => simp at found
      | succ i => exact .row (by simpa using found) (by omega)
  · rintro (@⟨_, _, i, width, found, large⟩)
    exact .row (i := i + 1) (by simpa using found) (by omega)

theorem overflows_some {first : Nat} {width : K} {widths : List (Option K)} :
    (row first (some width :: widths)).Overflows ↔
      Bound.word ≤ first ∨ (row (first + 1) widths).Overflows := by
  constructor
  · intro overflows
    cases overflows with
    | @row _ _ i width found large =>
      cases i with
      | zero => exact .inl (by omega)
      | succ i => exact .inr (.row (by simpa using found) (by omega))
  · rintro (large | @⟨_, _, i, width, found, large⟩)
    · exact .row (i := 0) rfl (by omega)
    · exact .row (i := i + 1) (by simpa using found) (by omega)

end WidthGroup

namespace Resource

open WidthGroup (row span)

variable [Scalar K] {doc : Document}

theorem codeAt?_lt {value : Object} {code : Nat} (found : codeAt? doc value = some code) :
    code < Bound.word := by
  obtain ⟨object, -, read⟩ := Option.bind_eq_some_iff.mp found
  obtain ⟨whole, cut, rfl⟩ := Option.map_eq_some_iff.mp read
  obtain ⟨x, -, rfl⟩ := Option.map_eq_some_iff.mp cut
  have below : (Decimal.Binary.ofFloat x).truncate 0 (Bound.word - 1) ≤ Bound.word - 1 :=
    Decimal.Binary.truncate_le (by decide) (by decide) _
  have word : (Bound.word : Int) = 4294967296 := rfl
  change ((Decimal.Binary.ofFloat x).truncate 0 (Bound.word - 1)).toNat < 4294967296
  omega

theorem codeAt?_integer {value : Object} {code : Nat} (small : code < Bound.word)
    (found : doc.resolve value = .ok (.integer code)) : codeAt? doc value = some code := by
  have word : Bound.word = 2 ^ 32 := rfl
  have whole : (Decimal.Binary.ofFloat (Float.ofNat code)).truncate 0 (Bound.word - 1) = code :=
    Decimal.truncate_ofNat (by omega) (by omega) (by omega)
  have read : Object.word? (.integer code) = some code :=
    congrArg (fun n : Int => some n.toNat) whole
  rw [codeAt?, Document.resolve?, found]
  exact read

theorem groupRanges_row {first : Nat} {items : List Object}
    (fits : ¬(row first (items.map (numberAt? doc)) : WidthGroup K).Overflows) :
    groupRanges doc first items =
      some (row first (items.map (numberAt? doc)) : WidthGroup K).ranges := by
  induction items generalizing first with
  | nil => rfl
  | cons item rest ih =>
    rw [List.map_cons] at fits ⊢
    rw [groupRanges]
    cases width : (numberAt? doc item : Option K) with
    | none =>
      rw [width, WidthGroup.overflows_none] at fits
      exact ih fits
    | some width' =>
      rw [width, WidthGroup.overflows_some, not_or, Nat.not_le] at fits
      simp only [fits.1, if_true, ih fits.2]
      rfl

theorem groupRanges_overflow {first : Nat} {items : List Object}
    (overflows : (row first (items.map (numberAt? doc)) : WidthGroup K).Overflows) :
    (groupRanges doc first items : Option (List (WidthRange K))) = none := by
  induction items generalizing first with
  | nil =>
    cases overflows with
    | row found => simp at found
  | cons item rest ih =>
    rw [List.map_cons] at overflows
    rw [groupRanges]
    cases width : (numberAt? doc item : Option K) with
    | none =>
      rw [width, WidthGroup.overflows_none] at overflows
      exact ih overflows
    | some width' =>
      rw [width, WidthGroup.overflows_some] at overflows
      dsimp only
      split_ifs with small
      · rw [ih (overflows.resolve_left (Nat.not_le.mpr small))]
        rfl
      · rfl

/-- How an array falls into groups. A value that is no number where a group may begin belongs to
none. A number with nothing behind it, or with one value that is no array, is no group, and neither
are three values of which one is not the number that it should be. -/
inductive Grouped (doc : Document) : List Object → List (WidthGroup K) → Prop
  | nil : Grouped doc [] []
  | stray {value rest groups} : codeAt? doc value = none → Grouped doc rest groups →
    Grouped doc (value :: rest) groups
  | alone {value first} : codeAt? doc value = some first → Grouped doc [value] []
  | row {value next first items rest groups} : codeAt? doc value = some first →
    arrayAt? doc next = some items → Grouped doc rest groups →
    Grouped doc (value :: next :: rest) (.row first (items.map (numberAt? doc)) :: groups)
  | cut {value next first} : codeAt? doc value = some first → arrayAt? doc next = none →
    Grouped doc [value, next] []
  | span {value next wide first last width rest groups} : codeAt? doc value = some first →
    arrayAt? doc next = none → codeAt? doc next = some last → numberAt? doc wide = some width →
    Grouped doc rest groups →
    Grouped doc (value :: next :: wide :: rest) (.span first last width :: groups)
  | spoiled {value next wide first rest groups} : codeAt? doc value = some first →
    arrayAt? doc next = none →
    (codeAt? doc next = none ∨ (numberAt? doc wide : Option K) = none) → Grouped doc rest groups →
    Grouped doc (value :: next :: wide :: rest) groups

theorem exists_grouped (doc : Document) (items : List Object) :
    ∃ groups : List (WidthGroup K), Grouped doc items groups := by
  -- A group takes up to three values, so the induction is on how many are left.
  induction length : items.length using Nat.strong_induction_on generalizing items with
  | _ n ih =>
    subst length
    cases items with
    | nil => exact ⟨_, .nil⟩
    | cons value rest =>
      cases begins : codeAt? doc value with
      | none =>
        obtain ⟨groups, grouped⟩ := ih _ (Nat.lt_succ_self _) rest rfl
        exact ⟨groups, .stray begins grouped⟩
      | some first =>
        cases rest with
        | nil => exact ⟨_, .alone begins⟩
        | cons next rest =>
          cases listed : arrayAt? doc next with
          | some items =>
            obtain ⟨groups, grouped⟩ := ih _ (by simp only [List.length_cons]; omega) rest rfl
            exact ⟨_, .row begins listed grouped⟩
          | none =>
            cases rest with
            | nil => exact ⟨_, .cut begins listed⟩
            | cons wide rest =>
              obtain ⟨groups, grouped⟩ := ih _ (by simp only [List.length_cons]; omega) rest rfl
              cases ends : codeAt? doc next with
              | none => exact ⟨groups, .spoiled begins listed (.inl ends) grouped⟩
              | some last =>
                cases widens : (numberAt? doc wide : Option K) with
                | none => exact ⟨groups, .spoiled begins listed (.inr widens) grouped⟩
                | some width => exact ⟨_, .span begins listed ends widens grouped⟩

theorem Grouped.first_lt {items : List Object} {groups : List (WidthGroup K)}
    (grouped : Grouped doc items groups) : ∀ group ∈ groups, group.first < Bound.word := by
  induction grouped with
  | nil | alone | cut => simp
  | stray _ _ ih | spoiled _ _ _ _ ih => exact ih
  | row begins _ _ ih | span begins _ _ _ _ ih =>
    exact List.forall_mem_cons.mpr ⟨codeAt?_lt begins, ih⟩

section Steps

variable {value next wide : Object} {first last : Nat} {rest items : List Object} {width : K}

theorem widthRanges_stray (unread : codeAt? doc value = none) :
    (widthRanges doc (value :: rest) : Option (List (WidthRange K))) =
      widthRanges doc rest := by
  rw [widthRanges.eq_def]
  dsimp only
  rw [unread]

theorem widthRanges_row (begins : codeAt? doc value = some first)
    (listed : arrayAt? doc next = some items) :
    (widthRanges doc (value :: next :: rest) : Option (List (WidthRange K))) = do
      let group ← groupRanges doc first items
      return group ++ (← widthRanges doc rest) := by
  rw [widthRanges.eq_def]
  dsimp only
  rw [begins]
  dsimp only
  rw [listed]

theorem widthRanges_alone (begins : codeAt? doc value = some first) :
    (widthRanges doc [value] : Option (List (WidthRange K))) = some [] := by
  rw [widthRanges.eq_def]
  dsimp only
  rw [begins]

theorem widthRanges_cut (begins : codeAt? doc value = some first)
    (single : arrayAt? doc next = none) :
    (widthRanges doc [value, next] : Option (List (WidthRange K))) = some [] := by
  rw [widthRanges.eq_def]
  dsimp only
  rw [begins]
  dsimp only
  rw [single]

theorem widthRanges_span (begins : codeAt? doc value = some first)
    (single : arrayAt? doc next = none) (ends : codeAt? doc next = some last)
    (widens : numberAt? doc wide = some width) :
    widthRanges doc (value :: next :: wide :: rest) =
      (widthRanges doc rest).map (⟨first, last, width⟩ :: ·) := by
  rw [widthRanges.eq_def]
  dsimp only
  rw [begins]
  dsimp only
  rw [single]
  dsimp only
  rw [ends, widens]

theorem widthRanges_spoiled (begins : codeAt? doc value = some first)
    (single : arrayAt? doc next = none)
    (unclear : codeAt? doc next = none ∨ (numberAt? doc wide : Option K) = none) :
    (widthRanges doc (value :: next :: wide :: rest) : Option (List (WidthRange K))) =
      widthRanges doc rest := by
  rw [widthRanges.eq_def]
  dsimp only
  rw [begins]
  dsimp only
  rw [single]
  dsimp only
  rcases unclear with unread | unread
  · rw [unread]
  · rw [unread]
    cases codeAt? doc next <;> rfl

end Steps

theorem Grouped.read {items : List Object} {groups : List (WidthGroup K)}
    (grouped : Grouped doc items groups) :
    ((∀ group ∈ groups, ¬group.Overflows) →
      widthRanges doc items = some (groups.flatMap WidthGroup.ranges)) ∧
    ((∃ group ∈ groups, group.Overflows) →
      (widthRanges doc items : Option (List (WidthRange K))) = none) := by
  induction grouped with
  | nil => exact ⟨fun _ => by rw [widthRanges, List.flatMap_nil], by simp⟩
  | stray unread _ ih => rwa [widthRanges_stray unread]
  | alone begins => exact ⟨fun _ => widthRanges_alone begins, by simp⟩
  | cut begins single => exact ⟨fun _ => widthRanges_cut begins single, by simp⟩
  | @row _ _ first items _ _ begins listed _ ih =>
    rw [widthRanges_row begins listed, List.forall_mem_cons, List.exists_mem_cons_iff,
      List.flatMap_cons]
    refine ⟨fun ⟨inside, others⟩ => ?_, fun overflows => ?_⟩
    · rw [groupRanges_row inside, ih.1 others]
      rfl
    · by_cases outside : (WidthGroup.row first (items.map (numberAt? doc)) : WidthGroup K).Overflows
      · rw [groupRanges_overflow outside]
        rfl
      · rw [groupRanges_row outside, ih.2 (overflows.resolve_left outside)]
        rfl
  | span begins single ends widens _ ih =>
    rw [widthRanges_span begins single ends widens, List.forall_mem_cons,
      List.exists_mem_cons_iff, List.flatMap_cons]
    refine ⟨fun ⟨_, others⟩ => ?_, fun overflows => ?_⟩
    · rw [ih.1 others]
      rfl
    · rw [ih.2 (overflows.resolve_left nofun)]
      rfl
  | spoiled begins single unclear _ ih => rwa [widthRanges_spoiled begins single unclear]

/-- Any array falls into groups, each with a 32-bit number for its first code. Its reading stops
just when a width in a row is so far behind the first code of the row that its own code is no 32-bit
number; otherwise the array is read as the ranges of its groups, where each code is the one that
stands in the array or that it comes to by counting. -/
theorem widthRanges_overflow_iff (doc : Document) (items : List Object) :
    ∃ groups : List (WidthGroup K), Grouped doc items groups ∧
      (∀ group ∈ groups, group.first < Bound.word) ∧
      ((widthRanges doc items : Option (List (WidthRange K))) = none ↔
        ∃ group ∈ groups, group.Overflows) ∧
      ((∀ group ∈ groups, ¬group.Overflows) →
        widthRanges doc items = some (groups.flatMap WidthGroup.ranges)) := by
  obtain ⟨groups, grouped⟩ := exists_grouped (K := K) doc items
  refine ⟨groups, grouped, grouped.first_lt, ⟨fun stopped => ?_, grouped.read.2⟩, grouped.read.1⟩
  by_contra fits
  rw [grouped.read.1 (by simpa using fits)] at stopped
  cases stopped

/-- Two widths of which only the first has a code. -/
theorem second_code_overflows : (widthRanges .empty
    [.integer 4294967295, .array [.integer 500, .integer 600]] :
      Option (List (WidthRange Float))) = none := by
  have grouped : Grouped .empty
      [.integer 4294967295, .array [.integer 500, .integer 600]]
      [.row 4294967295 ([.integer 500, .integer 600].map (numberAt? (K := Float) .empty))] :=
    .row (codeAt?_integer (by decide) rfl) rfl .nil
  exact grouped.read.2 ⟨_, List.mem_singleton_self _, .row (i := 1) rfl (by decide)⟩

end Resource
end PageMarks
