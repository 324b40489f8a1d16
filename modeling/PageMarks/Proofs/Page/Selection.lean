import Mathlib.Data.List.Sort
import Mathlib.Data.Nat.Digits.Defs
import PageMarks.PageRange
import PageMarks.Proofs.Text.Trim

/-!
Page selections. A selection is written as parts between commas, and each part that is not blank is a
page or a first and a last one. The main statement says which selections are read, that the pages of
a selection come in ascending order and once each, however its parts overlap, and which error is
given otherwise: that of the first part that is none.
-/

namespace PageMarks.PageRange

open Text

/-- What a result is: it is a value just as the one says, and an error just as the other says. -/
structure Decides {α : Type} (result : Except Error α) (Good : α → Prop) (Bad : Error → Prop) :
    Prop where
  ok : ∀ a, result = .ok a ↔ Good a
  error : ∀ e, result = .error e ↔ Bad e

theorem Decides.of {α : Type} {result : Except Error α} {Good : α → Prop} {Bad : Error → Prop}
    (good : ∀ a, Good a → result = .ok a) (bad : ∀ e, Bad e → result = .error e)
    (either : (∃ a, Good a) ∨ ∃ e, Bad e) : Decides result Good Bad := by
  refine ⟨fun a => ⟨fun is => ?_, good a⟩, fun e => ⟨fun is => ?_, bad e⟩⟩
  · rcases either with ⟨b, fine⟩ | ⟨e, ill⟩
    · cases is.symm.trans (good b fine)
      exact fine
    · cases is.symm.trans (bad e ill)
  · rcases either with ⟨b, fine⟩ | ⟨e, ill⟩
    · cases is.symm.trans (good b fine)
    · cases is.symm.trans (bad e ill)
      exact ill

/-- The first item that is bad, after good ones. -/
def FirstBad {α β : Type} (Good : α → β → Prop) (Bad : α → Error → Prop) (items : List α)
    (e : Error) : Prop :=
  ∃ before a after, items = before ++ a :: after ∧ (∀ b ∈ before, ∃ result, Good b result) ∧ Bad a e

theorem mapM_decides {α β : Type} {step : α → Except Error β} {Good : α → β → Prop}
    {Bad : α → Error → Prop} (each : ∀ a, Decides (step a) (Good a) (Bad a)) (items : List α) :
    Decides (items.mapM step) (List.Forall₂ Good items) (FirstBad Good Bad items) := by
  induction items with
  | nil =>
    refine .of ?_ ?_ (.inl ⟨[], .nil⟩)
    · rintro _ ⟨⟩
      rfl
    · rintro e ⟨before, a, after, none, -⟩
      simp at none
  | cons a rest ih =>
    refine .of ?_ ?_ ?_
    · rintro _ (_ | ⟨fine, others⟩)
      rw [List.mapM_cons, ((each a).ok _).mpr fine, (ih.ok _).mpr others]
      rfl
    · rintro e ⟨before, bad, after, whole, fine, ill⟩
      rcases before with _ | ⟨first, before⟩
      · cases whole
        rw [List.mapM_cons, ((each a).error e).mpr ill]
        rfl
      · cases whole
        obtain ⟨⟨b, first⟩, others⟩ := List.forall_mem_cons.mp fine
        rw [List.mapM_cons, ((each a).ok b).mpr first,
          (ih.error e).mpr ⟨before, bad, after, rfl, others, ill⟩]
        rfl
    · rcases first : step a with e | b
      · exact .inr ⟨e, [], a, rest, rfl, nofun, ((each a).error e).mp first⟩
      · have fine := ((each a).ok b).mp first
        rcases others : rest.mapM step with e | bs
        · obtain ⟨before, bad, after, whole, good, ill⟩ := (ih.error e).mp others
          exact .inr ⟨e, a :: before, bad, after, by rw [whole]; rfl,
            List.forall_mem_cons.mpr ⟨⟨b, fine⟩, good⟩, ill⟩
        · exact .inl ⟨b :: bs, .cons fine ((ih.ok bs).mp others)⟩

section

variable {α β : Type} {R : α → β → Prop} {as : List α} {bs : List β}

theorem related_mem (related : List.Forall₂ R as bs) : ∀ a ∈ as, ∃ b ∈ bs, R a b := by
  induction related with
  | nil => exact nofun
  | cons first _ ih =>
    refine List.forall_mem_cons.mpr ⟨⟨_, List.mem_cons_self, first⟩, fun a member => ?_⟩
    obtain ⟨b, also, related⟩ := ih a member
    exact ⟨b, List.mem_cons_of_mem _ also, related⟩

theorem exists_related (each : ∀ a ∈ as, ∃ b, R a b) : ∃ bs, List.Forall₂ R as bs := by
  induction as with
  | nil => exact ⟨[], .nil⟩
  | cons a rest ih =>
    obtain ⟨⟨b, first⟩, others⟩ := List.forall_mem_cons.mp each
    obtain ⟨bs, related⟩ := ih others
    exact ⟨b :: bs, .cons first related⟩

end

def decimalValue (digits : List Char) : Nat :=
  Nat.ofDigits 10 (digits.reverse.map fun c => c.toNat - '0'.toNat)

theorem digitsValue_eq (digits : List Char) : digitsValue digits = decimalValue digits := by
  rw [digitsValue, decimalValue, Nat.ofDigits_eq_foldr, List.foldr_map, List.foldr_reverse]
  congr
  funext n c
  simp [Nat.add_comm, Nat.mul_comm]

structure Digits (digits : List Char) : Prop where
  nonempty : digits ≠ []
  all : ∀ c ∈ digits, c.isDigit = true
  within : decimalValue digits < Bound.word

inductive Numeral : List Char → Nat → Prop
  | plain {digits} : Digits digits → Numeral digits (decimalValue digits)
  | signed {digits} : Digits digits → Numeral ('+' :: digits) (decimalValue digits)

theorem digits_iff (digits : List Char) :
    (!digits.isEmpty && digits.all Char.isDigit && decide (digitsValue digits < Bound.word)) = true ↔
      Digits digits := by
  simp only [digitsValue_eq, Bool.and_eq_true, Bool.not_eq_true', List.isEmpty_eq_false_iff,
    List.all_eq_true, decide_eq_true_eq]
  constructor
  · rintro ⟨⟨nonempty, all⟩, within⟩
    exact ⟨nonempty, all, within⟩
  · rintro ⟨nonempty, all, within⟩
    exact ⟨⟨nonempty, all⟩, within⟩

theorem Digits.unsigned {rest : List Char} : ¬Digits ('+' :: rest) := by
  intro digits
  have := digits.all '+' List.mem_cons_self
  contradiction

theorem number?_iff {text : List Char} {n : Nat} :
    number? Bound.word text = some n ↔ Numeral text n := by
  unfold number?
  dsimp only
  split
  · rename_i rest
    rw [Option.ite_none_right_eq_some, digits_iff, digitsValue_eq]
    constructor
    · rintro ⟨digits, ⟨⟩⟩
      exact .signed digits
    · rintro (digits | digits)
      · exact absurd digits Digits.unsigned
      · exact ⟨digits, rfl⟩
  · rename_i unsigned
    rw [Option.ite_none_right_eq_some, digits_iff, digitsValue_eq]
    constructor
    · rintro ⟨digits, ⟨⟩⟩
      exact .plain digits
    · rintro (digits | digits)
      · exact ⟨digits, rfl⟩
      · exact absurd rfl (unsigned _)

inductive Names (count : Nat) (text : List Char) (p : Nat) : Prop
  | page {core} : Trimmed text core → Numeral core p → 0 < p → p ≤ count → Names count text p

/-- What is wrong with a text that names none. -/
inductive Misnames (count : Nat) (text : List Char) : Error → Prop
  | unnumbered {core} : Trimmed text core → (∀ n, ¬Numeral core n) →
    Misnames count text (.invalidNumber (String.ofList core))
  | zero {core} : Trimmed text core → Numeral core 0 → Misnames count text .zero
  | beyond {core p} : Trimmed text core → Numeral core p → count < p →
    Misnames count text (.beyond p count)

section

variable {count : Nat} {text core : List Char}

theorem page_unnumbered (trimmed : Trimmed text core) (unnumbered : ∀ n, ¬Numeral core n) :
    page count text = .error (.invalidNumber (String.ofList core)) := by
  cases read : number? Bound.word core with
  | none => simp only [page, trimmed_iff.mp trimmed, read]
  | some n => exact absurd (number?_iff.mp read) (unnumbered n)

theorem page_numeral {n : Nat} (trimmed : Trimmed text core) (numeral : Numeral core n) :
    page count text =
      if n = 0 then .error .zero else if count < n then .error (.beyond n count) else .ok n := by
  simp only [page, trimmed_iff.mp trimmed, number?_iff.mpr numeral]
  cases n with
  | zero => rfl
  | succ n => rfl

theorem page_decides (count : Nat) (text : List Char) :
    Decides (page count text) (Names count text) (Misnames count text) := by
  have trimmed := trim_trimmed text
  refine .of ?_ ?_ ?_
  · rintro p ⟨trimmed, numeral, positive, within⟩
    rw [page_numeral trimmed numeral, if_neg positive.ne', if_neg within.not_gt]
  · rintro _ (⟨trimmed, unnumbered⟩ | ⟨trimmed, numeral⟩ | ⟨trimmed, numeral, beyond⟩)
    · exact page_unnumbered trimmed unnumbered
    · rw [page_numeral trimmed numeral, if_pos rfl]
    · rw [page_numeral trimmed numeral, if_neg (Nat.ne_zero_of_lt beyond), if_pos beyond]
  · by_cases numbered : ∃ n, Numeral (trim text) n
    · obtain ⟨n, numeral⟩ := numbered
      rcases n.eq_zero_or_pos with rfl | positive
      · exact .inr ⟨_, .zero trimmed numeral⟩
      · rcases Nat.lt_or_ge count n with beyond | within
        · exact .inr ⟨_, .beyond trimmed numeral beyond⟩
        · exact .inl ⟨n, trimmed, numeral, positive, within⟩
    · exact .inr ⟨_, .unnumbered trimmed (not_exists.mp numbered)⟩

end

def Hyphenated (part first last : List Char) : Prop := part = first ++ '-' :: last ∧ '-' ∉ first

inductive Selects (count : Nat) (part : List Char) : Interval → Prop
  | page {p} : '-' ∉ part → Names count part p → Selects count part ⟨p, p⟩
  | pages {first last a b} : Hyphenated part first last → Names count first a → Names count last b →
    a ≤ b → Selects count part ⟨a, b⟩

/-- What is wrong with a part that gives none. Its first page is looked at before its last. -/
inductive Refused (count : Nat) (part : List Char) : Error → Prop
  | page {e} : '-' ∉ part → Misnames count part e → Refused count part e
  | first {first last e} : Hyphenated part first last → Misnames count first e → Refused count part e
  | last {first last a e} : Hyphenated part first last → Names count first a →
    Misnames count last e → Refused count part e
  | descending {first last a b core} : Hyphenated part first last → Names count first a →
    Names count last b → b < a → Trimmed part core →
    Refused count part (.descending (String.ofList core))

section

variable {part first last : List Char}

theorem Hyphenated.hyphen? (split : Hyphenated part first last) :
    hyphen? part = some (first, last) := by
  obtain ⟨rfl, unhyphened⟩ := split
  have other : ∀ c ∈ first, (c != '-') = true := by
    intro c member
    simpa using fun is : c = '-' => unhyphened (is ▸ member)
  simp [PageRange.hyphen?, List.dropWhile_append_of_pos other, List.takeWhile_append_of_pos other]

theorem hyphen?_none : hyphen? part = none ↔ '-' ∉ part := by
  constructor
  · intro alone member
    obtain ⟨first, last, split⟩ := List.eq_append_cons_of_mem member
    rw [Hyphenated.hyphen? split] at alone
    cases alone
  · intro unhyphened
    have other : part.dropWhile (· != '-') = [] := by
      refine List.dropWhile_eq_nil_iff.mpr fun c member => ?_
      simpa using fun is : c = '-' => unhyphened (is ▸ member)
    simp [hyphen?, other]

theorem hyphen?_some : hyphen? part = some (first, last) ↔ Hyphenated part first last := by
  refine ⟨fun split => ?_, Hyphenated.hyphen?⟩
  have member : '-' ∈ part := by
    by_contra unhyphened
    rw [hyphen?_none.mpr unhyphened] at split
    cases split
  obtain ⟨first, last, split'⟩ := List.eq_append_cons_of_mem member
  rw [Hyphenated.hyphen? split'] at split
  cases split
  exact split'

theorem hyphen?_trim (part : List Char) :
    (hyphen? part = none ∧ hyphen? (trim part) = none) ∨
      ∃ first last first' last', hyphen? part = some (first, last) ∧
        hyphen? (trim part) = some (first', last') ∧ trim first' = trim first ∧
        trim last' = trim last := by
  obtain ⟨⟨before, after, whole, blank, blank'⟩, -, -⟩ := trim_trimmed part
  have solid {blanks : List Char} (blank : ∀ c ∈ blanks, isBlank c = true) : '-' ∉ blanks := by
    intro member
    have := blank '-' member
    contradiction
  -- A hyphen is no blank, so the first one of the trimmed part is the first of the whole.
  by_cases member : '-' ∈ trim part
  · obtain ⟨first, last, inner, unhyphened⟩ := List.eq_append_cons_of_mem member
    have outer : Hyphenated part (before ++ first) (last ++ after) := by
      refine ⟨?_, List.not_mem_append (solid blank) unhyphened⟩
      rw [whole, inner]
      simp
    exact .inr ⟨_, _, first, last, outer.hyphen?, Hyphenated.hyphen? ⟨inner, unhyphened⟩,
      (trim_blank_append blank first).symm, (trim_append_blank blank' last).symm⟩
  · refine .inl ⟨hyphen?_none.mpr ?_, hyphen?_none.mpr member⟩
    rw [whole]
    exact List.not_mem_append (solid blank) (List.not_mem_append member (solid blank'))

end

theorem Hyphenated.unique {part first last first' last' : List Char}
    (split : Hyphenated part first last) (split' : Hyphenated part first' last') :
    first = first' ∧ last = last' := by
  have same := split.hyphen?.symm.trans split'.hyphen?
  cases same
  exact ⟨rfl, rfl⟩

theorem Hyphenated.member {part first last : List Char} (split : Hyphenated part first last) :
    '-' ∈ part := by
  obtain ⟨rfl, -⟩ := split
  simp

section

variable {count : Nat} {part first last : List Char}

theorem page_trim {text other : List Char} (same : trim text = trim other) :
    page count text = page count other := by
  simp only [page, same]

theorem single_decides (unhyphened : '-' ∉ part) :
    Decides ((page count part).map fun p => (⟨p, p⟩ : Interval)) (Selects count part)
      (Refused count part) := by
  have whole := page_decides count part
  refine .of ?_ ?_ ?_
  · rintro _ (⟨_, names⟩ | ⟨split, _⟩)
    · rw [(whole.ok _).mpr names]
      rfl
    · exact absurd split.member unhyphened
  · rintro e (⟨_, misnames⟩ | ⟨split, _⟩ | ⟨split, _⟩ | ⟨split, _⟩)
    · rw [(whole.error e).mpr misnames]
      rfl
    all_goals exact absurd split.member unhyphened
  · rcases read : page count part with e | p
    · exact .inr ⟨e, .page unhyphened ((whole.error e).mp read)⟩
    · exact .inl ⟨_, .page unhyphened ((whole.ok p).mp read)⟩

def between (count : Nat) (part first last : List Char) : Except Error Interval := do
  let a ← page count first
  let b ← page count last
  if b < a then .error (.descending (String.ofList part)) else .ok ⟨a, b⟩

theorem between_decides (split : Hyphenated part first last) :
    Decides (between count (trim part) first last) (Selects count part) (Refused count part) := by
  have one := page_decides count first
  have other := page_decides count last
  refine .of ?_ ?_ ?_
  · rintro _ (⟨unhyphened, _⟩ | ⟨split', names, names', ascending⟩)
    · exact absurd split.member unhyphened
    · obtain ⟨rfl, rfl⟩ := split.unique split'
      simp [between, (one.ok _).mpr names, (other.ok _).mpr names', ascending.not_gt, bind, Except.bind]
  · rintro e (⟨unhyphened, _⟩ | ⟨split', misnames⟩ | ⟨split', names, misnames⟩ |
      ⟨split', names, names', descending, trimmed⟩)
    · exact absurd split.member unhyphened
    · obtain ⟨rfl, rfl⟩ := split.unique split'
      simp [between, (one.error _).mpr misnames, bind, Except.bind]
    · obtain ⟨rfl, rfl⟩ := split.unique split'
      simp [between, (one.ok _).mpr names, (other.error _).mpr misnames, bind, Except.bind]
    · obtain ⟨rfl, rfl⟩ := split.unique split'
      simp [between, (one.ok _).mpr names, (other.ok _).mpr names', descending, bind, Except.bind,
        trimmed_iff.mp trimmed]
  · rcases read : page count first with e | a
    · exact .inr ⟨e, .first split ((one.error e).mp read)⟩
    · have names := (one.ok a).mp read
      rcases read' : page count last with e | b
      · exact .inr ⟨e, .last split names ((other.error e).mp read')⟩
      · have names' := (other.ok b).mp read'
        rcases Nat.lt_or_ge b a with descending | ascending
        · exact .inr ⟨_, .descending split names names' descending (trim_trimmed part)⟩
        · exact .inl ⟨_, .pages split names names' ascending⟩

theorem interval_decides (count : Nat) (part : List Char) :
    Decides (interval count (trim part)) (Selects count part) (Refused count part) := by
  rcases hyphen?_trim part with ⟨alone, alone'⟩ | ⟨first, last, first', last', split, split', same, same'⟩
  · have is : interval count (trim part) = (page count part).map fun p => ⟨p, p⟩ := by
      simp only [interval, alone', page_trim (trim_trim part)]
    exact is ▸ single_decides (hyphen?_none.mp alone)
  · have is : interval count (trim part) = between count (trim part) first last := by
      simp only [interval, split', page_trim same, page_trim same', between]
    exact is ▸ between_decides (hyphen?_some.mp split)

end

theorem mem_dropRepeats (pages : List Nat) (p : Nat) : p ∈ dropRepeats pages ↔ p ∈ pages := by
  fun_induction dropRepeats pages with
  | case1 a rest ih => simp [ih]
  | case2 a b rest other ih => simp [ih]
  | case3 => rfl

theorem dropRepeats_ascending {pages : List Nat} (sorted : pages.Pairwise (· ≤ ·)) :
    (dropRepeats pages).Pairwise (· < ·) := by
  fun_induction dropRepeats pages with
  | case1 a rest ih => exact ih sorted.of_cons
  | case2 a b rest other ih =>
    obtain ⟨least, sorted⟩ := List.pairwise_cons.mp sorted
    have next := lt_of_le_of_ne (least b List.mem_cons_self) other
    refine List.pairwise_cons.mpr ⟨fun p member => ?_, ih sorted⟩
    rcases List.mem_cons.mp ((mem_dropRepeats _ p).mp member) with rfl | member
    · exact next
    · exact next.trans_le (List.rel_of_pairwise_cons sorted member)
  | case3 short short' =>
    match short with
    | [] => exact .nil
    | [a] => exact List.pairwise_singleton _ a
    | a :: b :: rest => exact absurd rfl (short' a b rest)

theorem mem_pages (i : Interval) (p : Nat) : p ∈ i.pages ↔ i.first ≤ p ∧ p ≤ i.last := by
  simp only [Interval.pages, List.mem_range'_1]
  omega

theorem splitAt_eq (separator : Char) (text : List Char) :
    splitAt separator text = text.splitOn separator := by
  induction text with
  | nil => rfl
  | cons c rest ih =>
    have step : (c :: rest).splitOn separator = if c == separator then [] :: rest.splitOn separator
        else (rest.splitOn separator).modifyHead (List.cons c) :=
      List.splitOnP_cons_eq_if_modifyHead c rest
    have nonempty : rest.splitOn separator ≠ [] := List.splitOnP_ne_nil _ rest
    rw [splitAt, ih, step]
    cases split : rest.splitOn separator with
    | nil => exact absurd split nonempty
    | cons piece pieces => simp

def written (input : String) : List (List Char) :=
  (input.toList.splitOn ',').filter fun part => !part.all isBlank

theorem parts_eq (input : String) : parts input = (written input).map trim := by
  have blank (part : List Char) : (trim part).isEmpty = part.all isBlank := by
    rw [Bool.eq_iff_iff, List.isEmpty_iff, trim_eq_nil, List.all_eq_true]
  rw [parts, written, splitAt_eq, List.filter_map]
  simp only [Function.comp_def, blank]

def gathered (intervals : List Interval) : List Nat :=
  dropRepeats ((intervals.flatMap Interval.pages).mergeSort (· ≤ ·))

theorem gathered_ascending (intervals : List Interval) : (gathered intervals).Pairwise (· < ·) := by
  refine dropRepeats_ascending ?_
  have sorted : ((intervals.flatMap Interval.pages).mergeSort (· ≤ ·)).Pairwise
      fun a b => decide (a ≤ b) = true :=
    List.pairwise_mergeSort (fun a b c => by simpa using Nat.le_trans)
      (fun a b => by simpa using Nat.le_total a b) (intervals.flatMap Interval.pages)
  simpa only [decide_eq_true_eq] using sorted

theorem mem_gathered (intervals : List Interval) (p : Nat) :
    p ∈ gathered intervals ↔ ∃ i ∈ intervals, i.first ≤ p ∧ p ≤ i.last := by
  simp only [gathered, mem_dropRepeats, List.mem_mergeSort, List.mem_flatMap, mem_pages]

section

variable {count : Nat} {part : List Char} {i : Interval} {intervals : List Interval} {input : String}

theorem selects_ordered (selects : Selects count part i) : i.first ≤ i.last := by
  cases selects with
  | page => exact Nat.le_refl _
  | pages _ _ _ ordered => exact ordered

def listed (input : String) (intervals : List Interval) : Except Error (List Nat) :=
  match intervals.flatMap Interval.pages with
  | [] => .error (.nothing input)
  | pages => .ok (dropRepeats (pages.mergeSort (· ≤ ·)))

theorem select_eq (input : String) (count : Nat) :
    select input count =
      ((written input).mapM fun part => interval count (trim part)).bind (listed input) := by
  have trimmed (parts : List (List Char)) : (parts.map trim).mapM (interval count) =
      parts.mapM fun part => interval count (trim part) := by
    induction parts with
    | nil => rfl
    | cons part rest ih => rw [List.map_cons, List.mapM_cons, List.mapM_cons, ih]
  rw [← trimmed, ← parts_eq]
  rfl

theorem listed_ordered (ordered : ∀ i ∈ intervals, i.first ≤ i.last) (nonempty : intervals ≠ []) :
    listed input intervals = .ok (gathered intervals) := by
  obtain ⟨i, member⟩ := List.exists_mem_of_ne_nil intervals nonempty
  have page : i.first ∈ intervals.flatMap Interval.pages :=
    List.mem_flatMap.mpr ⟨i, member, (mem_pages i _).mpr ⟨Nat.le_refl _, ordered i member⟩⟩
  unfold listed
  split
  · rename_i none
    rw [none] at page
    cases page
  · rfl

theorem selects_unique {j : Interval} (selects : Selects count part i) (also : Selects count part j) :
    i = j := by
  have whole := interval_decides count part
  cases ((whole.ok i).mpr selects).symm.trans ((whole.ok j).mpr also)
  rfl

def Selected (input : String) (count : Nat) (pages : List Nat) : Prop :=
  written input ≠ [] ∧
    ∃ intervals, List.Forall₂ (Selects count) (written input) intervals ∧ pages = gathered intervals

theorem select_decides (input : String) (count : Nat) :
    Decides (select input count) (Selected input count) fun e =>
      FirstBad (Selects count) (Refused count) (written input) e ∨
        written input = [] ∧ e = .nothing input := by
  have all := mapM_decides (interval_decides count) (written input)
  rw [select_eq]
  refine .of ?_ ?_ ?_
  · rintro _ ⟨nonempty, intervals, selects, rfl⟩
    have ordered : ∀ i ∈ intervals, i.first ≤ i.last := by
      intro i member
      obtain ⟨part, _, selects⟩ := related_mem selects.flip i member
      exact selects_ordered selects
    have some : intervals ≠ [] := by
      rintro rfl
      exact nonempty (List.forall₂_nil_right_iff.mp selects)
    rw [(all.ok intervals).mpr selects]
    exact listed_ordered ordered some
  · rintro e (bad | ⟨none, rfl⟩)
    · rw [(all.error e).mpr bad]
      rfl
    · rw [none]
      rfl
  · by_cases none : written input = []
    · exact .inr ⟨_, .inr ⟨none, rfl⟩⟩
    · rcases read : (written input).mapM fun part => interval count (trim part) with e | intervals
      · exact .inr ⟨e, .inl ((all.error e).mp read)⟩
      · exact .inl ⟨_, none, intervals, (all.ok intervals).mp read, rfl⟩

theorem selected_iff {pages : List Nat} :
    Selected input count pages ↔
      written input ≠ [] ∧ (∀ part ∈ written input, ∃ i, Selects count part i) ∧
        pages.Pairwise (· < ·) ∧
        ∀ p, p ∈ pages ↔
          ∃ part ∈ written input, ∃ i, Selects count part i ∧ i.first ≤ p ∧ p ≤ i.last := by
  have gathers {intervals : List Interval} (p : Nat)
      (selects : List.Forall₂ (Selects count) (written input) intervals) : p ∈ gathered intervals ↔
        ∃ part ∈ written input, ∃ i, Selects count part i ∧ i.first ≤ p ∧ p ≤ i.last := by
    rw [mem_gathered]
    constructor
    · rintro ⟨i, member, within⟩
      obtain ⟨part, member, selects⟩ := related_mem selects.flip i member
      exact ⟨part, member, i, selects, within⟩
    · rintro ⟨part, member, i, chosen, within⟩
      obtain ⟨j, member, also⟩ := related_mem selects part member
      exact ⟨i, selects_unique chosen also ▸ member, within⟩
  constructor
  · rintro ⟨nonempty, intervals, selects, rfl⟩
    refine ⟨nonempty, fun part member => ?_, gathered_ascending intervals, fun p => gathers p selects⟩
    obtain ⟨i, _, selects⟩ := related_mem selects part member
    exact ⟨i, selects⟩
  · rintro ⟨nonempty, each, ascending, members⟩
    obtain ⟨intervals, selects⟩ := exists_related each
    refine ⟨nonempty, intervals, selects, ?_⟩
    refine ascending.eq_of_mem_iff (gathered_ascending intervals) fun p => ?_
    rw [members, gathers p selects]

end

/-- A selection is read just if it has a part that is not blank and every such part gives pages, from
one to another that is not before it; what is read are the pages of all parts in ascending order, none
of them twice. Otherwise the error is that of the first part that gives none, and if there is no part,
that nothing is selected. -/
theorem select_iff (input : String) (count : Nat) :
    (∀ pages, select input count = .ok pages ↔
      written input ≠ [] ∧ (∀ part ∈ written input, ∃ i, Selects count part i) ∧
        pages.Pairwise (· < ·) ∧
        ∀ p, p ∈ pages ↔
          ∃ part ∈ written input, ∃ i, Selects count part i ∧ i.first ≤ p ∧ p ≤ i.last) ∧
    (∀ e, select input count = .error e ↔
      FirstBad (Selects count) (Refused count) (written input) e ∨
        written input = [] ∧ e = .nothing input) :=
  ⟨fun pages => ((select_decides input count).ok pages).trans selected_iff,
    (select_decides input count).error⟩

example : select " 3 , 1 - 3 ,1" 5 = .ok [1, 2, 3] := by cbv

example : select "2,4-x-,9" 5 = .error (.invalidNumber "x-") := by cbv

end PageMarks.PageRange
