import PageMarks.Proofs.Font.Ranges
import PageMarks.Proofs.Resource.WidthGroups
import PageMarks.Resource.Scope

/-!
Widths of composite fonts, from the array in a document to the shown glyph. Where the groups of the
array have no code in common, every code has the width of the group that it is in, whatever the
order of the groups, and the default where it is in none.
-/

namespace PageMarks

variable {K : Type}

namespace WidthGroup

def width? (code : Nat) : WidthGroup K → Option K
  | row first widths => if first ≤ code then widths[code - first]?.join else none
  | span first last width => if first ≤ code ∧ code ≤ last then some width else none

def Proper : WidthGroup K → Prop
  | row first widths => first < Bound.word ∧ first + widths.length ≤ Bound.word
  | span first last _ => first ≤ last ∧ last < Bound.word

/-- No code has a width in both. -/
def Apart (a b : WidthGroup K) : Prop := ∀ code, a.width? code = none ∨ b.width? code = none

theorem Apart.symm {a b : WidthGroup K} (apart : a.Apart b) : b.Apart a :=
  fun code => (apart code).symm

def stop : WidthGroup K → Nat
  | row first widths => first + widths.length
  | span _ last _ => last + 1

variable {group : WidthGroup K} {range other : WidthRange K} {code : Nat} {w : K}

theorem width_early (early : code < group.first) : group.width? code = none := by
  cases group with
  | row first widths => exact if_neg (Nat.not_le.mpr early)
  | span first last width => exact if_neg fun inside => Nat.not_le.mpr early inside.1

theorem width_late (late : group.stop ≤ code) : group.width? code = none := by
  cases group with
  | row first widths =>
    have outside : widths[code - first]? = none :=
      List.getElem?_eq_none (Nat.le_sub_of_add_le' late)
    rw [width?, outside, Option.join_none, ite_self]
  | span first last width => exact if_neg fun inside => Nat.not_le.mpr late inside.2

theorem apart_of_stop {a b : WidthGroup K} (behind : a.stop ≤ b.first) : a.Apart b := by
  intro code
  rcases Nat.lt_or_ge code b.first with early | late
  · exact .inr (width_early early)
  · exact .inl (width_late (Nat.le_trans behind late))

theorem mem_ranges_row {first : Nat} {widths : List (Option K)} :
    range ∈ (row first widths).ranges ↔
      ∃ code w, first ≤ code ∧ widths[code - first]? = some (some w) ∧ ⟨code, code, w⟩ = range := by
  simp only [ranges, List.mem_filterMap, Prod.exists, List.mk_mem_zipIdx_iff_le_and_getElem?_sub,
    Option.map_eq_some_iff]
  constructor
  · rintro ⟨_, code, ⟨behind, found⟩, w, rfl, same⟩
    exact ⟨code, w, behind, found, same⟩
  · rintro ⟨code, w, behind, found, same⟩
    exact ⟨some w, code, ⟨behind, found⟩, w, rfl, same⟩

theorem mem_ranges_span {first last : Nat} :
    range ∈ (span first last w).ranges ↔ range = ⟨first, last, w⟩ := List.mem_singleton

theorem width_iff :
    group.width? code = some w ↔ ∃ range ∈ group.ranges, range.Covers code ∧ range.width = w := by
  cases group with
  | row first widths =>
    simp only [width?, mem_ranges_row, Option.ite_none_right_eq_some, Option.join_eq_some_iff]
    constructor
    · rintro ⟨behind, found⟩
      exact ⟨⟨code, code, w⟩, ⟨code, w, behind, found, rfl⟩, ⟨Nat.le_refl _, Nat.le_refl _⟩, rfl⟩
    · rintro ⟨_, ⟨start, w, behind, found, rfl⟩, ⟨above, below⟩, rfl⟩
      obtain rfl : start = code := Nat.le_antisymm above below
      exact ⟨behind, found⟩
  | span first last width =>
    simp only [width?, mem_ranges_span, exists_eq_left, WidthRange.Covers,
      Option.ite_none_right_eq_some, Option.some.injEq]

theorem proper_ranges (proper : group.Proper) :
    ∀ range ∈ group.ranges, range.first ≤ range.last := by
  intro range member
  cases group with
  | row first widths =>
    obtain ⟨code, w, -, -, rfl⟩ := mem_ranges_row.mp member
    exact Nat.le_refl code
  | span first last width =>
    obtain rfl := mem_ranges_span.mp member
    exact proper.1

theorem ranges_apart (member : range ∈ group.ranges) (again : other ∈ group.ranges)
    (covers : range.Covers code) (overlaps : other.Covers code) : range = other := by
  cases group with
  | row first widths =>
    obtain ⟨start, w, -, found, rfl⟩ := mem_ranges_row.mp member
    obtain ⟨start', w', -, found', rfl⟩ := mem_ranges_row.mp again
    obtain rfl : start = start' :=
      (Nat.le_antisymm covers.1 covers.2).trans (Nat.le_antisymm overlaps.2 overlaps.1)
    rw [found] at found'
    cases found'
    rfl
  | span first last width => rw [mem_ranges_span.mp member, mem_ranges_span.mp again]

theorem not_overflows (proper : group.Proper) : ¬group.Overflows := by
  rintro @⟨first, widths, i, width, found, large⟩
  obtain ⟨inside, -⟩ := List.getElem?_eq_some_iff.mp found
  have := proper.2
  omega

variable {groups : List (WidthGroup K)}

theorem flatMap_proper (proper : ∀ group ∈ groups, group.Proper) :
    ∀ range ∈ groups.flatMap ranges, range.first ≤ range.last := by
  intro range inside
  obtain ⟨group, given, member⟩ := List.mem_flatMap.mp inside
  exact proper_ranges (proper group given) range member

theorem flatMap_apart (apart : groups.Pairwise Apart) :
    ∀ r ∈ groups.flatMap ranges, ∀ s ∈ groups.flatMap ranges, ∀ code,
      r.Covers code → s.Covers code → r = s := by
  intro r inside s within code covers overlaps
  obtain ⟨a, given, inside⟩ := List.mem_flatMap.mp inside
  obtain ⟨b, other, within⟩ := List.mem_flatMap.mp within
  -- Being apart says nothing of a group and itself, whose ranges are apart by how they are made.
  by_cases same : a = b
  · subst same
    exact ranges_apart inside within covers overlaps
  · have symmetric : Std.Symm (Apart (K := K)) := ⟨fun _ _ => Apart.symm⟩
    have first := width_iff.mpr ⟨r, inside, covers, rfl⟩
    have second := width_iff.mpr ⟨s, within, overlaps, rfl⟩
    rcases apart.forall given other same code with none | none
    · rw [none] at first
      cases first
    · rw [none] at second
      cases second

end WidthGroup

namespace Font

variable {groups : List (WidthGroup K)} (name : String) (default : K) {code : Nat}

theorem width_group (proper : ∀ group ∈ groups, group.Proper)
    (apart : groups.Pairwise WidthGroup.Apart) {group : WidthGroup K} (given : group ∈ groups)
    {w : K} (gives : group.width? code = some w) :
    (ofRanges name default (groups.flatMap WidthGroup.ranges)).width code = w := by
  obtain ⟨range, member, covers, rfl⟩ := WidthGroup.width_iff.mp gives
  exact width_covered name default (WidthGroup.flatMap_proper proper)
    (WidthGroup.flatMap_apart apart) (List.mem_flatMap.mpr ⟨group, given, member⟩) covers

theorem width_no_group (without : ∀ group ∈ groups, group.width? code = none) :
    (ofRanges name default (groups.flatMap WidthGroup.ranges)).width code = default := by
  refine width_uncovered name default fun range inside covers => ?_
  obtain ⟨group, given, member⟩ := List.mem_flatMap.mp inside
  have gives := WidthGroup.width_iff.mpr ⟨range, member, covers, rfl⟩
  rw [without group given] at gives
  cases gives

def pairAt (bytes : Bytes) (i : Nat) : Nat :=
  (bytes.getD (2 * i) 0).toNat * 256 + (bytes.getD (2 * i + 1) 0).toNat

theorem pairCodes_eq (bytes : Bytes) :
    pairCodes bytes = (List.range ((bytes.length + 1) / 2)).map (pairAt bytes) := by
  induction bytes using pairCodes.induct with
  | case1 => rfl
  | case2 high => simp [pairCodes, pairAt]
  | case3 high low rest ih =>
    have count : ((high :: low :: rest).length + 1) / 2 = (rest.length + 1) / 2 + 1 := by
      simp only [List.length_cons]
      omega
    rw [pairCodes, ih, count, List.range_succ_eq_map, List.map_cons, List.map_map]
    rfl

end Font

namespace Resource

open WidthGroup (row span)

variable [Scalar K] {doc : Document}

/-- How an array writes a group. The values in it may also be references. -/
inductive Written (doc : Document) : WidthGroup K → List Object → Prop
  | row {value next first items} : doc.resolve value = .ok (.integer (first : Nat)) →
    doc.resolve next = .ok (.array items) →
    Written doc (row first (items.map (numberAt? doc))) [value, next]
  | span {value next wide first last width} : doc.resolve value = .ok (.integer (first : Nat)) →
    doc.resolve next = .ok (.integer (last : Nat)) → numberAt? doc wide = some width →
    Written doc (span first last width) [value, next, wide]

theorem Written.grouped {group : WidthGroup K} {part : List Object}
    (written : Written doc group part) (proper : group.Proper) {items : List Object}
    {groups : List (WidthGroup K)} (others : Grouped doc items groups) :
    Grouped doc (part ++ items) (group :: groups) := by
  cases written with
  | row begins listed =>
    refine .row (codeAt?_integer proper.1 begins) ?_ others
    rw [arrayAt?, Document.resolve?, listed]
    rfl
  | span begins ends widens =>
    have first := codeAt?_integer (Nat.lt_of_le_of_lt proper.1 proper.2) begins
    refine .span first ?_ (codeAt?_integer proper.2 ends) widens others
    rw [arrayAt?, Document.resolve?, ends]
    rfl

theorem grouped_flatten {groups : List (WidthGroup K)} {parts : List (List Object)}
    (written : List.Forall₂ (Written doc) groups parts) (proper : ∀ group ∈ groups, group.Proper) :
    Grouped doc parts.flatten groups := by
  induction written with
  | nil => exact .nil
  | cons first _ ih =>
    obtain ⟨own, others⟩ := List.forall_mem_cons.mp proper
    exact first.grouped own (ih others)

/-- A font of two-byte codes under a name, with the entries of the font that it takes its widths
from and the array that those are in. -/
structure Composite (s : Scope) (name : String) where
  entries : Dictionary
  inner : Dictionary
  widths : List Object
  found : s.find? "Font" name = .ok (some (.dictionary entries))
  twoByte : entries.name? "Subtype" = some "Type0"
  descends : ∃ first others,
    followed? s.document entries "DescendantFonts" = .ok (some (.array (first :: others))) ∧
      s.document.resolve first = .ok (.dictionary inner)
  listed : followed? s.document inner "W" = .ok (some (.array widths))

namespace Composite

variable {s : Scope} {name : String} (f : Composite s name)

def baseName : String := (f.entries.name? "BaseFont").getD name

def default : K := (f.inner.number? "DW").getD (Scalar.ofInt 1000)

theorem font_eq {ranges : List (WidthRange K)}
    (read : widthRanges s.document f.widths = some ranges) :
    s.font name = .ok (some (.ofRanges f.baseName f.default ranges)) := by
  obtain ⟨first, others, listed, resolved⟩ := f.descends
  have inner : descendant s.document f.entries = .ok (some f.inner) := by
    simp only [descendant, listed, bind, Except.bind, resolved]
    rfl
  have composite : compositeFont s.document f.baseName f.entries =
      .ok (some (.ofRanges f.baseName f.default ranges)) := by
    simp only [compositeFont, inner, bind, Except.bind, f.listed, read]
    rfl
  rw [Scope.font, Scope.lookup, f.found]
  change (font s.document name f.entries).map some = _
  simp only [font, if_pos f.twoByte]
  rw [show (f.entries.name? "BaseFont").getD name = f.baseName from rfl, composite]
  rfl

end Composite

/-- Where the groups of an array of widths, in whatever order, are proper and have no code in
common, the font has for each code the width of the group that gives it one, and the default for a
code that none gives one. Shown bytes become one glyph for every two, most significant byte first
and a last odd byte followed by zero, each with the width of its code. -/
theorem composite_widths {s : Scope} {name : String} (f : Composite s name)
    {groups : List (WidthGroup K)} {parts : List (List Object)} (array : f.widths = parts.flatten)
    (written : List.Forall₂ (Written s.document) groups parts)
    (proper : ∀ group ∈ groups, group.Proper) (apart : groups.Pairwise WidthGroup.Apart) :
    ∃ font : Font K, s.font name = .ok (some font) ∧
      (∀ code, ∀ group ∈ groups, ∀ w, group.width? code = some w → font.width code = w) ∧
      (∀ code, (∀ group ∈ groups, group.width? code = none) → font.width code = f.default) ∧
      ∀ bytes, font.glyphs bytes = (List.range ((bytes.length + 1) / 2)).map fun i =>
        ⟨Font.pairAt bytes i, font.width (Font.pairAt bytes i)⟩ := by
  have read := (grouped_flatten written proper).read.1
    fun group given => WidthGroup.not_overflows (proper group given)
  rw [← array] at read
  refine ⟨_, f.font_eq read, fun code group given w => Font.width_group _ _ proper apart given,
    fun code => Font.width_no_group _ _, fun bytes => ?_⟩
  change (Font.pairCodes bytes).map _ = _
  rw [Font.pairCodes_eq, List.map_map]
  rfl

def unorderedParts : List (List Object) :=
  [[.integer 65535, .integer 65535, .integer 250],
    [.integer 3, .array [.integer 500, .integer 600]], [.integer 0, .integer 2, .integer 450]]

def unorderedScope : Scope where
  document :=
    ⟨[(⟨1, 0⟩, .dictionary [(Text.Utf8.encode "W", .array unorderedParts.flatten)])], []⟩
  entries := [(Text.Utf8.encode "Font", .dictionary [(Text.Utf8.encode "F", .dictionary [
    (Text.Utf8.encode "Subtype", .name (Text.Utf8.encode "Type0")),
    (Text.Utf8.encode "DescendantFonts", .array [.reference ⟨1, 0⟩])])])]

def unorderedFont : Composite unorderedScope "F" where
  entries := [(Text.Utf8.encode "Subtype", .name (Text.Utf8.encode "Type0")),
    (Text.Utf8.encode "DescendantFonts", .array [.reference ⟨1, 0⟩])]
  inner := [(Text.Utf8.encode "W", .array unorderedParts.flatten)]
  widths := unorderedParts.flatten
  found := rfl
  twoByte := rfl
  descends := ⟨_, _, rfl, rfl⟩
  listed := rfl

def unorderedGroups : List (WidthGroup Float) :=
  [.span 65535 65535 (Scalar.ofInt 250),
    .row 3 ([.integer 500, .integer 600].map (numberAt? unorderedScope.document)),
    .span 0 2 (Scalar.ofInt 450)]

theorem unordered_written :
    List.Forall₂ (Written unorderedScope.document) unorderedGroups unorderedParts :=
  .cons (.span rfl rfl rfl) (.cons (.row rfl rfl) (.cons (.span rfl rfl rfl) .nil))

theorem unordered_proper : ∀ group ∈ unorderedGroups, group.Proper := by
  simp [unorderedGroups, WidthGroup.Proper, Bound.word]

theorem unordered_apart : unorderedGroups.Pairwise WidthGroup.Apart := by
  have last_row : WidthGroup.Apart unorderedGroups[0] unorderedGroups[1] :=
    .symm (WidthGroup.apart_of_stop (by decide))
  have last_span : WidthGroup.Apart unorderedGroups[0] unorderedGroups[2] :=
    .symm (WidthGroup.apart_of_stop (by decide))
  have row_span : WidthGroup.Apart unorderedGroups[1] unorderedGroups[2] :=
    .symm (WidthGroup.apart_of_stop (by decide))
  refine List.pairwise_cons.mpr ⟨?_, List.pairwise_pair.mpr row_span⟩
  simpa using ⟨last_row, last_span⟩

theorem composite_widths_unordered : ∃ font : Font Float,
    unorderedScope.font "F" = .ok (some font) ∧ font.width 65535 = Scalar.ofInt 250 ∧
      font.width 4 = Scalar.ofInt 600 ∧ font.width 5 = Scalar.ofInt 1000 ∧
      font.glyphs [0, 4, 1] = [⟨4, font.width 4⟩, ⟨256, font.width 256⟩] := by
  obtain ⟨font, found, given, missing, shown⟩ :=
    composite_widths unorderedFont rfl unordered_written unordered_proper unordered_apart
  refine ⟨font, found, ?_, ?_, ?_, shown _⟩
  · exact given _ _ List.mem_cons_self _ rfl
  · exact given _ _ (List.mem_cons_of_mem _ List.mem_cons_self) _ rfl
  · exact missing _ (by simp [unorderedGroups, WidthGroup.width?])

end Resource
end PageMarks
