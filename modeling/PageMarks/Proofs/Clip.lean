import Mathlib.Data.List.Induction
import PageMarks.Clip
import PageMarks.Proofs.Geometry.Ordered

/-!
Clip regions over ordered coordinates. A region that is cut path by path, and dropped as soon as its
box is, comes to the common part of all the boxes. The main statement is that it is empty when a path
has no elements or the boxes have no point in common, that it otherwise lists the paths with the box
that they share, and that cutting only takes away.
-/

namespace PageMarks.ClipRegion

variable {K : Type} [Scalar K]

def cut (paths : List (ClipPath K)) : ClipRegion K :=
  paths.foldl (fun region c => region.intersect c.path c.rule) unbounded

theorem cut_concat (paths : List (ClipPath K)) (c : ClipPath K) :
    cut (paths ++ [c]) = (cut paths).intersect c.path c.rule :=
  List.foldl_append

omit [Scalar K] in
theorem eq_empty {region : ClipRegion K} (gone : region.isEmpty = true) : region = empty := by
  cases region with
  | empty => rfl
  | unbounded | paths => cases gone

theorem intersect_empty (path : Path K) (rule : FillRule) : intersect path rule empty = empty := by
  unfold intersect
  split <;> rfl

variable [LinearOrder K]

/-- A point in the boxes of all paths. -/
def Shared (paths : List (ClipPath K)) (p : Point K) : Prop := ∀ c ∈ paths, c.path.extent.Holds p

def Admits : ClipRegion K → Point K → Prop
  | unbounded, _ => True
  | empty, _ => False
  | paths _ bounds, p => bounds.Holds p

theorem shared_concat (paths : List (ClipPath K)) (c : ClipPath K) (p : Point K) :
    Shared (paths ++ [c]) p ↔ Shared paths p ∧ c.path.extent.Holds p := by
  simp only [Shared, List.mem_append, List.mem_singleton, or_imp, forall_and, forall_eq]

theorem shared_perm {paths other : List (ClipPath K)} (same : other.Perm paths) (p : Point K) :
    Shared other p ↔ Shared paths p := by
  simp only [Shared, same.mem_iff]

/-- What a region is that has been cut to some paths. -/
inductive CutTo (given : List (ClipPath K)) : ClipRegion K → Prop
  | unbounded : given = [] → CutTo given unbounded
  | empty : (∃ c ∈ given, c.path = []) ∨ (¬ ∃ p, Shared given p) → CutTo given empty
  | paths {bounds} : given ≠ [] → (∀ c ∈ given, c.path ≠ []) → bounds.Proper →
    (∀ p, bounds.Holds p ↔ Shared given p) → CutTo given (paths given bounds)

namespace CutTo

variable {given other : List (ClipPath K)} {region another : ClipRegion K}

theorem isEmpty_iff (cutTo : CutTo given region) :
    region.isEmpty = true ↔ (∃ c ∈ given, c.path = []) ∨ ¬ ∃ p, Shared given p := by
  cases cutTo with
  | unbounded nothing =>
    subst nothing
    have anywhere : ∃ p : Point K, Shared [] p := ⟨⟨Scalar.zero, Scalar.zero⟩, nofun⟩
    simp [isEmpty, anywhere]
  | empty gone => simp only [isEmpty, gone]
  | paths _ drawn proper held =>
    have inside : ∃ p, Shared given p := ⟨_, (held _).mp proper.holds_first⟩
    simpa [isEmpty, inside] using drawn

theorem bounds_held (cutTo : CutTo given region) {bounds : Rect K}
    (bounded : region.bounds? = some bounds) {p : Point K} (shared : Shared given p) :
    bounds.Holds p := by
  cases cutTo with
  | unbounded => cases bounded
  | empty gone =>
    cases bounded
    -- Only a path without elements is left as a reason, and its box is the zero box.
    rcases gone with ⟨c, member, bare⟩ | apart
    · have held := shared c member
      rw [bare] at held
      exact held
    · exact absurd ⟨p, shared⟩ apart
  | paths _ _ _ held =>
    cases bounded
    exact (held p).mpr shared

theorem listed (cutTo : CutTo given region) (left : region.isEmpty = false) :
    region.toList = given := by
  cases cutTo with
  | unbounded nothing => exact nothing.symm
  | empty => cases left
  | paths => rfl

theorem bounds_listed (cutTo : CutTo given region) (left : region.isEmpty = false)
    (some : given ≠ []) :
    ∃ bounds, region.bounds? = .some bounds ∧ bounds.Proper ∧
      ∀ p, bounds.Holds p ↔ Shared given p := by
  cases cutTo with
  | unbounded nothing => exact absurd nothing some
  | empty => cases left
  | paths _ _ proper held => exact ⟨_, rfl, proper, held⟩

theorem admits_iff (cutTo : CutTo given region) (p : Point K) :
    region.Admits p ↔ (∀ c ∈ given, c.path ≠ []) ∧ Shared given p := by
  cases cutTo with
  | unbounded nothing =>
    subst nothing
    exact iff_of_true trivial ⟨nofun, nofun⟩
  | empty gone =>
    refine iff_of_false id ?_
    rintro ⟨drawn, shared⟩
    rcases gone with ⟨c, member, bare⟩ | apart
    · exact drawn c member bare
    · exact apart ⟨p, shared⟩
  | paths _ drawn _ held => exact (held p).trans (and_iff_right drawn).symm

theorem perm (cutTo : CutTo given region) (cutOther : CutTo other another)
    (same : other.Perm given) :
    another.isEmpty = region.isEmpty ∧ another.bounds? = region.bounds? := by
  have empty : another.isEmpty = region.isEmpty := by
    rw [Bool.eq_iff_iff, cutTo.isEmpty_iff, cutOther.isEmpty_iff]
    simp only [same.mem_iff, shared_perm same]
  refine ⟨empty, ?_⟩
  cases left : region.isEmpty with
  | true => rw [eq_empty left, eq_empty (empty.trans left)]
  | false =>
    by_cases nothing : given = []
    · subst nothing
      cases same.eq_nil
      cases cutTo <;> cases cutOther <;> simp_all [isEmpty]
    · have more : other ≠ [] := fun gone => nothing (gone ▸ same).nil_eq.symm
      obtain ⟨bounds, is, proper, held⟩ := cutTo.bounds_listed left nothing
      obtain ⟨bounds', is', proper', held'⟩ := cutOther.bounds_listed (empty.trans left) more
      rw [is, is', proper'.eq_of_holds proper fun p => by rw [held, held', shared_perm same]]

end CutTo

variable [Scalar.Ordered K]

theorem CutTo.intersect {given : List (ClipPath K)} {region : ClipRegion K}
    (cutTo : CutTo given region) (c : ClipPath K) :
    CutTo (given ++ [c]) (region.intersect c.path c.rule) := by
  unfold ClipRegion.intersect
  by_cases none : c.path = []
  · rw [if_pos (List.isEmpty_iff.mpr none)]
    exact .empty (.inl ⟨c, by simp, none⟩)
  rw [if_neg (mt List.isEmpty_iff.mp none)]
  have all (drawn : ∀ d ∈ given, d.path ≠ []) : ∀ d ∈ given ++ [c], d.path ≠ [] := by
    simpa only [List.mem_append, List.mem_singleton, or_imp, forall_and, forall_eq] using
      And.intro drawn none
  have more : given ++ [c] ≠ [] := List.concat_ne_nil _ _
  cases cutTo with
  | unbounded nothing =>
    subst nothing
    refine .paths more (all nofun) c.path.extent_proper fun p => ?_
    rw [shared_concat]
    exact (and_iff_right (by simp [Shared])).symm
  | empty gone =>
    refine .empty (gone.imp ?_ ?_)
    · rintro ⟨d, member, bare⟩
      exact ⟨d, List.mem_append_left _ member, bare⟩
    · rintro apart ⟨p, shared⟩
      exact apart ⟨p, ((shared_concat ..).mp shared).1⟩
  | @paths bounds _ drawn _ held =>
    dsimp only
    rcases bounds.overlap?_cases c.path.extent with ⟨common, found, proper, both⟩ | ⟨missed, apart⟩
    · rw [found]
      refine .paths more (all drawn) proper fun p => ?_
      rw [both, held, shared_concat]
    · rw [missed]
      refine .empty (.inr ?_)
      rintro ⟨p, shared⟩
      obtain ⟨before, last⟩ := (shared_concat ..).mp shared
      exact apart ⟨p, (held p).mpr before, last⟩

theorem cut_cutTo (paths : List (ClipPath K)) : CutTo paths (cut paths) := by
  induction paths using List.reverseRecOn with
  | nil => exact .unbounded rfl
  | append_singleton paths c ih =>
    rw [cut_concat]
    exact ih.intersect c

/-- Several boxes have to meet, and to do so as often as one is added. -/
theorem unshared_iff (given : List (ClipPath K)) :
    (¬ ∃ p, Shared given p) ↔
      2 ≤ given.length ∧ ∃ first, first <+: given ∧ ¬ ∃ p, Shared first p := by
  constructor
  · intro apart
    refine ⟨?_, given, List.prefix_rfl, apart⟩
    rcases given with _ | ⟨c, _ | ⟨d, rest⟩⟩
    · exact absurd ⟨⟨Scalar.zero, Scalar.zero⟩, nofun⟩ apart
    · have inside := c.path.extent_proper.holds_first
      exact absurd ⟨_, by simpa [Shared] using inside⟩ apart
    · simp
  · rintro ⟨-, first, within, apart⟩ ⟨p, shared⟩
    exact apart ⟨p, fun c member => shared c (within.subset member)⟩

structure Lawful (given : List (ClipPath K)) (region : ClipRegion K) : Prop where
  isEmpty_iff : region.isEmpty = true ↔ (∃ c ∈ given, c.path = []) ∨
    2 ≤ given.length ∧ ∃ first, first <+: given ∧ ¬ ∃ p, Shared first p
  listed : region.isEmpty = false → region.toList = given
  bounded : region.isEmpty = false → given ≠ [] → ∃ bounds, region.bounds? = some bounds ∧
    bounds.Proper ∧ ∀ p, bounds.Holds p ↔ Shared given p
  orderless : ∀ other, other.Perm given →
    (cut other).isEmpty = region.isEmpty ∧ (cut other).bounds? = region.bounds?
  held : ∀ bounds p, region.bounds? = some bounds → Shared given p → bounds.Holds p
  absorbing : region.isEmpty = true → ∀ path rule, (region.intersect path rule).isEmpty = true
  shrinks : ∀ path rule p, (region.intersect path rule).Admits p → region.Admits p
  within : ∀ path rule inner outer, (region.intersect path rule).isEmpty = false →
    (region.intersect path rule).bounds? = some inner → region.bounds? = some outer →
      inner.Within outer

/-- Cut to any paths in turn, a region is empty exactly if a path has no elements or the boxes of
some first paths have no point in common, those on their edges counted. Otherwise it has the paths in
order and the box that all of theirs share. The order makes no difference to either, and cutting it
to one more path leaves it smaller. -/
theorem cut_lawful (given : List (ClipPath K)) : Lawful given (cut given) := by
  have cutTo := cut_cutTo given
  have further (path : Path K) (rule : FillRule) :
      CutTo (given ++ [⟨path, rule⟩]) ((cut given).intersect path rule) :=
    cutTo.intersect ⟨path, rule⟩
  constructor
  case isEmpty_iff => rw [cutTo.isEmpty_iff, unshared_iff]
  case listed => exact cutTo.listed
  case bounded => exact cutTo.bounds_listed
  case orderless => exact fun other same => cutTo.perm (cut_cutTo other) same
  case held => exact fun bounds p is shared => cutTo.bounds_held is shared
  case absorbing =>
    intro gone path rule
    rw [eq_empty gone, intersect_empty]
    rfl
  case shrinks =>
    intro path rule p admits
    obtain ⟨drawn, shared⟩ := ((further path rule).admits_iff p).mp admits
    exact (cutTo.admits_iff p).mpr
      ⟨fun c member => drawn c (List.mem_append_left _ member), ((shared_concat ..).mp shared).1⟩
  case within =>
    intro path rule inner outer left is was
    obtain ⟨bounds, found, proper, held⟩ :=
      (further path rule).bounds_listed left (List.concat_ne_nil _ _)
    cases is.symm.trans found
    exact proper.within fun p inside =>
      cutTo.bounds_held was ((shared_concat ..).mp ((held p).mp inside)).1

def touching : List (ClipPath ℚ) :=
  [⟨[.move ⟨0, 0⟩, .line ⟨10, 10⟩], .nonzero⟩, ⟨[.move ⟨10, 2⟩, .line ⟨20, 12⟩], .evenOdd⟩]

theorem cut_lawful_touching :
    (cut touching).isEmpty = false ∧ (cut touching).bounds? = some ⟨10, 2, 10, 10⟩ ∧
      Lawful touching (cut touching) :=
  ⟨by decide, by decide, cut_lawful touching⟩

end PageMarks.ClipRegion
