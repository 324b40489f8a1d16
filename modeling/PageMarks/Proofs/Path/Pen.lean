import Mathlib.Data.List.Basic
import Mathlib.Data.List.Induction
import PageMarks.Path.Builder

/-!
Where the pen is. A path read from its first element on says where its last subpath starts and where
the pen stands; a builder keeps both as it goes, so they are those of the path it has built.
-/

namespace PageMarks

variable {K : Type}

/-- The point a subpath starts at and the point the pen is at, once there has been a move. -/
structure Pen (K : Type) where
  start : Option (Point K)
  point : Option (Point K)

def PathElement.moves? : PathElement K → Option (Point K)
  | move p => some p
  | _ => none

def Pen.along (pen : Pen K) : PathElement K → Pen K
  | .move p => ⟨some p, some p⟩
  | .line p | .curve _ _ p => { pen with point := some p }
  | .close => { pen with point := pen.start }

namespace Path

def pen (path : Path K) : Pen K := path.foldl Pen.along ⟨none, none⟩

def lastMove? (path : Path K) : Option (Point K) := (path.filterMap PathElement.moves?).getLast?

variable (path : Path K)

theorem pen_concat (element : PathElement K) : pen (path ++ [element]) = (pen path).along element :=
  List.foldl_append

theorem lastMove?_concat (element : PathElement K) :
    lastMove? (path ++ [element]) = element.moves?.or (lastMove? path) := by
  unfold lastMove?
  cases element with
  | move p => rw [List.filterMap_append]; exact List.getLast?_concat ..
  | line | curve | close =>
    rw [List.filterMap_append]
    change (_ ++ []).getLast? = _
    rw [List.append_nil]
    rfl

theorem pen_start : (pen path).start = lastMove? path := by
  induction path using List.reverseRecOn with
  | nil => rfl
  | append_singleton path element ih =>
    rw [pen_concat, lastMove?_concat]
    cases element with
    | move => rfl
    | line | curve | close => exact ih

end Path

namespace PathBuilder

variable {b : PathBuilder K}

/-- What a builder remembers is what its path says. -/
structure Traced (b : PathBuilder K) : Prop where
  first : ∀ element ∈ b.path.head?, element.moves?.isSome
  start : b.start = Path.lastMove? b.path
  current : b.current = (Path.pen b.path).point

theorem traced_empty (ctm : Matrix K) : Traced (empty ctm) := by
  refine ⟨?_, rfl, rfl⟩
  intro element member
  cases member

theorem close_of_begun (begun : b.path ≠ []) :
    b.close = { b with path := b.path ++ [.close], current := b.start.or b.current } :=
  if_neg (mt List.isEmpty_iff.mp begun)

namespace Traced

theorem isSome (traced : Traced b) (begun : b.path ≠ []) : b.start.isSome ∧ b.current.isSome := by
  have moving (pen : Pen K) (path : Path K) (moved : pen.start.isSome ∧ pen.point.isSome) :
      (path.foldl Pen.along pen).start.isSome ∧ (path.foldl Pen.along pen).point.isSome := by
    induction path generalizing pen with
    | nil => exact moved
    | cons element rest ih =>
      apply ih
      cases element with
      | move => exact ⟨rfl, rfl⟩
      | line | curve => exact ⟨moved.1, rfl⟩
      | close => exact ⟨moved.1, moved.1⟩
  rw [traced.start, traced.current, ← Path.pen_start]
  obtain ⟨first, rest, path⟩ := List.exists_cons_of_ne_nil begun
  have moves := traced.first first (by rw [path]; rfl)
  rw [path]
  cases first with
  | move p => exact moving ⟨some p, some p⟩ rest ⟨rfl, rfl⟩
  | line | curve | close => cases moves

theorem isSome_start (traced : Traced b) : b.path ≠ [] ↔ b.start.isSome := by
  constructor
  · exact fun begun => (traced.isSome begun).1
  · intro some empty
    rw [traced.start, empty] at some
    cases some

theorem isSome_current (traced : Traced b) : b.path ≠ [] ↔ b.current.isSome := by
  constructor
  · exact fun begun => (traced.isSome begun).2
  · intro some empty
    rw [traced.current, empty] at some
    cases some

theorem first_concat (traced : Traced b) {element : PathElement K}
    (moves : b.path = [] → element.moves?.isSome) :
    ∀ first ∈ (b.path ++ [element]).head?, first.moves?.isSome := by
  intro first member
  by_cases empty : b.path = []
  · rw [empty] at member
    cases member
    exact moves empty
  · rw [List.head?_append_of_ne_nil _ empty] at member
    exact traced.first first member

theorem drawTo (traced : Traced b) (begun : b.path ≠ []) {element : PathElement K} {p : Point K}
    (draws : element.moves? = none)
    (lands : ∀ pen : Pen K, pen.along element = { pen with point := some p }) :
    Traced { b with path := b.path ++ [element], current := some p } where
  first := traced.first_concat fun empty => absurd empty begun
  start := by rw [Path.lastMove?_concat, draws]; exact traced.start
  current := by rw [Path.pen_concat, lands]

theorem countPrimitive (traced : Traced b) (thin : Bool) : Traced (b.countPrimitive thin) :=
  ⟨traced.first, traced.start, traced.current⟩

variable [Scalar K]

theorem pushMove (traced : Traced b) (x y : K) : Traced (b.pushMove x y) where
  first := traced.first_concat fun _ => rfl
  start := by rw [PathBuilder.pushMove, Path.lastMove?_concat]; rfl
  current := by rw [PathBuilder.pushMove, Path.pen_concat]; rfl

theorem pushLine (traced : Traced b) (begun : b.path ≠ []) (x y : K) : Traced (b.pushLine x y) :=
  traced.drawTo begun rfl fun _ => rfl

omit [Scalar K] in
theorem pushCurve (traced : Traced b) (begun : b.path ≠ []) (c1 c2 p : Point K) :
    Traced (b.pushCurve c1 c2 p) :=
  traced.drawTo begun rfl fun _ => rfl

omit [Scalar K] in
theorem close (traced : Traced b) : Traced b.close := by
  by_cases empty : b.path = []
  · rw [PathBuilder.close, if_pos (List.isEmpty_iff.mpr empty)]
    exact traced
  · rw [close_of_begun empty]
    obtain ⟨p, started⟩ := Option.isSome_iff_exists.mp (traced.isSome empty).1
    refine ⟨traced.first_concat fun nothing => absurd nothing empty, ?_, ?_⟩
    · rw [Path.lastMove?_concat]
      exact traced.start
    · rw [Path.pen_concat]
      change b.start.or b.current = (Path.pen b.path).start
      rw [Path.pen_start, ← traced.start, started, Option.some_or]

end Traced

/-- A drawing step leaves a path behind that is in line with what is remembered of it, and counts
as one. -/
structure Drawn (thin : Bool) (b after : PathBuilder K) : Prop where
  traced : Traced after
  begun : after.path ≠ []
  ctm : after.ctm = b.ctm
  primitives : after.primitives = b.primitives + 1
  thinFirst : after.thinFirst = if b.primitives = 0 then thin else b.thinFirst

theorem pushCurve_drawn (traced : Traced b) (begun : b.path ≠ []) (c1 c2 p : Point K) :
    Drawn false b ((b.countPrimitive false).pushCurve c1 c2 p) :=
  ⟨(traced.countPrimitive false).pushCurve begun c1 c2 p, List.concat_ne_nil _ _, rfl, rfl, rfl⟩

theorem Drawn.close {thin : Bool} {after : PathBuilder K} (drawn : Drawn thin b after) :
    Drawn thin b after.close := by
  constructor
  · exact drawn.traced.close
  all_goals rw [close_of_begun drawn.begun]
  · exact List.concat_ne_nil _ _
  · exact drawn.ctm
  · exact drawn.primitives
  · exact drawn.thinFirst

section

variable [Scalar K]

def thin (width height : K) : Bool :=
  Scalar.le (Scalar.abs width) Scalar.one || Scalar.le (Scalar.abs height) Scalar.one

theorem pushMove_drawn (traced : Traced b) (thin : Bool) (x y : K) :
    Drawn thin b ((b.countPrimitive thin).pushMove x y) :=
  ⟨(traced.countPrimitive thin).pushMove x y, List.concat_ne_nil _ _, rfl, rfl, rfl⟩

theorem Drawn.pushLine {thin : Bool} {after : PathBuilder K} (drawn : Drawn thin b after) (x y : K) :
    Drawn thin b (after.pushLine x y) :=
  ⟨drawn.traced.pushLine drawn.begun x y, List.concat_ne_nil _ _, drawn.ctm, drawn.primitives,
    drawn.thinFirst⟩

theorem moveTo_drawn (traced : Traced b) (x y : K) : Drawn false b (b.moveTo x y) :=
  pushMove_drawn traced false x y

theorem lineTo_drawn (traced : Traced b) (begun : b.path ≠ []) (x y : K) :
    Drawn false b (b.lineTo x y) :=
  ⟨(traced.countPrimitive false).pushLine begun x y, List.concat_ne_nil _ _, rfl, rfl, rfl⟩

theorem curveTo_drawn (traced : Traced b) (begun : b.path ≠ []) (x1 y1 x2 y2 x3 y3 : K) :
    Drawn false b (b.curveTo x1 y1 x2 y2 x3 y3) :=
  pushCurve_drawn traced begun _ _ _

theorem curveFromCurrent_drawn (traced : Traced b) (begun : b.path ≠ []) (x2 y2 x3 y3 : K) :
    Drawn false b (b.curveFromCurrent x2 y2 x3 y3) := by
  obtain ⟨c1, current⟩ := Option.isSome_iff_exists.mp (traced.isSome begun).2
  rw [curveFromCurrent, current]
  exact pushCurve_drawn traced begun _ _ _

theorem curveIntoEnd_drawn (traced : Traced b) (begun : b.path ≠ []) (x1 y1 x3 y3 : K) :
    Drawn false b (b.curveIntoEnd x1 y1 x3 y3) :=
  pushCurve_drawn traced begun _ _ _

theorem rectangle_drawn (traced : Traced b) (x y width height : K) :
    Drawn (thin width height) b (b.rectangle x y width height) := by
  have corner := pushMove_drawn traced (thin width height) x y
  have bottom := corner.pushLine (x + width) y
  have sides := (bottom.pushLine (x + width) (y + height)).pushLine x (y + height)
  exact sides.close

end
end PathBuilder
end PageMarks
