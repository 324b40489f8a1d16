import Mathlib.Data.List.DropRight
import PageMarks.Proofs.Engine.Saved
import PageMarks.Proofs.Path.Pen

/-!
The cycle of a path: drawn, perhaps asked to clip, ended. Whatever the callbacks are and whatever
the surface answers, what an engine remembers of its path is the path it has built, and whether
filling alone would show is what was drawn since the last path ended.
-/

namespace PageMarks

section

variable {K R : Type}

def Entry.endsPath : Entry K R → Bool
  | .call (.stroke _) _ | .call (.fill _) _ | .call (.fillStroke ..) _ | .call .endPath _ => true
  | _ => false

def Entry.draws : Entry K R → Bool
  | .call (.moveTo ..) _ | .call (.lineTo ..) _ | .call (.rectangle ..) _ => true
  | .call (.curveTo ..) (.ok ()) | .call (.curveFromCurrent ..) (.ok ()) => true
  | .call (.curveIntoEnd ..) (.ok ()) => true
  | _ => false

/-- The drawing steps of the path that is under construction. -/
def drawing (log : Log K R) : Log K R := (log.rtakeWhile (!·.endsPath)).filter Entry.draws

def Entry.sections (n : Nat) : Entry K R → Nat
  | .call (.beginMarked _) _ | .call (.beginMarkedWith ..) _ => n + 1
  | .call .endMarked _ => n - 1
  | _ => n

def openSections (log : Log K R) : Nat := log.foldl Entry.sections 0

def Entry.isThin [Scalar K] : Entry K R → Bool
  | .call (.rectangle _ _ width height) _ => PathBuilder.thin width height
  | _ => false

variable (log : Log K R) {entry : Entry K R}

theorem drawing_ended (ends : entry.endsPath) : drawing (log ++ [entry]) = [] := by
  rw [drawing, List.rtakeWhile_concat_neg _ _ _ (by simp [ends])]
  rfl

theorem drawing_drawn (going : entry.endsPath = false) (draws : entry.draws) :
    drawing (log ++ [entry]) = drawing log ++ [entry] := by
  rw [drawing, List.rtakeWhile_concat_pos _ _ _ (by simp [going]), List.filter_append,
    List.filter_singleton, draws]
  rfl

theorem drawing_kept (going : entry.endsPath = false) (idle : entry.draws = false) :
    drawing (log ++ [entry]) = drawing log := by
  rw [drawing, List.rtakeWhile_concat_pos _ _ _ (by simp [going]), List.filter_append,
    List.filter_singleton, idle]
  exact List.append_nil _

theorem openSections_concat : openSections (log ++ [entry]) = entry.sections (openSections log) :=
  List.foldl_append

end

namespace PathBuilder

variable {K R : Type} [Scalar K] {b : PathBuilder K} {steps : Log K R}

structure Counted (b : PathBuilder K) (steps : Log K R) : Prop where
  primitives : b.primitives = steps.length
  thinFirst : ∀ step ∈ steps.head?, b.thinFirst = step.isThin

theorem Counted.step {after : PathBuilder K} (counted : Counted b steps) {entry : Entry K R}
    (drawn : Drawn entry.isThin b after) : Counted after (steps ++ [entry]) := by
  refine ⟨by rw [drawn.primitives, counted.primitives, List.length_append]; rfl, ?_⟩
  intro step first
  rw [drawn.thinFirst, counted.primitives]
  cases steps with
  | nil => cases first; rfl
  | cons head rest => exact counted.thinFirst step first

theorem Counted.degenerate (counted : Counted b steps) :
    b.isDegenerate ↔ steps = [] ∨ ∃ step, steps = [step] ∧ step.isThin := by
  unfold isDegenerate
  rw [counted.primitives]
  rcases steps with _ | ⟨first, _ | ⟨second, rest⟩⟩
  · simp
  · simp [counted.thinFirst first rfl]
  · simp

end PathBuilder

namespace Engine

variable {K R σ : Type}

/-- The part of an engine that a path goes through. -/
structure Cycle (K : Type) where
  phase : PathPhase
  pendingClip : Option FillRule
  path : PathBuilder K
  ctm : Matrix K
  depth : Nat
  limit : Nat
  markedDepth : Nat

def cycle (e : Engine K σ) : Cycle K where
  phase := e.phase
  pendingClip := e.pendingClip
  path := e.path
  ctm := e.state.ctm
  depth := e.stack.depth
  limit := e.stack.limit
  markedDepth := e.markedDepth

variable [Scalar K]

structure Cycle.After (c : Cycle K) (limit : Nat) (log : Log K R) : Prop where
  clip : c.pendingClip.isSome ↔ c.phase = .clipPending
  idle : c.phase = .noPath → c.path = .empty c.ctm
  building : c.phase = .building → c.path.path ≠ []
  traced : c.path.Traced
  counted : c.path.Counted (drawing log)
  matrix : c.path.ctm = c.ctm
  limited : c.limit = limit
  bounded : c.depth ≤ limit
  sections : c.markedDepth = openSections log

namespace Cycle.After

variable {c : Cycle K} {limit : Nat} {log : Log K R} {entry : Entry K R}

theorem marked (cycle : c.After limit log) (entry : Entry K R) (going : entry.endsPath = false)
    (idle : entry.draws = false) :
    { c with markedDepth := entry.sections c.markedDepth : Cycle K }.After limit (log ++ [entry]) :=
  { cycle with
    counted := by rw [drawing_kept log going idle]; exact cycle.counted
    sections := by rw [openSections_concat, cycle.sections] }

theorem sections_kept (cycle : c.After limit log) (same : ∀ n, entry.sections n = n) :
    c.markedDepth = openSections (log ++ [entry]) := by
  rw [openSections_concat, same]
  exact cycle.sections

theorem kept (cycle : c.After limit log) (entry : Entry K R) (going : entry.endsPath = false)
    (idle : entry.draws = false) (same : ∀ n, entry.sections n = n) :
    c.After limit (log ++ [entry]) :=
  { cycle with
    counted := by rw [drawing_kept log going idle]; exact cycle.counted
    sections := cycle.sections_kept same }

theorem unmoved (cycle : c.After limit log) {after : Cycle K} (unmoved : after = c)
    (going : entry.endsPath = false) (idle : entry.draws = false)
    (same : ∀ n, entry.sections n = n) : after.After limit (log ++ [entry]) := by
  rw [unmoved]
  exact cycle.kept entry going idle same

theorem drawn (cycle : c.After limit log) {path : PathBuilder K}
    (drawn : PathBuilder.Drawn entry.isThin c.path path) (going : entry.endsPath = false)
    (draws : entry.draws) (same : ∀ n, entry.sections n = n) :
    { c with path, phase := if c.phase = .noPath then .building else c.phase : Cycle K }.After limit
      (log ++ [entry]) := by
  refine { cycle with
    clip := ?_, idle := ?_, building := fun _ => drawn.begun, traced := drawn.traced, counted := ?_,
    matrix := drawn.ctm.trans cycle.matrix, sections := cycle.sections_kept same }
  · by_cases idle : c.phase = .noPath
    · have unclipped := cycle.clip
      simp_all
    · simpa only [if_neg idle] using cycle.clip
  · intro phase
    dsimp only at phase
    split at phase
    · cases phase
    · contradiction
  · rw [drawing_drawn log going draws]
    exact cycle.counted.step drawn

theorem closed (cycle : c.After limit log) (going : entry.endsPath = false)
    (idle : entry.draws = false) (same : ∀ n, entry.sections n = n) :
    { c with path := c.path.close : Cycle K }.After limit (log ++ [entry]) := by
  by_cases empty : c.path.path = []
  · have unclosed : c.path.close = c.path := if_pos (List.isEmpty_iff.mpr empty)
    rw [unclosed]
    exact cycle.kept entry going idle same
  · have steps : c.path.close.Counted (drawing (log ++ [entry])) := by
      rw [PathBuilder.close_of_begun empty, drawing_kept log going idle]
      exact ⟨cycle.counted.primitives, cycle.counted.thinFirst⟩
    refine { cycle with
      idle := ?_, building := ?_, traced := cycle.traced.close, counted := steps, matrix := ?_
      sections := cycle.sections_kept same }
    · intro phase
      rw [cycle.idle phase] at empty
      exact absurd rfl empty
    all_goals dsimp only; rw [PathBuilder.close_of_begun empty]
    · exact fun _ => List.concat_ne_nil _ _
    · exact cycle.matrix

theorem ended (cycle : c.After limit log) (ends : entry.endsPath)
    (same : ∀ n, entry.sections n = n) :
    { c with phase := .noPath, pendingClip := none, path := .empty c.ctm : Cycle K }.After limit
      (log ++ [entry]) where
  clip := by simp
  idle _ := rfl
  building phase := by cases phase
  traced := PathBuilder.traced_empty _
  counted := by
    rw [drawing_ended log ends]
    exact ⟨rfl, by simp⟩
  matrix := rfl
  limited := cycle.limited
  bounded := cycle.bounded
  sections := cycle.sections_kept same

theorem clipping (cycle : c.After limit log) (rule : FillRule) (going : entry.endsPath = false)
    (idle : entry.draws = false) (same : ∀ n, entry.sections n = n) :
    { c with phase := .clipPending, pendingClip := some rule : Cycle K }.After limit
      (log ++ [entry]) :=
  { cycle.kept entry going idle same with
    clip := by simp
    idle := by intro phase; cases phase
    building := by intro phase; cases phase }

theorem turned (cycle : c.After limit log) (ctm : Matrix K) :
    { c with ctm, path := c.path.setMatrix ctm : Cycle K }.After limit log where
  clip := cycle.clip
  idle phase := by
    dsimp only
    rw [cycle.idle phase]
    rfl
  building := cycle.building
  traced := ⟨cycle.traced.first, cycle.traced.start, cycle.traced.current⟩
  counted := ⟨cycle.counted.primitives, cycle.counted.thinFirst⟩
  matrix := rfl
  limited := cycle.limited
  bounded := cycle.bounded
  sections := cycle.sections

end Cycle.After

variable (surface : Surface K σ) (hints : Bool) {e : Engine K σ} {limit : Nat} {log : Log K R}

theorem finishPath_cycle (closing : Bool) (op : PaintOp) (matrix : e.path.ctm = e.state.ctm) :
    ((e.closeIf closing).finishPath surface hints op).2.cycle =
      { e.cycle with phase := .noPath, pendingClip := none, path := .empty e.state.ctm } := by
  obtain ⟨s, finished⟩ := finishPath_effect surface hints (e.closeIf closing) op
  rw [finished, ← matrix]
  cases closing with
  | false => rfl
  | true =>
    have same : e.path.close.ctm = e.path.ctm := by
      unfold PathBuilder.close
      split <;> rfl
    rw [← same]
    rfl

omit [Scalar K] in
theorem modifyInk_cycle (side : Side) (f : Ink → Ink) : (e.modifyInk side f).cycle = e.cycle := by
  cases side <;> rfl

omit [Scalar K] in
theorem endMarked_cycle :
    (e.endMarked surface).2.cycle = { e.cycle with markedDepth := e.markedDepth - 1 } := by
  obtain ⟨stack, path, pendingClip, phase, markedDepth, s⟩ := e
  cases markedDepth <;> rfl

theorem cycle_unmoved (before : Cycle K) :
    Unmoved fun e : Engine K σ => e.cycle = before where
  surface _ same := same
  advance _ same := same

theorem call_cycle (cycle : e.cycle.After limit log) (c : Callback K R) :
    (call surface hints c e).2.cycle.After limit
      (log ++ [.call c (call surface hints c e).1]) := by
  have begun : e.path.current.isSome → e.path.path ≠ [] := cycle.traced.isSome_current.mpr
  cases c
  case save =>
    have kept := cycle.kept (.call (.save : Callback K R) e.save.1) rfl rfl fun _ => rfl
    change e.save.2.cycle.After limit (log ++ [.call .save e.save.1])
    rcases save_cases e with ⟨shallow, -, same⟩ | ⟨-, -, same⟩
    · rw [same]
      have limited : e.stack.limit = limit := cycle.limited
      exact { kept with bounded := limited ▸ shallow }
    · rw [same]
      exact kept
  case restore =>
    have kept := cycle.kept (.call (.restore : Callback K R) e.restore.1) rfl rfl fun _ => rfl
    change e.restore.2.cycle.After limit (log ++ [.call .restore e.restore.1])
    rcases restore_cases e with ⟨top, saved, found, -, same⟩ | ⟨-, -, same⟩
    · rw [same]
      have bounded : e.stack.saved.length ≤ limit := cycle.bounded
      rw [found] at bounded
      exact { kept.turned top.ctm with bounded := Nat.le_of_succ_le bounded }
    · rw [same]
      exact kept
  case concat m =>
    simp only [call, concat, outsidePath_snd]
    exact (cycle.kept _ rfl rfl fun _ => rfl).turned _
  case moveTo x y => exact cycle.drawn (PathBuilder.moveTo_drawn cycle.traced x y) rfl rfl fun _ => rfl
  case rectangle x y width height =>
    exact cycle.drawn (PathBuilder.rectangle_drawn cycle.traced x y width height) rfl rfl fun _ => rfl
  case lineTo x y =>
    simp only [call, lineTo]
    split
    case isTrue started =>
      exact cycle.drawn (PathBuilder.lineTo_drawn cycle.traced (begun started) x y) rfl rfl
        fun _ => rfl
    case isFalse =>
      exact cycle.drawn (PathBuilder.moveTo_drawn cycle.traced x y) rfl rfl fun _ => rfl
  case curveTo x1 y1 x2 y2 x3 y3 =>
    simp only [call, drawCurve]
    split
    case isTrue started =>
      exact cycle.drawn (PathBuilder.curveTo_drawn cycle.traced (begun started) ..) rfl rfl
        fun _ => rfl
    case isFalse => exact cycle.kept _ rfl rfl fun _ => rfl
  case curveFromCurrent x2 y2 x3 y3 =>
    simp only [call, drawCurve]
    split
    case isTrue started =>
      exact cycle.drawn (PathBuilder.curveFromCurrent_drawn cycle.traced (begun started) ..) rfl rfl
        fun _ => rfl
    case isFalse => exact cycle.kept _ rfl rfl fun _ => rfl
  case curveIntoEnd x1 y1 x3 y3 =>
    simp only [call, drawCurve]
    split
    case isTrue started =>
      exact cycle.drawn (PathBuilder.curveIntoEnd_drawn cycle.traced (begun started) ..) rfl rfl
        fun _ => rfl
    case isFalse => exact cycle.kept _ rfl rfl fun _ => rfl
  case closePath => exact cycle.closed rfl rfl fun _ => rfl
  case stroke closing | fillStroke closing rule =>
    rw [call, finishPath_cycle surface hints closing _ cycle.matrix]
    exact cycle.ended rfl fun _ => rfl
  case fill rule =>
    change (Engine.finishPath surface hints (.fill rule) (e.closeIf false)).2.cycle.After limit _
    rw [finishPath_cycle surface hints false _ cycle.matrix]
    exact cycle.ended rfl fun _ => rfl
  case endPath =>
    change (Engine.finishPath surface hints .noPaint (e.closeIf false)).2.cycle.After limit _
    rw [finishPath_cycle surface hints false _ cycle.matrix]
    exact cycle.ended rfl fun _ => rfl
  case clip rule => exact cycle.clipping rule rfl rfl fun _ => rfl
  case beginMarked tag =>
    exact cycle.marked (.call (.beginMarked tag) _) rfl rfl
  case beginMarkedWith tag name properties =>
    exact cycle.marked (.call (.beginMarkedWith tag name properties) _) rfl rfl
  case endMarked =>
    change (e.endMarked surface).2.cycle.After limit _
    rw [endMarked_cycle]
    exact cycle.marked (.call .endMarked _) rfl rfl
  all_goals refine cycle.unmoved ?_ rfl rfl fun _ => rfl
  case showText bytes => exact (cycle_unmoved e.cycle).showText bytes rfl
  case showTextAdjusted items => exact (cycle_unmoved e.cycle).showAdjusted items rfl
  case parameters name parameters => cases parameters <;> rfl
  case drawXObject name xobject => rcases xobject with _ | _ | _ | _ <;> rfl
  case colorSpace side name space =>
    simp only [call, setColorSpace]
    split
    · rfl
    · exact modifyInk_cycle side _
  case color side _ | pattern side _ _ _ | deviceColor side _ _ => exact modifyInk_cycle side _
  case beginText => simp only [call, beginText]; split <;> rfl
  case endText => simp only [call, endText]; split <;> rfl
  all_goals rfl

theorem feed_cycle (cycle : e.cycle.After limit log) (calls : List (Callback K R)) :
    (feed surface hints calls e).2.cycle.After limit (log ++ (feed surface hints calls e).1) := by
  induction calls generalizing e log with
  | nil =>
    rw [feed, List.append_nil]
    exact cycle
  | cons c rest ih =>
    have later := ih (call_cycle surface hints cycle c)
    rwa [List.append_assoc] at later

theorem start_cycle (initial : GraphicsState K) (limit : Nat) (s : σ) :
    (start initial limit s).cycle.After limit ([] : Log K R) where
  clip := by simp [start, cycle]
  idle _ := rfl
  building phase := by cases phase
  traced := PathBuilder.traced_empty _
  counted := ⟨rfl, by simp [drawing]⟩
  matrix := rfl
  limited := rfl
  bounded := Nat.zero_le limit
  sections := rfl

/-- An engine with a bound on its saved states, after the callbacks of a log. -/
structure InCycle (limit : Nat) (log : Log K R) (e : Engine K σ) : Prop where
  clip : e.pendingClip.isSome ↔ e.phase = .clipPending
  idle : e.phase = .noPath →
    e.path.path = [] ∧ e.path.current = none ∧ e.path.start = none ∧ e.path.isDegenerate
  building : e.phase = .building → e.path.path ≠ []
  pointed : e.path.path ≠ [] ↔ e.path.current.isSome
  started : e.path.path ≠ [] ↔ e.path.start.isSome
  first : ∀ element ∈ e.path.path.head?, ∃ p, element = .move p
  start : e.path.start = Path.lastMove? e.path.path
  current : e.path.current = (Path.pen e.path.path).point
  degenerate : e.path.isDegenerate ↔
    drawing log = [] ∨ ∃ step, drawing log = [step] ∧ step.isThin
  matrix : e.path.ctm = e.state.ctm
  bounded : e.stack.depth ≤ limit
  sections : e.markedDepth = openSections log

theorem Cycle.After.inCycle (cycle : e.cycle.After limit log) : InCycle limit log e where
  clip := cycle.clip
  idle phase := by
    have idle : e.path = .empty e.state.ctm := cycle.idle phase
    rw [idle]
    exact ⟨rfl, rfl, rfl, rfl⟩
  building := cycle.building
  pointed := cycle.traced.isSome_current
  started := cycle.traced.isSome_start
  first element member := by
    have moves := cycle.traced.first element member
    cases element with
    | move p => exact ⟨p, rfl⟩
    | line | curve | close => cases moves
  start := cycle.traced.start
  current := cycle.traced.current
  degenerate := cycle.counted.degenerate
  matrix := cycle.matrix
  bounded := cycle.bounded
  sections := cycle.sections

/-- Whatever callbacks an engine has answered, and whatever its surface made of them, its path, its
phase, its matrix and its depths fit together. -/
theorem feed_inCycle (surface : Surface K σ) (hints : Bool) (initial : GraphicsState K)
    (limit : Nat) (s : σ) (calls : List (Callback K R)) :
    let (log, e) := feed surface hints calls (start initial limit s)
    InCycle limit log e :=
  (feed_cycle surface hints (start_cycle initial limit s) calls).inCycle

end Engine
end PageMarks
