import PageMarks.Proofs.Engine.PathCycle
import PageMarks.Proofs.Geometry.Exact

/-!
The end of a path. What the surface receives is written down beside it, with its answers. The main
statement is for engines after any callbacks, and for every callback that ends a path: the path is
painted in the state before, a clip that was asked for since the path began is installed however the
painting went, and nothing else is left of the path.
-/

namespace PageMarks

section

variable {K R : Type}

def Callback.ends? : Callback K R → Option (Bool × PaintOp)
  | stroke closing => some (closing, .stroke)
  | fill rule => some (false, .fill rule)
  | fillStroke closing rule => some (closing, .fillStroke rule)
  | endPath => some (false, .noPaint)
  | _ => none

def Entry.clipRule? : Entry K R → Option FillRule
  | .call (.clip rule) _ => some rule
  | _ => none

/-- The rule of the last request to clip since a path was last ended. -/
def requested (log : Log K R) : Option FillRule :=
  ((log.rtakeWhile (!·.endsPath)).filterMap Entry.clipRule?).getLast?

variable (log : Log K R) {entry : Entry K R}

theorem requested_ended (ends : entry.endsPath) : requested (log ++ [entry]) = none := by
  rw [requested, List.rtakeWhile_concat_neg _ _ _ (by simp [ends])]
  rfl

theorem requested_clipped (going : entry.endsPath = false) {rule : FillRule}
    (clips : entry.clipRule? = some rule) : requested (log ++ [entry]) = some rule := by
  rw [requested, List.rtakeWhile_concat_pos _ _ _ (by simp [going]), List.filterMap_append,
    List.filterMap_cons_some clips]
  exact List.getLast?_concat

theorem requested_kept (going : entry.endsPath = false) (quiet : entry.clipRule? = none) :
    requested (log ++ [entry]) = requested log := by
  rw [requested, List.rtakeWhile_concat_pos _ _ _ (by simp [going]), List.filterMap_append,
    List.filterMap_cons_none quiet, List.filterMap_nil, List.append_nil, requested]

end

def Surface.logged {K σ : Type} (surface : Surface K σ) :
    Surface K (σ × List (Hook K × Outcome)) := fun hook s =>
  let (answer, t) := surface hook s.1
  (answer, t, s.2 ++ [(hook, answer)])

namespace Engine

variable {K R σ : Type} [Scalar K]

section

variable (surface : Surface K σ) (hints : Bool) (e : Engine K σ)

def SamePending (e after : Engine K σ) : Prop := after.pendingClip = e.pendingClip

theorem samePending_unmoved : Unmoved (SamePending e) where
  surface _ same := same
  advance _ same := same

theorem finishPath_pending (op : PaintOp) :
    (e.finishPath surface hints op).2.pendingClip = none := by
  obtain ⟨s, finished⟩ := finishPath_effect surface hints e op
  rw [finished]

theorem call_requested {log : Log K R} (pending : e.pendingClip = requested log)
    (c : Callback K R) :
    (call surface hints c e).2.pendingClip =
      requested (log ++ [.call c (call surface hints c e).1]) := by
  cases c
  case clip rule =>
    rw [requested_clipped log rfl rfl]
    rfl
  case stroke closing | fillStroke closing rule =>
    rw [requested_ended log rfl]
    exact finishPath_pending surface hints _ _
  case fill | endPath =>
    rw [requested_ended log rfl]
    exact finishPath_pending surface hints _ _
  all_goals
    rw [requested_kept log rfl rfl, ← pending]
  case save =>
    change e.save.2.pendingClip = _
    rcases save_cases e with ⟨-, -, same⟩ | ⟨-, -, same⟩ <;> rw [same]
  case restore =>
    change e.restore.2.pendingClip = _
    rcases restore_cases e with ⟨_, _, -, -, same⟩ | ⟨-, -, same⟩
    · rw [same]
      rfl
    · rw [same]
  case concat m => simp only [call, concat, outsidePath_snd]; rfl
  case showText bytes => exact (samePending_unmoved e).showText bytes rfl
  case showTextAdjusted items => exact (samePending_unmoved e).showAdjusted items rfl
  case parameters name parameters => cases parameters <;> rfl
  case drawXObject name xobject => rcases xobject with _ | _ | _ | _ <;> rfl
  case lineTo x y => simp only [call, lineTo]; split <;> rfl
  case curveTo | curveFromCurrent | curveIntoEnd => simp only [call, drawCurve]; split <;> rfl
  case colorSpace side name space => simp only [call, setColorSpace]; split <;> rfl
  case beginText => simp only [call, beginText]; split <;> rfl
  case endText => simp only [call, endText]; split <;> rfl
  case endMarked => simp only [call, endMarked]; split <;> rfl
  all_goals rfl

theorem feed_requested {log : Log K R} (pending : e.pendingClip = requested log)
    (calls : List (Callback K R)) :
    (feed surface hints calls e).2.pendingClip =
      requested (log ++ (feed surface hints calls e).1) := by
  induction calls generalizing e log with
  | nil =>
    rw [feed, List.append_nil]
    exact pending
  | cons c rest ih =>
    have later := ih _ (call_requested surface hints e pending c)
    rwa [List.append_assoc] at later

end

/-- What painting a path hands to the surface, and what it ends in. -/
inductive Painted (path : Path K) (thin : Bool) (state : GraphicsState K) :
    PaintOp → Outcome → List (Hook K × Outcome) → Prop
  | nothing {op} : path = [] ∨ op = .noPaint → Painted path thin state op (.ok ()) []
  | stroke {answer} : path ≠ [] →
    Painted path thin state .stroke answer [(.strokePath path state, answer)]
  | fillStroke {rule answer} : path ≠ [] →
    Painted path thin state (.fillStroke rule) answer [(.fillAndStrokePath path rule state, answer)]
  | refused {rule signal} : path ≠ [] →
    Painted path thin state (.fill rule) (.error signal)
      [(.fillPath path rule state, .error signal)]
  | filled {rule} : path ≠ [] → thin = false →
    Painted path thin state (.fill rule) (.ok ()) [(.fillPath path rule state, .ok ())]
  | hairline {rule answer} : path ≠ [] → thin = true →
    Painted path thin state (.fill rule) answer
      [(.fillPath path rule state, .ok ()), (.fillZeroArea path state, answer)]

/-- The surface hears of a clip that was asked for, if it wants to and the painting went well. -/
inductive Hinted (hints : Bool) (path : Path K) (clip : ClipRegion K) :
    Option FillRule → Outcome → Outcome → List (Hook K × Outcome) → Prop
  | told {rule answer} : hints = true →
    Hinted hints path clip (some rule) (.ok ()) answer [(.clipHint path rule clip, answer)]
  | untold {request painted} :
    ¬ (request.isSome ∧ painted = .ok () ∧ hints = true) →
    Hinted hints path clip request painted painted []

section

variable (surface : Surface K σ) (hints : Bool) (e : Engine K (σ × List (Hook K × Outcome)))

omit [Scalar K] in
theorem emit_logged (hook : Hook K) :
    ∃ answer t, e.emit surface.logged hook =
      (answer, { e with surface := (t, e.surface.2 ++ [(hook, answer)]) }) := ⟨_, _, rfl⟩

omit [Scalar K] in
theorem paintPath_painted {path : Path K} (some : path ≠ []) (thin : Bool) (op : PaintOp) :
    ∃ painted t marks, e.paintPath surface.logged path thin op =
        (painted, { e with surface := (t, e.surface.2 ++ marks) }) ∧
      Painted path thin e.state op painted marks := by
  cases op with
  | stroke => exact ⟨_, _, _, rfl, .stroke some⟩
  | fillStroke rule => exact ⟨_, _, _, rfl, .fillStroke some⟩
  | noPaint => exact ⟨_, e.surface.1, [], by rw [List.append_nil]; rfl, .nothing (.inr rfl)⟩
  | fill rule =>
    obtain ⟨answer, t, filled⟩ := emit_logged surface e (.fillPath path rule e.state)
    simp only [paintPath, filled]
    rcases answer with signal | ⟨⟨⟩⟩
    · exact ⟨_, _, _, rfl, .refused some⟩
    · cases thin with
      | false => exact ⟨_, _, _, rfl, .filled some rfl⟩
      | true =>
        obtain ⟨answer, u, lined⟩ := emit_logged surface
          { e with surface := (t, e.surface.2 ++ [(.fillPath path rule e.state, .ok ())]) }
          (.fillZeroArea path e.state)
        refine ⟨answer, u, _, ?_, .hairline some rfl⟩
        rw [List.append_assoc] at lined
        exact lined

theorem installClip_hinted (path : Path K) (rule : FillRule) (painted : Outcome) :
    ∃ answer t told, e.installClip surface.logged hints path rule painted =
        (answer, { e.modify fun state => { state with clip := state.clip.intersect path rule } with
          surface := (t, e.surface.2 ++ told) }) ∧
      Hinted hints path (e.state.clip.intersect path rule) (some rule) painted answer told := by
  rcases painted with signal | ⟨⟨⟩⟩
  · exact ⟨_, e.surface.1, [], by rw [List.append_nil]; rfl, .untold (by simp)⟩
  · cases hints with
    | false => exact ⟨_, e.surface.1, [], by rw [List.append_nil]; rfl, .untold (by simp)⟩
    | true => exact ⟨_, _, _, rfl, .told rfl⟩

def clipWith (path : Path K) : Option FillRule → ClipRegion K
  | none => e.state.clip
  | some rule => e.state.clip.intersect path rule

theorem finishPath_painted (op : PaintOp) :
    ∃ answer painted t marks told,
      e.finishPath surface.logged hints op =
        (answer, { e with
          stack.current.clip := e.clipWith e.path.path e.pendingClip, path := e.path.reset
          pendingClip := none, phase := .noPath, surface := (t, e.surface.2 ++ marks ++ told) }) ∧
      Painted e.path.path e.path.isDegenerate e.state op painted marks ∧
      Hinted hints e.path.path (e.clipWith e.path.path e.pendingClip) e.pendingClip painted answer
        told := by
  let fresh := { e with path := e.path.reset, pendingClip := none, phase := .noPath }
  obtain ⟨painted, t, marks, run, paints⟩ : ∃ painted t marks,
      (if e.path.path.isEmpty then fresh.done
        else fresh.paintPath surface.logged e.path.path e.path.isDegenerate op) =
        (painted, { fresh with surface := (t, e.surface.2 ++ marks) }) ∧
      Painted e.path.path e.path.isDegenerate e.state op painted marks := by
    by_cases empty : e.path.path = []
    · rw [if_pos (List.isEmpty_iff.mpr empty)]
      exact ⟨_, e.surface.1, [], by rw [List.append_nil]; rfl, .nothing (.inl empty)⟩
    · rw [if_neg (by simpa using empty)]
      exact paintPath_painted surface fresh empty _ op
  simp only [finishPath, fresh] at run ⊢
  rw [run]
  cases e.pendingClip with
  | none =>
    exact ⟨painted, painted, t, marks, [], by rw [List.append_nil]; rfl, paints, .untold (by simp)⟩
  | some rule =>
    obtain ⟨answer, u, told, cut, heard⟩ := installClip_hinted surface hints
      { fresh with surface := (t, e.surface.2 ++ marks) } e.path.path rule painted
    exact ⟨answer, painted, u, marks, told, cut, paints, heard⟩

def ended (closing : Bool) : Path K :=
  if closing && !e.path.isEmpty then e.path.path ++ [.close] else e.path.path

omit [Scalar K] in
theorem closeIf_ended (closing : Bool) :
    ∃ path : PathBuilder K, e.closeIf closing = { e with path } ∧ path.path = e.ended closing ∧
      path.isDegenerate = e.path.isDegenerate ∧ path.ctm = e.path.ctm := by
  cases closing with
  | false => exact ⟨e.path, rfl, rfl, rfl, rfl⟩
  | true =>
    refine ⟨e.path.close, rfl, ?_⟩
    by_cases empty : e.path.path = []
    · have none : e.path.isEmpty := List.isEmpty_iff.mpr empty
      rw [PathBuilder.close, if_pos (List.isEmpty_iff.mpr empty), ended, none]
      exact ⟨rfl, rfl, rfl⟩
    · have some : e.path.isEmpty = false := by simpa [PathBuilder.isEmpty] using empty
      rw [PathBuilder.close_of_begun empty, ended, some]
      exact ⟨rfl, rfl, rfl⟩

/-- What the end of a path comes to. -/
structure EndsPath (hints closing : Bool) (op : PaintOp) (request : Option FillRule)
    (e after : Engine K (σ × List (Hook K × Outcome))) (answer : Outcome) : Prop where
  received : ∃ painted marks told,
    Painted (e.ended closing) e.path.isDegenerate e.state op painted marks ∧
    Hinted hints (e.ended closing) (e.clipWith (e.ended closing) request) request painted answer
      told ∧
    after.surface.2 = e.surface.2 ++ marks ++ told
  left : after = { e with
    stack.current.clip := e.clipWith (e.ended closing) request, path := .empty e.state.ctm
    pendingClip := none, phase := .noPath, surface := after.surface }

theorem finishPath_endsPath (matrix : e.path.ctm = e.state.ctm) (closing : Bool) (op : PaintOp) :
    let (answer, after) := (e.closeIf closing).finishPath surface.logged hints op
    EndsPath hints closing op e.pendingClip e after answer := by
  obtain ⟨path, closed, spelled, thin, placed⟩ := closeIf_ended e closing
  obtain ⟨answer, painted, t, marks, told, finished, paints, heard⟩ :=
    finishPath_painted surface hints { e with path } op
  have fresh : path.reset = .empty e.state.ctm := by rw [PathBuilder.reset, placed, matrix]
  dsimp only at finished paints heard
  rw [spelled] at finished paints heard
  rw [thin] at paints
  rw [closed, finished]
  exact ⟨⟨painted, marks, told, paints, heard, rfl⟩, by rw [← fresh]; rfl⟩

end

/-- For engines after any callbacks: a callback that ends a path paints it, closed first where it
says so, under the clip of before, and then installs the clip that was last asked for, however the
painting went. -/
theorem path_ended (surface : Surface K σ) (hints : Bool) (initial : GraphicsState K) (limit : Nat)
    (s : σ) (calls : List (Callback K R)) {c : Callback K R} {closing : Bool} {op : PaintOp}
    (ends : c.ends? = some (closing, op)) :
    let (log, e) := feed surface.logged hints calls (start initial limit (s, []))
    let (answer, after) := call surface.logged hints c e
    EndsPath hints closing op (requested log) e after answer := by
  have placed := (feed_cycle surface.logged hints (start_cycle initial limit (s, [])) calls).matrix
  have fresh : (start initial limit (s, ([] : List (Hook K × Outcome)))).pendingClip =
    requested ([] : Log K R) := rfl
  have pending := feed_requested surface.logged hints _ fresh calls
  rw [List.nil_append] at pending
  dsimp only
  rw [← pending]
  cases c
  case stroke | fill | fillStroke | endPath =>
    cases ends
    exact finishPath_endsPath surface hints _ placed _ _
  all_goals cases ends

def fillsRefused : Surface ℚ Unit
  | .fillPath .., s => (.error (.warn .unexpectedPhase "no fills"), s)
  | _, s => (.ok (), s)

def clippedBox : Log ℚ Unit × Engine ℚ (Unit × List (Hook ℚ × Outcome)) :=
  feed fillsRefused.logged true [.rectangle 0 0 10 10, .clip .nonzero, .clip .evenOdd]
    (start (.initial ⟨1, 0, 0, 1, 0, 0⟩) 500 ((), []))

theorem path_ended_refused :
    let (answer, after) :=
      call fillsRefused.logged true (.fill .nonzero : Callback ℚ Unit) clippedBox.2
    requested clippedBox.1 = some .evenOdd ∧
      answer = .error (.warn .unexpectedPhase "no fills") ∧ after.surface.2.length = 1 ∧
      after.state.clip.bounds? = some ⟨0, 0, 10, 10⟩ ∧
      EndsPath true false (.fill .nonzero) (requested clippedBox.1) clippedBox.2 after answer :=
  ⟨rfl, rfl, rfl, by decide +kernel,
    path_ended fillsRefused true (.initial ⟨1, 0, 0, 1, 0, 0⟩) 500 ()
      [.rectangle 0 0 10 10, .clip .nonzero, .clip .evenOdd] (c := .fill .nonzero) rfl⟩

end Engine
end PageMarks
