import PageMarks.Proofs.Engine.Saved
import PageMarks.Proofs.Geometry.Exact

/-!
Where text goes. A text state keeps the product of the text matrix and the current matrix beside the
text matrix. Callbacks that change a factor bring the product up to date, and moving along the line
moves both sides, so the product stays right once it is. It need not be right at the start: a text
state begins with two identities whatever the current matrix is.
-/

namespace PageMarks

variable {K R σ : Type} [Scalar K]

def GraphicsState.Placed (s : GraphicsState K) : Prop :=
  s.text.globalMatrix = s.text.matrix.followedBy s.ctm

instance [DecidableEq K] (s : GraphicsState K) : Decidable s.Placed :=
  inferInstanceAs (Decidable (_ = _))

/-- Callbacks that bring the product up to date. A restore that is refused does nothing. -/
def Entry.places : Entry K R → Bool
  | .call .restore answer => accepted answer
  | .call (.concat _) _ | .call .beginText _ | .call (.moveText ..) _
  | .call (.moveTextSetLeading ..) _ | .call (.textMatrix _) _ | .call .nextLine _ => true
  | _ => false

namespace Engine

variable (surface : Surface K σ) (hints : Bool) (e : Engine K σ)

theorem followMatrix_placed : e.followMatrix.state.Placed := rfl

theorem call_places {c : Callback K R}
    (placing : (Entry.call c (call surface hints c e).1).places = true) [Scalar.Exact K] :
    (call surface hints c e).2.state.Placed := by
  cases c
  case restore =>
    change accepted e.restore.1 = true at placing
    change e.restore.2.state.Placed
    rcases restore_cases e with ⟨top, saved, -, -, after⟩ | ⟨-, refused, -⟩
    · rw [after]
      exact followMatrix_placed _
    · rw [refused] at placing
      cases placing
  case concat m =>
    change (((e.modify _).followMatrix).outsidePath "cm").2.state.Placed
    rw [outsidePath_snd]
    exact followMatrix_placed _
  case beginText =>
    have reset : (e.placeText .beginObject).state.Placed :=
      (Matrix.identity_followedBy e.state.ctm).symm
    simp only [call, beginText]
    split <;> exact reset
  case moveText | moveTextSetLeading | textMatrix | nextLine => rfl
  all_goals cases placing

def SamePlacing (after : Engine K σ) : Prop := after.state.Placed ↔ e.state.Placed

theorem finishPath_samePlacing (op : PaintOp) :
    SamePlacing e (e.finishPath surface hints op).2 := by
  obtain ⟨s, finished⟩ := finishPath_effect surface hints e op
  rw [finished]
  exact Iff.rfl

section

variable [Scalar.Exact K]

theorem advance_samePlacing (tx : K) : SamePlacing e (e.modifyText (·.advance tx)) := by
  change (Matrix.translation tx Scalar.zero).followedBy e.state.text.globalMatrix =
      ((Matrix.translation tx Scalar.zero).followedBy e.state.text.matrix).followedBy e.state.ctm ↔
    e.state.Placed
  rw [Matrix.followedBy_assoc, Matrix.translation_followedBy_inj]
  rfl

theorem samePlacing_unmoved : Unmoved (SamePlacing e) where
  surface _ same := same
  advance tx same := (advance_samePlacing _ tx).trans same

theorem call_samePlacing {c : Callback K R}
    (still : (Entry.call c (call surface hints c e).1).places = false) :
    SamePlacing e (call surface hints c e).2 := by
  cases c
  case save =>
    change SamePlacing e e.save.2
    rcases save_cases e with ⟨-, -, grown⟩ | ⟨-, -, same⟩
    · rw [grown]
      exact Iff.rfl
    · rw [same]
      exact Iff.rfl
  case restore =>
    change accepted e.restore.1 = false at still
    change SamePlacing e e.restore.2
    rcases restore_cases e with ⟨top, saved, -, taken, -⟩ | ⟨-, -, same⟩
    · rw [taken] at still
      cases still
    · rw [same]
      exact Iff.rfl
  case concat | beginText | moveText | moveTextSetLeading | textMatrix | nextLine => cases still
  case stroke closing | fillStroke closing rule =>
    cases closing
    all_goals exact finishPath_samePlacing surface hints _ _
  case fill | endPath => exact finishPath_samePlacing surface hints e _
  case showText bytes => exact (samePlacing_unmoved e).showText bytes Iff.rfl
  case showTextAdjusted items => exact (samePlacing_unmoved e).showAdjusted items Iff.rfl
  case parameters name parameters =>
    rcases parameters with _ | parameters
    · exact Iff.rfl
    · simp only [call, SamePlacing, GraphicsState.Placed, GraphicsState.applyParameters, state,
        modify, StateStack.modify, done]
      cases parameters.fontSize <;> exact Iff.rfl
  case drawXObject name xobject => rcases xobject with _ | _ | _ | _ <;> exact Iff.rfl
  case lineTo x y => simp only [call, lineTo]; split <;> exact Iff.rfl
  case curveTo | curveFromCurrent | curveIntoEnd =>
    simp only [call, drawCurve]; split <;> exact Iff.rfl
  case colorSpace side name space =>
    simp only [call, setColorSpace]; split <;> cases side <;> exact Iff.rfl
  case color side _ | pattern side _ _ _ | deviceColor side _ _ => cases side <;> exact Iff.rfl
  case endText => simp only [call, endText]; split <;> exact Iff.rfl
  case endMarked => simp only [call, endMarked]; split <;> exact Iff.rfl
  all_goals exact Iff.rfl

theorem call_placed_iff (c : Callback K R) :
    (call surface hints c e).2.state.Placed ↔
      e.state.Placed ∨ (Entry.call c (call surface hints c e).1).places = true := by
  cases turn : (Entry.call c (call surface hints c e).1).places with
  | true => exact iff_of_true (call_places surface hints e turn) (.inr rfl)
  | false => exact (call_samePlacing surface hints e turn).trans (by simp)

theorem feed_placed_iff (calls : List (Callback K R)) :
    (feed surface hints calls e).2.state.Placed ↔
      e.state.Placed ∨ ∃ entry ∈ (feed surface hints calls e).1, entry.places = true := by
  induction calls generalizing e with
  | nil => simp [feed]
  | cons c rest ih =>
    simp only [feed, ih, call_placed_iff, List.mem_cons, exists_eq_or_imp, or_assoc]

end
end Engine

def TextState.scaling (t : TextState K) : Matrix K :=
  ⟨t.size * t.horizontalScaling / Scalar.ofInt 100, Scalar.zero, Scalar.zero, t.size, Scalar.zero,
    t.rise⟩

/-- A glyph is put where text size, rise, text matrix and current matrix say. -/
def Hook.Aligned : Hook K → Prop
  | .showGlyph _ rendering s =>
    rendering = s.text.scaling.followedBy (s.text.matrix.followedBy s.ctm)
  | _ => True

def Surface.watched (surface : Surface K σ) : Surface K (σ × List (Hook K)) := fun hook s =>
  let (outcome, t) := surface hook s.1
  (outcome, t, s.2 ++ [hook])

namespace Engine

def ToldAligned (before : List (Hook K)) (e : Engine K (σ × List (Hook K))) : Prop :=
  ∃ told, e.surface.2 = before ++ told ∧ ∀ hook ∈ told, hook.Aligned

variable {surface : Surface K σ} {hints : Bool} {e : Engine K (σ × List (Hook K))}
  {before : List (Hook K)}

theorem emit_toldAligned {hook : Hook K} (aligned : hook.Aligned) (since : ToldAligned before e) :
    ToldAligned before (e.emit surface.watched hook).2 := by
  obtain ⟨told, same, all⟩ := since
  refine ⟨told ++ [hook], ?_, ?_⟩
  · change e.surface.2 ++ [hook] = before ++ (told ++ [hook])
    rw [same, List.append_assoc]
  · intro later member
    rcases List.mem_append.mp member with earlier | new
    · exact all later earlier
    · rw [List.mem_singleton.mp new]
      exact aligned

theorem paintPath_toldAligned (path : Path K) (degenerate : Bool) (op : PaintOp)
    (since : ToldAligned before e) :
    ToldAligned before (e.paintPath surface.watched path degenerate op).2 := by
  cases op with
  | stroke | fillStroke => exact emit_toldAligned trivial since
  | noPaint => exact since
  | fill rule =>
    have filled : ToldAligned before (e.emit surface.watched (.fillPath path rule e.state)).2 :=
      emit_toldAligned trivial since
    rcases answer : e.emit surface.watched (.fillPath path rule e.state) with ⟨_ | ⟨⟨⟩⟩, after⟩
    · rw [answer] at filled
      simpa only [paintPath, answer] using filled
    · rw [answer] at filled
      simp only [paintPath, answer]
      split
      · exact emit_toldAligned trivial filled
      · exact filled

theorem installClip_toldAligned (path : Path K) (rule : FillRule) (painted : Outcome)
    (since : ToldAligned before e) :
    ToldAligned before (e.installClip surface.watched hints path rule painted).2 := by
  unfold installClip
  dsimp only
  split
  · exact emit_toldAligned trivial since
  · exact since

theorem finishPath_toldAligned (op : PaintOp) (since : ToldAligned before e) :
    ToldAligned before (e.finishPath surface.watched hints op).2 := by
  have painted (fresh : Engine K (σ × List (Hook K))) (path : Path K) (degenerate : Bool)
      (since : ToldAligned before fresh) : ToldAligned before
        (if path.isEmpty then fresh.done
          else fresh.paintPath surface.watched path degenerate op).2 := by
    split
    · exact since
    · exact paintPath_toldAligned path degenerate op since
  have ended := painted
    { e with path := e.path.reset, pendingClip := none, phase := .noPath } e.path.path
    e.path.isDegenerate since
  rcases pending : e.pendingClip with _ | rule
  · simpa only [finishPath, pending] using ended
  · simp only [finishPath, pending]
    exact installClip_toldAligned _ _ _ ended

variable [Scalar.Exact K]

theorem placed_lasting (before : List (Hook K)) :
    Lasting surface.watched fun e => e.state.Placed ∧ ToldAligned before e where
  glyph {e} glyph holds := by
    refine ⟨holds.1, emit_toldAligned ?_ holds.2⟩
    change e.state.text.scaling.followedBy e.state.text.globalMatrix = _
    rw [show e.state.text.globalMatrix = _ from holds.1]
  advance {e} tx holds := ⟨(advance_samePlacing e tx).mpr holds.1, holds.2⟩

theorem call_toldAligned (placed : e.state.Placed) (since : ToldAligned before e)
    (c : Callback K R) : ToldAligned before (call surface.watched hints c e).2 := by
  cases c
  case showText bytes => exact ((placed_lasting before).showText bytes ⟨placed, since⟩).2
  case showTextAdjusted items => exact ((placed_lasting before).showAdjusted items ⟨placed, since⟩).2
  case save =>
    change ToldAligned before e.save.2
    rcases save_cases e with ⟨-, -, same⟩ | ⟨-, -, same⟩ <;> rw [same] <;> exact since
  case restore =>
    change ToldAligned before e.restore.2
    rcases restore_cases e with ⟨top, saved, -, -, same⟩ | ⟨-, -, same⟩ <;> rw [same] <;> exact since
  case concat m =>
    change ToldAligned before (((e.modify _).followMatrix).outsidePath "cm").2
    rw [outsidePath_snd]
    exact since
  case stroke closing | fillStroke closing rule =>
    cases closing <;> exact finishPath_toldAligned _ since
  case fill | endPath => exact finishPath_toldAligned _ since
  case parameters name parameters => cases parameters <;> exact since
  case drawXObject name xobject =>
    rcases xobject with _ | _ | _ | _
    case some.image => exact emit_toldAligned trivial since
    all_goals exact since
  case drawShading | drawInlineImage | markPoint | markPointWith | beginMarked | beginMarkedWith =>
    exact emit_toldAligned trivial since
  case endMarked =>
    simp only [call, endMarked]
    split
    · exact since
    · exact emit_toldAligned trivial since
  case lineTo x y => simp only [call, lineTo]; split <;> exact since
  case curveTo | curveFromCurrent | curveIntoEnd =>
    simp only [call, drawCurve]; split <;> exact since
  case colorSpace side name space => simp only [call, setColorSpace]; split <;> exact since
  case beginText => simp only [call, beginText]; split <;> exact since
  case endText => simp only [call, endText]; split <;> exact since
  all_goals exact since

theorem feed_toldAligned (placed : e.state.Placed) (since : ToldAligned before e)
    (calls : List (Callback K R)) :
    ToldAligned before (feed surface.watched hints calls e).2 := by
  induction calls generalizing e with
  | nil => exact since
  | cons c rest ih =>
    exact ih ((call_placed_iff _ _ _ c).mpr (.inl placed)) (call_toldAligned placed since c)

/-- After any callbacks the product that is kept is the product just when it was so at the start or a
callback has placed the text since; and as long as it is, all glyphs go where size, rise, text matrix
and current matrix put them. -/
theorem text_placed_iff (surface : Surface K σ) (hints : Bool) (initial : GraphicsState K)
    (limit : Nat) (s : σ) (calls later : List (Callback K R)) :
    ((feed surface hints calls (start initial limit s)).2.state.Placed ↔
      initial.Placed ∨
        ∃ entry ∈ (feed surface hints calls (start initial limit s)).1, entry.places = true) ∧
    ∀ e : Engine K (σ × List (Hook K)), e.state.Placed →
      ToldAligned e.surface.2 (feed surface.watched hints later e).2 := by
  constructor
  · exact feed_placed_iff surface hints (start initial limit s) calls
  · intro e placed
    exact feed_toldAligned placed ⟨[], (List.append_nil _).symm, by simp⟩ later

def doubledPage : GraphicsState ℚ := .initial ⟨2, 0, 0, 2, 0, 0⟩

def showA : List (Callback ℚ Unit) :=
  [.font "F" (some (.simple "F" 65 [500] 0)) 10, .showText [65]]

theorem text_placed_doubled :
    (feed (.silent ℚ) false (.beginText :: showA) (start doubledPage 500 ())).2.state.Placed ∧
      ToldAligned [] (feed (Surface.silent ℚ).watched false showA
        (feed (Surface.silent ℚ).watched false [(.beginText : Callback ℚ Unit)]
          (start doubledPage 500 ((), []))).2).2 := by
  obtain ⟨placed, aligned⟩ :=
    text_placed_iff (.silent ℚ) false doubledPage 500 () (.beginText :: showA) showA
  exact ⟨placed.mpr (.inr ⟨_, List.mem_cons_self, rfl⟩), aligned _ (by decide +kernel)⟩

/-- Without a callback that places text, the glyph is shown at its size on the page and not at twice
its size. -/
theorem doubledPage_misplaced :
    ¬ (feed (.silent ℚ) false showA (start doubledPage 500 ())).2.state.Placed ∧
      ∃ hook ∈ (feed (Surface.silent ℚ).watched false showA
        (start doubledPage 500 ((), []))).2.surface.2, ¬ hook.Aligned := by
  constructor
  · decide +kernel
  · refine ⟨_, List.mem_cons_self, ?_⟩
    unfold Hook.Aligned
    decide +kernel

end Engine
end PageMarks
