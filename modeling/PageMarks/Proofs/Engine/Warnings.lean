import PageMarks.Engine
import PageMarks.Proofs.Interpreter.Complaints

/-!
What an engine answers with a warning. It does not know which operation a callback is made for, so its
own warnings have none attached, and it hands on those of its surface as they are.
-/

namespace PageMarks

/-- The surface leaves it open which operation a warning is about. -/
def Surface.Unattached {K σ : Type} (surface : Surface K σ) : Prop :=
  ∀ hook s warning, (surface hook s).1 = .error (.warning warning) → warning.operator = none

namespace Engine

open Interpreter

variable {K R σ : Type}

def Unattached (answer : Outcome × Engine K σ) : Prop :=
  Warns (fun warning => warning.operator = none) answer.1

section

variable (e : Engine K σ)

theorem done_unattached : Unattached e.done := Warns.ok ()

theorem warn_unattached (code : WarningCode) (description : String) :
    Unattached (e.warn code description) := Warns.warning rfl

theorem outsidePath_unattached (operator : String) : Unattached (e.outsidePath operator) := by
  unfold outsidePath
  split
  · exact e.done_unattached
  · exact e.warn_unattached _ _

theorem save_unattached : Unattached e.save := by
  unfold save
  split
  · exact Warns.fatal _
  · exact outsidePath_unattached _ _

theorem drawCurve_unattached (operator : String) (f : PathBuilder K → PathBuilder K) :
    Unattached (e.drawCurve operator f) := by
  unfold drawCurve
  split
  · exact done_unattached _
  · exact warn_unattached _ _ _

theorem setColorSpace_unattached (side : Side) (name : String) (space : Option ColorSpace) :
    Unattached (e.setColorSpace side name space) := by
  unfold setColorSpace
  split
  · exact Warns.warning rfl
  · exact done_unattached _

theorem endText_unattached : Unattached e.endText := by
  unfold endText
  split
  · exact done_unattached _
  · exact warn_unattached _ _ _

variable [Scalar K]

theorem restore_unattached : Unattached e.restore := by
  unfold restore
  split
  · exact Warns.fatal _
  · exact outsidePath_unattached _ _

theorem lineTo_unattached (x y : K) : Unattached (e.lineTo x y) := by
  unfold lineTo
  split
  · exact done_unattached _
  · exact warn_unattached _ _ _

theorem beginText_unattached : Unattached e.beginText := by
  unfold beginText
  dsimp only
  split
  · exact warn_unattached _ _ _
  · exact done_unattached _

end

section

variable {surface : Surface K σ} (unattached : surface.Unattached)
include unattached

theorem emit_unattached (hook : Hook K) (e : Engine K σ) : Unattached (e.emit surface hook) :=
  unattached hook e.surface

theorem paintPath_unattached (path : Path K) (degenerate : Bool) (op : PaintOp) (e : Engine K σ) :
    Unattached (e.paintPath surface path degenerate op) := by
  cases op with
  | stroke | fillStroke => exact emit_unattached unattached _ e
  | noPaint => exact done_unattached e
  | fill rule =>
    have filled := emit_unattached unattached (.fillPath path rule e.state) e
    unfold paintPath
    dsimp only
    generalize e.emit surface (.fillPath path rule e.state) = answer at filled
    rcases answer with ⟨_ | ⟨⟨⟩⟩, after⟩
    · exact filled
    · dsimp only
      split
      · exact emit_unattached unattached _ after
      · exact done_unattached after

theorem endMarked_unattached (e : Engine K σ) : Unattached (e.endMarked surface) := by
  unfold endMarked
  split
  · exact warn_unattached _ _ _
  · exact emit_unattached unattached _ _

variable [Scalar K]

theorem finishPath_unattached (hints : Bool) (op : PaintOp) (e : Engine K σ) :
    Unattached (e.finishPath surface hints op) := by
  let fresh : Engine K σ := { e with path := e.path.reset, pendingClip := none, phase := .noPath }
  have painted : Unattached (if e.path.path.isEmpty then fresh.done
      else fresh.paintPath surface e.path.path e.path.isDegenerate op) := by
    split
    · exact done_unattached _
    · exact paintPath_unattached unattached _ _ _ _
  unfold finishPath
  dsimp only
  generalize (if e.path.path.isEmpty then fresh.done
    else fresh.paintPath surface e.path.path e.path.isDegenerate op) = answer at painted ⊢
  cases e.pendingClip with
  | none => exact painted
  | some rule =>
    unfold installClip
    dsimp only
    split
    · exact emit_unattached unattached _ _
    · exact painted

theorem showGlyphs_unattached (glyphs : List (Glyph K)) (e : Engine K σ) :
    Unattached (e.showGlyphs surface glyphs) := by
  induction glyphs generalizing e with
  | nil => exact done_unattached e
  | cons glyph rest ih =>
    have shown := emit_unattached unattached
      (.showGlyph glyph e.state.text.renderingMatrix e.state) e
    unfold showGlyphs
    generalize e.emit surface (.showGlyph glyph e.state.text.renderingMatrix e.state) = answer at shown
    rcases answer with ⟨_ | ⟨⟨⟩⟩, after⟩
    · exact shown
    · exact ih _

theorem showBytes_unattached (bytes : Bytes) (e : Engine K σ) :
    Unattached (e.showBytes surface bytes) := by
  unfold showBytes
  split
  · exact done_unattached e
  · exact showGlyphs_unattached unattached _ e

theorem showText_unattached (bytes : Bytes) (e : Engine K σ) :
    Unattached (e.showText surface bytes) := by
  unfold showText
  split
  · exact showBytes_unattached unattached bytes e
  · exact warn_unattached _ _ _

theorem showItems_unattached (items : List (TextItem K)) (e : Engine K σ) :
    Unattached (e.showItems surface items) := by
  induction items generalizing e with
  | nil => exact done_unattached e
  | cons item rest ih =>
    cases item with
    | adjust value => exact ih _
    | text bytes =>
      have shown := showBytes_unattached unattached bytes e
      unfold showItems
      generalize e.showBytes surface bytes = answer at shown
      rcases answer with ⟨_ | ⟨⟨⟩⟩, after⟩
      · exact shown
      · exact ih after

theorem showAdjusted_unattached (items : List (TextItem K)) (e : Engine K σ) :
    Unattached (e.showAdjusted surface items) := by
  have shown := showItems_unattached unattached items e
  unfold showAdjusted
  generalize e.showItems surface items = answer at shown
  rcases answer with ⟨_ | ⟨⟨⟩⟩, after⟩
  · exact shown
  · dsimp only
    split
    · exact warn_unattached _ _ _
    · exact done_unattached _

theorem call_unattached (hints : Bool) (c : Callback K R) (e : Engine K σ) :
    Unattached (call surface hints c e) := by
  cases c
  case save => exact save_unattached e
  case restore => exact restore_unattached e
  case concat => exact outsidePath_unattached _ _
  case lineTo => exact lineTo_unattached e _ _
  case curveTo | curveFromCurrent | curveIntoEnd => exact drawCurve_unattached e _ _
  case stroke | fill | fillStroke | endPath => exact finishPath_unattached unattached hints _ _
  case colorSpace => exact setColorSpace_unattached e _ _ _
  case beginText => exact beginText_unattached e
  case endText => exact endText_unattached e
  case showText => exact showText_unattached unattached _ e
  case showTextAdjusted => exact showAdjusted_unattached unattached _ e
  case endMarked => exact endMarked_unattached unattached e
  case markPoint | markPointWith | beginMarked | beginMarkedWith | drawShading | drawInlineImage =>
    exact emit_unattached unattached _ _
  case parameters _ found => cases found <;> exact done_unattached _
  case drawXObject _ found =>
    rcases found with _ | _ | _ | _
    case some.image => exact emit_unattached unattached _ e
    all_goals exact done_unattached e
  case unknown => exact nofun
  all_goals exact done_unattached _

end
end Engine
end PageMarks
