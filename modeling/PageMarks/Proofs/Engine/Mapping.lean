import Mathlib.Data.List.Forall2
import PageMarks.Mark
import PageMarks.Proofs.Interpreter.Lockstep
import PageMarks.Proofs.Interpreter.ShownText
import PageMarks.Proofs.Path.Image

/-!
Engines under a matrix. An engine on a page whose space is mapped by a further matrix answers a
callback as the engine on the page itself does, and leaves the marks of that one mapped by the
matrix. Paths follow as they are built; text follows once a callback has placed it.
-/

namespace PageMarks

open Interpreter

variable {K R η : Type} [Scalar K]

/-- A mark and what becomes of it under a matrix. The bounds of the clip are left open: the box
around a mapped path need not be the mapped box. -/
inductive Mark.Moved (m : Matrix K) : Mark K → Mark K → Prop
  | path (path op zeroArea lineWidth stroke fill clip clip') :
    Moved m (.path path op zeroArea lineWidth stroke fill clip)
      (.path (Path.through m path) op zeroArea lineWidth stroke fill clip')
  | glyph (code width font size rendering color) :
    Moved m (.glyph code width font size rendering color)
      (.glyph code width font size (rendering.followedBy m) color)
  | image (name width height ctm) :
    Moved m (.image name width height ctm) (.image name width height (ctm.followedBy m))
  | inlineImage (width height ctm) :
    Moved m (.inlineImage width height ctm) (.inlineImage width height (ctm.followedBy m))
  | shading (name type ctm) : Moved m (.shading name type ctm) (.shading name type (ctm.followedBy m))
  | clipHint (path rule bounds bounds') :
    Moved m (.clipHint path rule bounds) (.clipHint (Path.through m path) rule bounds')
  | beginMarked (tag contentId) : Moved m (.beginMarked tag contentId) (.beginMarked tag contentId)
  | endMarked : Moved m .endMarked .endMarked
  | markPoint (tag) : Moved m (.markPoint tag) (.markPoint tag)

namespace Engine

variable (m : Matrix K)

/-- The same state on both pages. The matrix that is kept for text is tied to the page's once text
has been placed, and the clip never is. -/
def StateMoved (placed : Prop) (s₁ s₂ : GraphicsState K) : Prop :=
  ∃ clip globalMatrix,
    s₂ = { s₁ with
      ctm := s₁.ctm.followedBy m, clip, text := { s₁.text with globalMatrix } } ∧
    (placed → globalMatrix = s₁.text.globalMatrix.followedBy m)

/-- The same engine on both pages: `placed` says that text has been placed, and `shown` that none
was shown before. -/
structure Moved (placed shown : Prop) (e₁ e₂ : Engine K (List (Mark K))) : Prop where
  limit : e₁.stack.limit = e₂.stack.limit
  saved : List.Forall₂ (StateMoved m False) e₁.stack.saved e₂.stack.saved
  state : StateMoved m placed e₁.state e₂.state
  path : e₂.path = e₁.path.through m
  pendingClip : e₁.pendingClip = e₂.pendingClip
  phase : e₁.phase = e₂.phase
  marked : e₁.markedDepth = e₂.markedDepth
  marks : shown → List.Forall₂ (Mark.Moved m) e₁.surface e₂.surface

variable {m} {placed shown : Prop}

namespace StateMoved

variable {s₁ s₂ : GraphicsState K}

theorem mono {weaker : Prop} (moved : StateMoved m placed s₁ s₂) (less : weaker → placed) :
    StateMoved m weaker s₁ s₂ := by
  obtain ⟨clip, globalMatrix, same, tied⟩ := moved
  exact ⟨clip, globalMatrix, same, tied ∘ less⟩

theorem blind {f : GraphicsState K → GraphicsState K}
    (blind : ∀ s ctm clip globalMatrix,
      f { s with ctm, clip, text := { s.text with globalMatrix } } =
        { f s with ctm, clip, text := { (f s).text with globalMatrix } })
    (moved : StateMoved m placed s₁ s₂) : StateMoved m placed (f s₁) (f s₂) := by
  obtain ⟨clip, globalMatrix, rfl, tied⟩ := moved
  have untouched := blind s₁ s₁.ctm s₁.clip s₁.text.globalMatrix
  have ctm : s₁.ctm = (f s₁).ctm := (congrArg GraphicsState.ctm untouched).symm
  have product : s₁.text.globalMatrix = (f s₁).text.globalMatrix :=
    (congrArg (·.text.globalMatrix) untouched).symm
  refine ⟨clip, globalMatrix, ?_, fun now => ?_⟩
  · rw [← ctm]
    exact blind s₁ _ clip globalMatrix
  · rw [← product]
    exact tied now

end StateMoved

/-- A text operation that ties the product to the page's matrix. -/
def Ties (m : Matrix K) (f : Matrix K → TextState K → TextState K) : Prop :=
  ∀ ctm t globalMatrix, f (ctm.followedBy m) { t with globalMatrix } =
    { f ctm t with globalMatrix := (f ctm t).globalMatrix.followedBy m }

theorem StateMoved.placeText {f : Matrix K → TextState K → TextState K} {s₁ s₂ : GraphicsState K}
    (ties : Ties m f) (moved : StateMoved m placed s₁ s₂) :
    StateMoved m True { s₁ with text := f s₁.ctm s₁.text } { s₂ with text := f s₂.ctm s₂.text } := by
  obtain ⟨clip, globalMatrix, rfl, -⟩ := moved
  refine ⟨clip, (f s₁.ctm s₁.text).globalMatrix.followedBy m, ?_, fun _ => rfl⟩
  dsimp only
  rw [ties]

theorem beginObject_ties : Ties m TextState.beginObject := fun _ _ _ => rfl

section

variable [Scalar.Exact K]

theorem place_ties : Ties m TextState.place := by
  intro ctm t globalMatrix
  simp only [TextState.place, Matrix.followedBy_assoc]

theorem setMatrix_ties (matrix : Matrix K) : Ties m (TextState.setMatrix matrix) := by
  intro ctm t globalMatrix
  simp only [TextState.setMatrix, TextState.place, Matrix.followedBy_assoc]

theorem moveLine_ties (tx ty : K) : Ties m (TextState.moveLine tx ty) :=
  fun ctm t globalMatrix => setMatrix_ties _ ctm t globalMatrix

theorem moveLineSetLeading_ties (tx ty : K) : Ties m (TextState.moveLineSetLeading tx ty) :=
  fun ctm t globalMatrix => moveLine_ties tx ty ctm (t.setLeading (-ty)) globalMatrix

theorem nextLine_ties : Ties m TextState.nextLine :=
  fun ctm t globalMatrix => moveLine_ties Scalar.zero (-t.leading) ctm t globalMatrix

theorem StateMoved.advance {s₁ s₂ : GraphicsState K} (moved : StateMoved m placed s₁ s₂) (tx : K) :
    StateMoved m placed { s₁ with text := s₁.text.advance tx }
      { s₂ with text := s₂.text.advance tx } := by
  obtain ⟨clip, globalMatrix, rfl, tied⟩ := moved
  refine ⟨clip, (Matrix.translation tx Scalar.zero).followedBy globalMatrix, rfl, fun now => ?_⟩
  rw [tied now, ← Matrix.followedBy_assoc]
  rfl

end

namespace Moved

variable {e₁ e₂ : Engine K (List (Mark K))}

theorem mono {placed' shown' : Prop} (moved : Moved m placed shown e₁ e₂)
    (less : placed' → placed) (fewer : shown' → shown) : Moved m placed' shown' e₁ e₂ where
  limit := moved.limit
  saved := moved.saved
  state := moved.state.mono less
  path := moved.path
  pendingClip := moved.pendingClip
  phase := moved.phase
  marked := moved.marked
  marks := moved.marks ∘ fewer

theorem modify {placed' : Prop} {f₁ f₂ : GraphicsState K → GraphicsState K}
    (moved : Moved m placed shown e₁ e₂) (after : StateMoved m placed' (f₁ e₁.state) (f₂ e₂.state)) :
    Moved m placed' shown (e₁.modify f₁) (e₂.modify f₂) where
  limit := moved.limit
  saved := moved.saved
  state := after
  path := moved.path
  pendingClip := moved.pendingClip
  phase := moved.phase
  marked := moved.marked
  marks := moved.marks

theorem placeText {f : Matrix K → TextState K → TextState K} (moved : Moved m placed shown e₁ e₂)
    (ties : Ties m f) : Moved m True shown (e₁.placeText f) (e₂.placeText f) :=
  moved.modify (moved.state.placeText ties)

theorem withPath (moved : Moved m placed shown e₁ e₂) (path : PathBuilder K)
    (pendingClip : Option FillRule) (phase : PathPhase) :
    Moved m placed shown { e₁ with path, pendingClip, phase }
      { e₂ with path := path.through m, pendingClip, phase } where
  limit := moved.limit
  saved := moved.saved
  state := moved.state
  path := rfl
  pendingClip := rfl
  phase := rfl
  marked := moved.marked
  marks := moved.marks

theorem withMarked (moved : Moved m placed shown e₁ e₂) (markedDepth : Nat) :
    Moved m placed shown { e₁ with markedDepth } { e₂ with markedDepth } where
  limit := moved.limit
  saved := moved.saved
  state := moved.state
  path := moved.path
  pendingClip := moved.pendingClip
  phase := moved.phase
  marked := rfl
  marks := moved.marks

theorem emit {hook₁ hook₂ : Hook K} (moved : Moved m placed shown e₁ e₂)
    (mapped : shown → Mark.Moved m (Mark.ofHook hook₁) (Mark.ofHook hook₂)) :
    Alike (Moved m placed shown) (e₁.emit .recorder hook₁) (e₂.emit .recorder hook₂) where
  left := rfl
  right :=
    { limit := moved.limit
      saved := moved.saved
      state := moved.state
      path := moved.path
      pendingClip := moved.pendingClip
      phase := moved.phase
      marked := moved.marked
      marks now := List.rel_append (moved.marks now) (.cons (mapped now) .nil) }

end Moved

variable {e₁ e₂ : Engine K (List (Mark K))} (hints : Bool)

theorem ofPath_moved {s₁ s₂ : GraphicsState K} (moved : StateMoved m placed s₁ s₂) (path : Path K)
    (op : PaintOp) (zeroArea : Bool) :
    Mark.Moved m (Mark.ofPath path op zeroArea s₁)
      (Mark.ofPath (Path.through m path) op zeroArea s₂) := by
  obtain ⟨clip, globalMatrix, rfl, -⟩ := moved
  exact .path path op zeroArea _ _ _ _ _

theorem paintPath_moved (moved : Moved m placed shown e₁ e₂) (path : Path K) (degenerate : Bool)
    (op : PaintOp) :
    Alike (Moved m placed shown) (e₁.paintPath .recorder path degenerate op)
      (e₂.paintPath .recorder (Path.through m path) degenerate op) := by
  have mapped := ofPath_moved moved.state path
  cases op with
  | stroke => exact moved.emit fun _ => mapped .stroke false
  | fillStroke rule => exact moved.emit fun _ => mapped (.fillStroke rule) false
  | noPaint => exact ⟨rfl, moved⟩
  | fill rule =>
    have filled : Alike (Moved m placed shown) (e₁.emit .recorder (.fillPath path rule e₁.state))
        (e₂.emit .recorder (.fillPath (Path.through m path) rule e₂.state)) :=
      moved.emit fun _ => mapped (.fill rule) false
    cases degenerate with
    | false => exact filled
    | true => exact filled.2.emit fun _ => mapped .stroke true

theorem installClip_moved (moved : Moved m placed shown e₁ e₂) (path : Path K) (rule : FillRule)
    (painted : Outcome) :
    Alike (Moved m placed shown) (e₁.installClip .recorder hints path rule painted)
      (e₂.installClip .recorder hints (Path.through m path) rule painted) := by
  have cut : Moved m placed shown (e₁.modify fun s => { s with clip := s.clip.intersect path rule })
      (e₂.modify fun s => { s with clip := s.clip.intersect (Path.through m path) rule }) := by
    refine moved.modify ?_
    obtain ⟨clip, globalMatrix, same, tied⟩ := moved.state
    rw [same]
    exact ⟨clip.intersect (Path.through m path) rule, globalMatrix, rfl, tied⟩
  unfold installClip
  dsimp only
  split
  · exact cut.emit fun _ => .clipHint path rule _ _
  · exact ⟨rfl, cut⟩

theorem finishPath_moved (moved : Moved m placed shown e₁ e₂) (op : PaintOp) :
    Alike (Moved m placed shown) (e₁.finishPath .recorder hints op)
      (e₂.finishPath .recorder hints op) := by
  have painted : Alike (Moved m placed shown)
      (if e₁.path.path.isEmpty
        then ({ e₁ with path := e₁.path.reset, pendingClip := none, phase := .noPath } :
          Engine K (List (Mark K))).done
        else paintPath .recorder e₁.path.path e₁.path.isDegenerate op
          { e₁ with path := e₁.path.reset, pendingClip := none, phase := .noPath })
      (if e₁.path.path.isEmpty
        then ({ e₂ with path := e₁.path.reset.through m, pendingClip := none, phase := .noPath } :
          Engine K (List (Mark K))).done
        else paintPath .recorder (Path.through m e₁.path.path) e₁.path.isDegenerate op
          { e₂ with path := e₁.path.reset.through m, pendingClip := none, phase := .noPath }) := by
    have fresh := moved.withPath e₁.path.reset none .noPath
    split
    · exact ⟨rfl, fresh⟩
    · exact paintPath_moved fresh _ _ op
  unfold finishPath
  dsimp only
  rw [← moved.pendingClip, moved.path]
  simp only [show (e₁.path.through m).path = Path.through m e₁.path.path from rfl,
    PathBuilder.through_isEmpty, PathBuilder.through_isDegenerate, PathBuilder.through_reset]
  split
  · exact painted
  · rw [painted.1]
    exact installClip_moved hints painted.2 _ _ _

theorem build_moved {f : PathBuilder K → PathBuilder K} (moved : Moved m placed shown e₁ e₂)
    (maps : PathBuilder.Maps m f) : Moved m placed shown (e₁.build f) (e₂.build f) :=
  { moved with
    path := by
      change f e₂.path = (f e₁.path).through m
      rw [moved.path, maps] }

theorem beginPath_moved (moved : Moved m placed shown e₁ e₂) :
    Moved m placed shown e₁.beginPath e₂.beginPath :=
  { moved with
    phase := by
      change (if e₁.phase = _ then _ else e₁.phase) = if e₂.phase = _ then _ else e₂.phase
      rw [moved.phase] }

theorem draw_moved {f : PathBuilder K → PathBuilder K} (moved : Moved m placed shown e₁ e₂)
    (maps : PathBuilder.Maps m f) : Alike (Moved m placed shown) (e₁.draw f) (e₂.draw f) :=
  ⟨rfl, build_moved (beginPath_moved moved) maps⟩

theorem closeIf_moved (moved : Moved m placed shown e₁ e₂) (closing : Bool) :
    Moved m placed shown (e₁.closeIf closing) (e₂.closeIf closing) := by
  cases closing with
  | false => exact moved
  | true => exact build_moved moved (PathBuilder.close_maps m)

theorem drawCurve_moved {f : PathBuilder K → PathBuilder K} (moved : Moved m placed shown e₁ e₂)
    (operator : String) (maps : PathBuilder.Maps m f) :
    Alike (Moved m placed shown) (e₁.drawCurve operator f) (e₂.drawCurve operator f) := by
  unfold drawCurve
  rw [moved.path, PathBuilder.through_current_isSome]
  split
  · exact draw_moved moved maps
  · exact ⟨rfl, moved⟩

theorem outsidePath_moved (moved : Moved m placed shown e₁ e₂) (operator : String) :
    Alike (Moved m placed shown) (e₁.outsidePath operator) (e₂.outsidePath operator) := by
  unfold outsidePath
  rw [moved.phase]
  split <;> exact ⟨rfl, moved⟩

theorem save_moved (moved : Moved m placed shown e₁ e₂) :
    Alike (Moved m placed shown) e₁.save e₂.save := by
  unfold save StateStack.save StateStack.depth
  rw [moved.limit, moved.saved.length_eq]
  by_cases full : e₂.stack.limit ≤ e₂.stack.saved.length
  · simp only [if_pos full]
    exact ⟨rfl, moved⟩
  · simp only [if_neg full]
    refine outsidePath_moved ?_ "q"
    exact { moved with limit := rfl, saved := .cons (moved.state.mono False.elim) moved.saved }

theorem modify_moved {f : GraphicsState K → GraphicsState K} (moved : Moved m placed shown e₁ e₂)
    (blind : ∀ s ctm clip globalMatrix,
      f { s with ctm, clip, text := { s.text with globalMatrix } } =
        { f s with ctm, clip, text := { (f s).text with globalMatrix } }) :
    Alike (Moved m placed shown) (e₁.modify f).done (e₂.modify f).done :=
  ⟨rfl, moved.modify (moved.state.blind blind)⟩

theorem applyParameters_moved (moved : Moved m placed shown e₁ e₂) (p : Parameters K) :
    Alike (Moved m placed shown) (e₁.modify (.applyParameters p)).done
      (e₂.modify (.applyParameters p)).done := by
  refine modify_moved moved fun s ctm clip globalMatrix => ?_
  simp only [GraphicsState.applyParameters]
  cases p.fontSize <;> rfl

theorem modifyInk_moved (moved : Moved m placed shown e₁ e₂) (side : Side) (f : Ink → Ink) :
    Alike (Moved m placed shown) (e₁.modifyInk side f).done (e₂.modifyInk side f).done := by
  cases side with
  | stroke => exact modify_moved (f := fun s => { s with stroke := f s.stroke }) moved fun _ _ _ _ => rfl
  | fill => exact modify_moved (f := fun s => { s with fill := f s.fill }) moved fun _ _ _ _ => rfl

theorem setColorSpace_moved (moved : Moved m placed shown e₁ e₂) (side : Side) (name : String)
    (space : Option ColorSpace) :
    Alike (Moved m placed shown) (e₁.setColorSpace side name space)
      (e₂.setColorSpace side name space) := by
  unfold setColorSpace
  split
  · exact ⟨rfl, moved⟩
  · exact modifyInk_moved moved side _

theorem font_moved (moved : Moved m placed shown e₁ e₂) : e₁.font? = e₂.font? := by
  obtain ⟨clip, globalMatrix, same, -⟩ := moved.state
  rw [font?, font?, same]

theorem missingFont_moved (moved : Moved m placed shown e₁ e₂) :
    Alike (Moved m placed shown) e₁.missingFont e₂.missingFont := by
  obtain ⟨clip, globalMatrix, same, -⟩ := moved.state
  unfold missingFont
  rw [same]
  exact ⟨rfl, moved⟩

theorem inObject_moved (moved : Moved m placed shown e₁ e₂) :
    e₁.state.text.inObject = e₂.state.text.inObject := by
  obtain ⟨clip, globalMatrix, same, -⟩ := moved.state
  rw [same]

theorem emit_placed (moved : Moved m placed shown e₁ e₂) (hook : GraphicsState K → Hook K)
    (mapped : ∀ s₁ s₂ : GraphicsState K, s₂.ctm = s₁.ctm.followedBy m →
      Mark.Moved m (Mark.ofHook (hook s₁)) (Mark.ofHook (hook s₂))) :
    Alike (Moved m placed shown) (e₁.emit .recorder (hook e₁.state))
      (e₂.emit .recorder (hook e₂.state)) := by
  refine moved.emit fun _ => mapped _ _ ?_
  obtain ⟨clip, globalMatrix, same, -⟩ := moved.state
  rw [same]

section

variable [Scalar.Exact K]

theorem lineTo_moved (moved : Moved m placed shown e₁ e₂) (x y : K) :
    Alike (Moved m placed shown) (e₁.lineTo x y) (e₂.lineTo x y) := by
  unfold lineTo
  rw [moved.path, PathBuilder.through_current_isSome]
  split
  · exact draw_moved moved (PathBuilder.lineTo_maps m x y)
  · exact ⟨rfl, build_moved (beginPath_moved moved) (PathBuilder.moveTo_maps m x y)⟩

theorem followMatrix_moved (moved : Moved m placed shown e₁ e₂) :
    Moved m True shown e₁.followMatrix e₂.followMatrix := by
  have turned : Moved m placed shown { e₁ with path := e₁.path.setMatrix e₁.state.ctm }
      { e₂ with path := e₂.path.setMatrix e₂.state.ctm } := by
    obtain ⟨clip, globalMatrix, same, -⟩ := moved.state
    refine { moved with path := ?_ }
    change e₂.path.setMatrix e₂.state.ctm = (e₁.path.setMatrix e₁.state.ctm).through m
    rw [same, moved.path]
    exact PathBuilder.through_setMatrix m _ _
  exact turned.placeText place_ties

theorem concat_moved (moved : Moved m placed shown e₁ e₂) (matrix : Matrix K) :
    Alike (Moved m True shown) (e₁.concat matrix) (e₂.concat matrix) := by
  have deeper : Moved m placed shown
      (e₁.modify fun s => { s with ctm := matrix.followedBy s.ctm })
      (e₂.modify fun s => { s with ctm := matrix.followedBy s.ctm }) := by
    refine moved.modify ?_
    obtain ⟨clip, globalMatrix, same, tied⟩ := moved.state
    rw [same]
    exact ⟨clip, globalMatrix, by rw [Matrix.followedBy_assoc], tied⟩
  exact outsidePath_moved (followMatrix_moved deeper) "cm"

theorem restore_moved (moved : Moved m placed shown e₁ e₂) :
    Alike (Moved m (placed ∨ accepted e₁.restore.1 = true) shown) e₁.restore e₂.restore := by
  unfold restore StateStack.restore
  have saved := moved.saved
  rcases found₁ : e₁.stack.saved with _ | ⟨top₁, saved₁⟩ <;>
    rcases found₂ : e₂.stack.saved with _ | ⟨top₂, saved₂⟩ <;> rw [found₁, found₂] at saved
  · exact ⟨rfl, moved.mono (by simp [accepted]) id⟩
  · cases saved
  · cases saved
  · cases saved with
    | cons top below =>
      have popped : Moved m False shown
          { e₁ with stack := { e₁.stack with current := top₁, saved := saved₁ } }
          { e₂ with stack := { e₂.stack with current := top₂, saved := saved₂ } } :=
        { moved with saved := below, state := top }
      have after := outsidePath_moved (followMatrix_moved popped) "Q"
      exact ⟨after.1, after.2.mono (fun _ => trivial) id⟩

theorem showGlyph_moved {s₁ s₂ : GraphicsState K} (moved : StateMoved m placed s₁ s₂)
    (now : placed) (glyph : Glyph K) :
    Mark.Moved m (Mark.ofHook (.showGlyph glyph s₁.text.renderingMatrix s₁))
      (Mark.ofHook (.showGlyph glyph s₂.text.renderingMatrix s₂)) := by
  obtain ⟨clip, globalMatrix, rfl, tied⟩ := moved
  simp only [Mark.ofHook, TextState.renderingMatrix, tied now, ← Matrix.followedBy_assoc]
  exact .glyph _ _ _ _ _ _

theorem Moved.advance {f : TextState K → K} (moved : Moved m placed shown e₁ e₂)
    (blind : ∀ t globalMatrix, f { t with globalMatrix } = f t) :
    Moved m placed shown (e₁.modifyText fun t => t.advance (f t))
      (e₂.modifyText fun t => t.advance (f t)) := by
  have same : f e₂.state.text = f e₁.state.text := by
    obtain ⟨clip, globalMatrix, same, -⟩ := moved.state
    rw [same]
    exact blind _ _
  refine moved.modify ?_
  dsimp only
  rw [same]
  exact moved.state.advance (f e₁.state.text)

variable (tied : shown → placed)
include tied

theorem showGlyphs_moved (moved : Moved m placed shown e₁ e₂) (glyphs : List (Glyph K)) :
    Alike (Moved m placed shown) (e₁.showGlyphs .recorder glyphs)
      (e₂.showGlyphs .recorder glyphs) := by
  induction glyphs generalizing e₁ e₂ with
  | nil => exact ⟨rfl, moved⟩
  | cons glyph rest ih =>
    have marked := moved.emit fun now => showGlyph_moved moved.state (tied now) glyph
    exact ih (marked.2.advance fun _ _ => rfl)

theorem showBytes_moved (moved : Moved m placed shown e₁ e₂) (bytes : Bytes) :
    Alike (Moved m placed shown) (e₁.showBytes .recorder bytes)
      (e₂.showBytes .recorder bytes) := by
  unfold showBytes
  rw [font_moved moved]
  split
  · exact ⟨rfl, moved⟩
  · exact showGlyphs_moved tied moved _

theorem showText_moved (moved : Moved m placed shown e₁ e₂) (bytes : Bytes) :
    Alike (Moved m placed shown) (e₁.showText .recorder bytes) (e₂.showText .recorder bytes) := by
  unfold showText
  rw [font_moved moved]
  split
  · exact showBytes_moved tied moved bytes
  · exact missingFont_moved moved

theorem showItems_moved (moved : Moved m placed shown e₁ e₂) (items : List (TextItem K)) :
    Alike (Moved m placed shown) (e₁.showItems .recorder items)
      (e₂.showItems .recorder items) := by
  induction items generalizing e₁ e₂ with
  | nil => exact ⟨rfl, moved⟩
  | cons item rest ih =>
    cases item with
    | adjust value => exact ih (moved.advance fun _ _ => rfl)
    | text bytes =>
      obtain ⟨answer, v₁, v₂, r₁, r₂, after⟩ := (showBytes_moved tied moved bytes).split
      simp only [showItems, r₁, r₂]
      cases answer with
      | error => exact ⟨rfl, after⟩
      | ok => exact ih after

theorem showAdjusted_moved (moved : Moved m placed shown e₁ e₂) (items : List (TextItem K)) :
    Alike (Moved m placed shown) (e₁.showAdjusted .recorder items)
      (e₂.showAdjusted .recorder items) := by
  obtain ⟨answer, v₁, v₂, r₁, r₂, after⟩ := (showItems_moved tied moved items).split
  simp only [showAdjusted, r₁, r₂, font_moved moved]
  rcases answer with _ | ⟨⟨⟩⟩
  · exact ⟨rfl, after⟩
  · dsimp only
    split
    · exact missingFont_moved after
    · exact ⟨rfl, after⟩

end

theorem Moved.weaken {α : Type} {placed' shown' : Prop}
    {x y : α × Engine K (List (Mark K))} (alike : Alike (Moved m placed shown) x y)
    (less : placed' → placed) (fewer : shown' → shown) : Alike (Moved m placed' shown') x y :=
  ⟨alike.1, alike.2.mono less fewer⟩

section

variable [Scalar.Exact K]

theorem call_still {c : Callback K R} (moved : Moved m placed shown e₁ e₂)
    (still : ∀ answer, (Entry.call c answer).places = false)
    (silent : ∀ answer, (Entry.call c answer).shows = false) :
    Alike (Moved m placed shown) (call .recorder hints c e₁) (call .recorder hints c e₂) := by
  cases c
  case save => exact save_moved moved
  case restore | concat | beginText | moveText | moveTextSetLeading | textMatrix | nextLine =>
    cases still (.ok ())
  case showText | showTextAdjusted => cases silent (.ok ())
  case parameters name parameters =>
    cases parameters with
    | none => exact ⟨rfl, moved⟩
    | some p => exact applyParameters_moved moved p
  case lineWidth | lineCap | lineJoin | miterLimit | dash | renderingIntent | flatness =>
    exact modify_moved moved fun _ _ _ _ => rfl
  case moveTo x y => exact draw_moved moved (PathBuilder.moveTo_maps m x y)
  case rectangle x y width height =>
    exact draw_moved moved (PathBuilder.rectangle_maps m x y width height)
  case lineTo x y => exact lineTo_moved moved x y
  case curveTo => exact drawCurve_moved moved _ (PathBuilder.curveTo_maps m _ _ _ _ _ _)
  case curveFromCurrent =>
    exact drawCurve_moved moved _ (PathBuilder.curveFromCurrent_maps m _ _ _ _)
  case curveIntoEnd => exact drawCurve_moved moved _ (PathBuilder.curveIntoEnd_maps m _ _ _ _)
  case closePath => exact ⟨rfl, build_moved moved (PathBuilder.close_maps m)⟩
  case stroke closing | fillStroke closing rule =>
    exact finishPath_moved hints (closeIf_moved moved closing) _
  case fill | endPath => exact finishPath_moved hints moved _
  case clip rule =>
    refine ⟨rfl, ?_⟩
    have pending := moved.withPath e₁.path (some rule) .clipPending
    rw [← moved.path] at pending
    exact pending
  case colorSpace side name space => exact setColorSpace_moved moved side name space
  case color side _ | pattern side _ _ _ | deviceColor side _ _ => exact modifyInk_moved moved side _
  case endText =>
    simp only [call, endText, inObject_moved moved]
    split
    · exact modify_moved (f := fun s => { s with text := s.text.endObject }) moved fun _ _ _ _ => rfl
    · exact ⟨rfl, moved⟩
  case charSpacing | wordSpacing | horizontalScaling | leading | font | renderMode | rise =>
    exact modify_moved moved fun _ _ _ _ => rfl
  case markPoint | markPointWith => exact moved.emit fun _ => .markPoint _
  case beginMarked | beginMarkedWith =>
    have deeper := moved.withMarked (e₁.markedDepth + 1)
    simp only [call, beginMarked, ← moved.marked]
    exact deeper.emit fun _ => .beginMarked _ _
  case endMarked =>
    simp only [call, endMarked, ← moved.marked]
    split
    · exact ⟨rfl, moved⟩
    · exact (moved.withMarked _).emit fun _ => .endMarked
  case drawXObject name xobject =>
    rcases xobject with _ | _ | image | _
    case some.image =>
      refine emit_placed moved (.drawImage name image) fun s₁ s₂ same => ?_
      simp only [Mark.ofHook, same]
      exact .image _ _ _ _
    all_goals exact ⟨rfl, moved⟩
  case drawShading name shading =>
    refine emit_placed moved (.drawShading name shading) fun s₁ s₂ same => ?_
    simp only [Mark.ofHook, same]
    exact .shading _ _ _
  case drawInlineImage image space =>
    refine emit_placed moved (.drawInlineImage image space) fun s₁ s₂ same => ?_
    simp only [Mark.ofHook, same]
    exact .inlineImage _ _ _
  all_goals exact ⟨rfl, moved⟩

theorem call_moved (moved : Moved m placed shown e₁ e₂) (c : Callback K R) :
    Alike
      (Moved m (placed ∨ (Entry.call c (call .recorder hints c e₁).1).places = true)
        (shown ∧ ((Entry.call c (call .recorder hints c e₁).1).shows = true → placed)))
      (call .recorder hints c e₁) (call .recorder hints c e₂) := by
  have tied {x y : Outcome × Engine K (List (Mark K))} (alike : Alike (Moved m True shown) x y) :
      Alike (Moved m (placed ∨ (Entry.call c (call .recorder hints c e₁).1).places = true)
        (shown ∧ ((Entry.call c (call .recorder hints c e₁).1).shows = true → placed))) x y :=
    Moved.weaken alike (fun _ => trivial) And.left
  cases c
  case restore => exact Moved.weaken (restore_moved moved) id And.left
  case concat matrix => exact tied (concat_moved moved matrix)
  case beginText =>
    have begun := moved.placeText beginObject_ties
    refine tied ?_
    simp only [call, beginText, inObject_moved moved]
    split <;> exact ⟨rfl, begun⟩
  case moveText tx ty => exact tied ⟨rfl, moved.placeText (moveLine_ties tx ty)⟩
  case moveTextSetLeading tx ty => exact tied ⟨rfl, moved.placeText (moveLineSetLeading_ties tx ty)⟩
  case textMatrix matrix => exact tied ⟨rfl, moved.placeText (setMatrix_ties matrix)⟩
  case nextLine => exact tied ⟨rfl, moved.placeText nextLine_ties⟩
  case showText bytes =>
    have narrower : Moved m placed (shown ∧ placed) e₁ e₂ := moved.mono id And.left
    refine Moved.weaken (showText_moved And.right narrower bytes) (by simp [Entry.places]) ?_
    exact fun told => ⟨told.1, told.2 rfl⟩
  case showTextAdjusted items =>
    have narrower : Moved m placed (shown ∧ placed) e₁ e₂ := moved.mono id And.left
    refine Moved.weaken (showAdjusted_moved And.right narrower items) (by simp [Entry.places]) ?_
    exact fun told => ⟨told.1, told.2 rfl⟩
  all_goals
    refine Moved.weaken (call_still hints moved (fun _ => rfl) fun _ => rfl) ?_ And.left
    simp [Entry.places]

end
end Engine
end PageMarks
