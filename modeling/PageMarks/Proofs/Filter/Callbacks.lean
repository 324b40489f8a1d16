import PageMarks.Proofs.Filter.Agreement

/-!
Callbacks on engines that agree. An engine that gets a callback of a suppressed category while the
other does not stays in agreement with it, and so do two engines that both get any other callback.
-/

namespace PageMarks.Filter

open Interpreter Engine

variable {K R : Type} {S : Categories}

/-- What is left of an answer when its warning has been heard. -/
def gist : Outcome → Outcome
  | .error (.warning _) => .ok ()
  | other => other

/-- Answers that differ in a warning at most, from engines that agree. -/
def Close (S : Categories) (x y : Outcome × Engine K (List (Mark K))) : Prop :=
  gist x.1 = gist y.1 ∧ Agrees S x.2 y.2

/-- An answer that is no more than a warning, from an engine that agrees with another. -/
def Missed (S : Categories) (e₂ : Engine K (List (Mark K)))
    (x : Outcome × Engine K (List (Mark K))) : Prop :=
  gist x.1 = .ok () ∧ Agrees S x.2 e₂

theorem close_of_alike {x y : Outcome × Engine K (List (Mark K))} (alike : Alike (Agrees S) x y) :
    Close S x y :=
  ⟨congrArg gist alike.1, alike.2⟩

variable [Scalar K] {e₁ e₂ : Engine K (List (Mark K))} (hints : Bool)

theorem ofPath_agrees {s₁ s₂ : GraphicsState K} (agree : StateAgrees S s₁ s₂)
    (shown : S .paths = false) (path : Path K) (op : PaintOp) (zeroArea : Bool) :
    Mark.ofPath path op zeroArea s₁ = Mark.ofPath path op zeroArea s₂ := by
  obtain ⟨clip, text, rfl, sameClip, -⟩ := agree
  rw [Mark.ofPath, sameClip shown]
  rfl

theorem paintPath_missed (agree : Agrees S e₁ e₂) (hidden : S .paths = true) (path : Path K)
    (degenerate : Bool) (op : PaintOp) :
    Missed S e₂ (e₁.paintPath .recorder path degenerate op) := by
  cases op with
  | stroke | fillStroke => exact ⟨rfl, agree.emit_left hidden⟩
  | noPaint => exact ⟨rfl, agree⟩
  | fill rule =>
    have filled : Agrees S (e₁.emit .recorder (.fillPath path rule e₁.state)).2 e₂ :=
      agree.emit_left hidden
    cases degenerate with
    | false => exact ⟨rfl, filled⟩
    | true => exact ⟨rfl, filled.emit_left hidden⟩

theorem paintPath_alike (agree : Agrees S e₁ e₂) (shown : S .paths = false) (path : Path K)
    (degenerate : Bool) (op : PaintOp) :
    Alike (Agrees S) (e₁.paintPath .recorder path degenerate op)
      (e₂.paintPath .recorder path degenerate op) := by
  have same := ofPath_agrees agree.state shown path
  cases op with
  | stroke => exact agree.emit (same .stroke false) shown
  | fillStroke rule => exact agree.emit (same (.fillStroke rule) false) shown
  | noPaint => exact ⟨rfl, agree⟩
  | fill rule =>
    have filled : Alike (Agrees S) (e₁.emit .recorder (.fillPath path rule e₁.state))
        (e₂.emit .recorder (.fillPath path rule e₂.state)) :=
      agree.emit (same (.fill rule) false) shown
    cases degenerate with
    | false => exact filled
    | true => exact filled.2.emit (same .stroke true) shown

theorem installClip_missed (agree : Agrees S e₁ e₂) (hidden : S .paths = true) (path : Path K)
    (rule : FillRule) {painted : Outcome} (fine : gist painted = .ok ()) :
    Missed S e₂ (e₁.installClip .recorder hints path rule painted) := by
  have cut := agree.clip_left hidden (·.intersect path rule)
  unfold installClip
  dsimp only
  split
  · exact ⟨rfl, cut.emit_left hidden⟩
  · exact ⟨fine, cut⟩

theorem installClip_alike (agree : Agrees S e₁ e₂) (shown : S .paths = false) (path : Path K)
    (rule : FillRule) (painted : Outcome) :
    Alike (Agrees S) (e₁.installClip .recorder hints path rule painted)
      (e₂.installClip .recorder hints path rule painted) := by
  have cut : Agrees S (e₁.modify fun s => { s with clip := s.clip.intersect path rule })
      (e₂.modify fun s => { s with clip := s.clip.intersect path rule }) := by
    refine agree.modify ?_
    obtain ⟨clip, text, state, sameClip, sameText⟩ := agree.state
    rw [state]
    refine ⟨clip.intersect path rule, text, rfl, fun _ => ?_, sameText⟩
    rw [sameClip shown]
  unfold installClip
  dsimp only
  split
  · refine cut.emit ?_ shown
    rw [Mark.ofHook, cut.state.clip shown]
    rfl
  · exact ⟨rfl, cut⟩

theorem finishPath_missed (agree : Agrees S e₁ e₂) (hidden : S .paths = true) (op : PaintOp) :
    Missed S e₂ (e₁.finishPath .recorder hints op) := by
  have fresh := agree.path_left hidden e₁.path.reset none .noPath
  have painted : Missed S e₂ (if e₁.path.path.isEmpty
      then ({ e₁ with path := e₁.path.reset, pendingClip := none, phase := .noPath } :
        Engine K (List (Mark K))).done
      else paintPath .recorder e₁.path.path e₁.path.isDegenerate op
        { e₁ with path := e₁.path.reset, pendingClip := none, phase := .noPath }) := by
    split
    · exact ⟨rfl, fresh⟩
    · exact paintPath_missed fresh hidden _ _ op
  unfold finishPath
  dsimp only
  split
  · exact painted
  · exact installClip_missed hints painted.2 hidden _ _ painted.1

theorem finishPath_alike (agree : Agrees S e₁ e₂) (shown : S .paths = false) (op : PaintOp) :
    Alike (Agrees S) (e₁.finishPath .recorder hints op) (e₂.finishPath .recorder hints op) := by
  obtain ⟨path, clip, -⟩ := agree.path shown
  have fresh : Agrees S { e₁ with path := e₂.path.reset, pendingClip := none, phase := .noPath }
      { e₂ with path := e₂.path.reset, pendingClip := none, phase := .noPath } :=
    agree.withPath fun _ => ⟨rfl, rfl, rfl⟩
  have painted : Alike (Agrees S)
      (if e₂.path.path.isEmpty
        then ({ e₁ with path := e₂.path.reset, pendingClip := none, phase := .noPath } :
          Engine K (List (Mark K))).done
        else paintPath .recorder e₂.path.path e₂.path.isDegenerate op
          { e₁ with path := e₂.path.reset, pendingClip := none, phase := .noPath })
      (if e₂.path.path.isEmpty
        then ({ e₂ with path := e₂.path.reset, pendingClip := none, phase := .noPath } :
          Engine K (List (Mark K))).done
        else paintPath .recorder e₂.path.path e₂.path.isDegenerate op
          { e₂ with path := e₂.path.reset, pendingClip := none, phase := .noPath }) := by
    split
    · exact ⟨rfl, fresh⟩
    · exact paintPath_alike fresh shown _ _ op
  unfold finishPath
  dsimp only
  rw [path, clip]
  split
  · exact painted
  · rw [painted.1]
    exact installClip_alike hints painted.2 shown _ _ _

theorem showGlyph_agrees {s₁ s₂ : GraphicsState K} (agree : StateAgrees S s₁ s₂)
    (shown : S .text = false) (glyph : Glyph K) :
    Mark.ofHook (.showGlyph glyph s₁.text.renderingMatrix s₁) =
      Mark.ofHook (.showGlyph glyph s₂.text.renderingMatrix s₂) := by
  obtain ⟨clip, text, rfl, -, sameText⟩ := agree
  simp only [Mark.ofHook, sameText shown]

omit [Scalar K] in
theorem font_agrees (agree : Agrees S e₁ e₂) (shown : S .text = false) : e₁.font? = e₂.font? := by
  rw [font?, font?, agree.state.text shown]

theorem showGlyphs_ok (glyphs : List (Glyph K)) (e : Engine K (List (Mark K))) :
    (e.showGlyphs .recorder glyphs).1 = .ok () := by
  induction glyphs generalizing e with
  | nil => rfl
  | cons glyph rest ih => exact ih _

theorem showBytes_ok (bytes : Bytes) (e : Engine K (List (Mark K))) :
    (e.showBytes .recorder bytes).1 = .ok () := by
  unfold showBytes
  split
  · rfl
  · exact showGlyphs_ok _ e

theorem showGlyphs_missed (agree : Agrees S e₁ e₂) (hidden : S .text = true)
    (glyphs : List (Glyph K)) : Agrees S (e₁.showGlyphs .recorder glyphs).2 e₂ := by
  induction glyphs generalizing e₁ with
  | nil => exact agree
  | cons glyph rest ih =>
    have marked : Agrees S (e₁.emit .recorder
        (.showGlyph glyph e₁.state.text.renderingMatrix e₁.state)).2 e₂ := agree.emit_left hidden
    exact ih (marked.text_left hidden _)

theorem showGlyphs_alike (agree : Agrees S e₁ e₂) (shown : S .text = false)
    (glyphs : List (Glyph K)) :
    Alike (Agrees S) (e₁.showGlyphs .recorder glyphs) (e₂.showGlyphs .recorder glyphs) := by
  induction glyphs generalizing e₁ e₂ with
  | nil => exact ⟨rfl, agree⟩
  | cons glyph rest ih =>
    have marked := agree.emit (showGlyph_agrees agree.state shown glyph) shown
    exact ih (marked.2.modifyText fun _ => rfl)

theorem showBytes_missed (agree : Agrees S e₁ e₂) (hidden : S .text = true) (bytes : Bytes) :
    Agrees S (e₁.showBytes .recorder bytes).2 e₂ := by
  unfold showBytes
  split
  · exact agree
  · exact showGlyphs_missed agree hidden _

theorem showBytes_alike (agree : Agrees S e₁ e₂) (shown : S .text = false) (bytes : Bytes) :
    Alike (Agrees S) (e₁.showBytes .recorder bytes) (e₂.showBytes .recorder bytes) := by
  unfold showBytes
  rw [font_agrees agree shown]
  split
  · exact ⟨rfl, agree⟩
  · exact showGlyphs_alike agree shown _

theorem showItems_ok (items : List (TextItem K)) (e : Engine K (List (Mark K))) :
    (e.showItems .recorder items).1 = .ok () := by
  induction items generalizing e with
  | nil => rfl
  | cons item rest ih =>
    cases item with
    | adjust value => exact ih _
    | text bytes =>
      have fine := showBytes_ok bytes e
      rcases result : e.showBytes .recorder bytes with ⟨_ | ⟨⟨⟩⟩, after⟩
      · rw [result] at fine
        cases fine
      · simp only [showItems, result]
        exact ih after

theorem showItems_missed (agree : Agrees S e₁ e₂) (hidden : S .text = true)
    (items : List (TextItem K)) : Agrees S (e₁.showItems .recorder items).2 e₂ := by
  induction items generalizing e₁ with
  | nil => exact agree
  | cons item rest ih =>
    cases item with
    | adjust value => exact ih (agree.text_left hidden _)
    | text bytes =>
      have missed := showBytes_missed agree hidden bytes
      rcases result : e₁.showBytes .recorder bytes with ⟨_ | ⟨⟨⟩⟩, after⟩
      · simpa only [showItems, result] using missed
      · rw [result] at missed
        simp only [showItems, result]
        exact ih missed

theorem showItems_alike (agree : Agrees S e₁ e₂) (shown : S .text = false)
    (items : List (TextItem K)) :
    Alike (Agrees S) (e₁.showItems .recorder items) (e₂.showItems .recorder items) := by
  induction items generalizing e₁ e₂ with
  | nil => exact ⟨rfl, agree⟩
  | cons item rest ih =>
    cases item with
    | adjust value => exact ih (agree.modifyText fun _ => rfl)
    | text bytes =>
      obtain ⟨answer, v₁, v₂, r₁, r₂, after⟩ := (showBytes_alike agree shown bytes).split
      simp only [showItems, r₁, r₂]
      cases answer with
      | error => exact ⟨rfl, after⟩
      | ok => exact ih after

omit [Scalar K] in
theorem missingFont_alike (agree : Agrees S e₁ e₂) (shown : S .text = false) :
    Alike (Agrees S) e₁.missingFont e₂.missingFont := by
  unfold missingFont
  rw [agree.state.text shown]
  exact ⟨rfl, agree⟩

theorem showText_missed (agree : Agrees S e₁ e₂) (hidden : S .text = true) (bytes : Bytes) :
    Missed S e₂ (e₁.showText .recorder bytes) := by
  unfold showText
  split
  · exact ⟨congrArg gist (showBytes_ok bytes e₁), showBytes_missed agree hidden bytes⟩
  · exact ⟨rfl, agree⟩

theorem showText_alike (agree : Agrees S e₁ e₂) (shown : S .text = false) (bytes : Bytes) :
    Alike (Agrees S) (e₁.showText .recorder bytes) (e₂.showText .recorder bytes) := by
  unfold showText
  rw [font_agrees agree shown]
  split
  · exact showBytes_alike agree shown bytes
  · exact missingFont_alike agree shown

theorem showAdjusted_missed (agree : Agrees S e₁ e₂) (hidden : S .text = true)
    (items : List (TextItem K)) : Missed S e₂ (e₁.showAdjusted .recorder items) := by
  have fine := showItems_ok items e₁
  have missed := showItems_missed agree hidden items
  rcases result : e₁.showItems .recorder items with ⟨_ | ⟨⟨⟩⟩, after⟩
  · rw [result] at fine
    cases fine
  · rw [result] at missed
    simp only [showAdjusted, result]
    split <;> exact ⟨rfl, missed⟩

theorem showAdjusted_alike (agree : Agrees S e₁ e₂) (shown : S .text = false)
    (items : List (TextItem K)) :
    Alike (Agrees S) (e₁.showAdjusted .recorder items) (e₂.showAdjusted .recorder items) := by
  obtain ⟨answer, v₁, v₂, r₁, r₂, after⟩ := (showItems_alike agree shown items).split
  simp only [showAdjusted, r₁, r₂, font_agrees agree shown]
  rcases answer with _ | ⟨⟨⟩⟩
  · exact ⟨rfl, after⟩
  · dsimp only
    split
    · exact missingFont_alike after shown
    · exact ⟨rfl, after⟩

omit [Scalar K] in
theorem closeIf_missed (agree : Agrees S e₁ e₂) (hidden : S .paths = true) (closing : Bool) :
    Agrees S (e₁.closeIf closing) e₂ := by
  cases closing with
  | false => exact agree
  | true => exact agree.path_left hidden _ _ _

omit [Scalar K] in
theorem draw_missed (agree : Agrees S e₁ e₂) (hidden : S .paths = true)
    (f : PathBuilder K → PathBuilder K) : Missed S e₂ (e₁.draw f) :=
  ⟨rfl, agree.path_left hidden _ _ _⟩

theorem lineTo_missed (agree : Agrees S e₁ e₂) (hidden : S .paths = true) (x y : K) :
    Missed S e₂ (e₁.lineTo x y) := by
  unfold lineTo
  split
  · exact draw_missed agree hidden _
  · exact ⟨rfl, agree.path_left hidden _ _ _⟩

omit [Scalar K] in
theorem drawCurve_missed (agree : Agrees S e₁ e₂) (hidden : S .paths = true) (operator : String)
    (f : PathBuilder K → PathBuilder K) : Missed S e₂ (e₁.drawCurve operator f) := by
  unfold drawCurve
  split
  · exact draw_missed agree hidden f
  · exact ⟨rfl, agree⟩

omit [Scalar K] in
theorem build_agrees (agree : Agrees S e₁ e₂) (shown : S .paths = false)
    (f : PathBuilder K → PathBuilder K) : Agrees S (e₁.build f) (e₂.build f) := by
  obtain ⟨path, clip, phase⟩ := agree.path shown
  exact agree.withPath fun _ => ⟨congrArg f path, clip, phase⟩

omit [Scalar K] in
theorem beginPath_agrees (agree : Agrees S e₁ e₂) (shown : S .paths = false) :
    Agrees S e₁.beginPath e₂.beginPath := by
  obtain ⟨path, clip, phase⟩ := agree.path shown
  exact agree.withPath fun _ => ⟨path, clip, by rw [phase]⟩

omit [Scalar K] in
theorem closeIf_agrees (agree : Agrees S e₁ e₂) (shown : S .paths = false) (closing : Bool) :
    Agrees S (e₁.closeIf closing) (e₂.closeIf closing) := by
  cases closing with
  | false => exact agree
  | true => exact build_agrees agree shown .close

omit [Scalar K] in
theorem draw_alike (agree : Agrees S e₁ e₂) (shown : S .paths = false)
    (f : PathBuilder K → PathBuilder K) : Alike (Agrees S) (e₁.draw f) (e₂.draw f) :=
  ⟨rfl, build_agrees (beginPath_agrees agree shown) shown f⟩

theorem lineTo_alike (agree : Agrees S e₁ e₂) (shown : S .paths = false) (x y : K) :
    Alike (Agrees S) (e₁.lineTo x y) (e₂.lineTo x y) := by
  unfold lineTo
  rw [(agree.path shown).1]
  split
  · exact draw_alike agree shown _
  · exact ⟨rfl, build_agrees (beginPath_agrees agree shown) shown _⟩

omit [Scalar K] in
theorem drawCurve_alike (agree : Agrees S e₁ e₂) (shown : S .paths = false) (operator : String)
    (f : PathBuilder K → PathBuilder K) :
    Alike (Agrees S) (e₁.drawCurve operator f) (e₂.drawCurve operator f) := by
  unfold drawCurve
  rw [(agree.path shown).1]
  split
  · exact draw_alike agree shown f
  · exact ⟨rfl, agree⟩

theorem followMatrix_agrees (agree : Agrees S e₁ e₂) :
    Agrees S e₁.followMatrix e₂.followMatrix := by
  have moved : Agrees S { e₁ with path := e₁.path.setMatrix e₁.state.ctm }
      { e₂ with path := e₂.path.setMatrix e₂.state.ctm } :=
    agree.withPath fun shown => by
      obtain ⟨path, clip, phase⟩ := agree.path shown
      rw [path, agree.state.ctm]
      exact ⟨rfl, clip, phase⟩
  exact moved.placeText TextState.place

omit [Scalar K] in
theorem outsidePath_close (agree : Agrees S e₁ e₂) (operator : String) :
    Close S (e₁.outsidePath operator) (e₂.outsidePath operator) := by
  unfold outsidePath
  split <;> split <;> exact ⟨rfl, agree⟩

omit [Scalar K] in
theorem save_close (agree : Agrees S e₁ e₂) : Close S e₁.save e₂.save := by
  unfold save StateStack.save StateStack.depth
  rw [agree.limit, agree.saved.length_eq]
  by_cases full : e₂.stack.limit ≤ e₂.stack.saved.length
  · simp only [if_pos full]
    exact ⟨rfl, agree⟩
  · simp only [if_neg full]
    refine outsidePath_close ?_ "q"
    exact { agree with limit := rfl, saved := .cons agree.state agree.saved }

theorem restore_close (agree : Agrees S e₁ e₂) : Close S e₁.restore e₂.restore := by
  unfold restore StateStack.restore
  have saved := agree.saved
  rcases found₁ : e₁.stack.saved with _ | ⟨top₁, saved₁⟩ <;>
    rcases found₂ : e₂.stack.saved with _ | ⟨top₂, saved₂⟩ <;> rw [found₁, found₂] at saved
  · exact ⟨rfl, agree⟩
  · cases saved
  · cases saved
  · cases saved with
    | cons top below =>
      refine outsidePath_close (followMatrix_agrees ?_) "Q"
      exact { agree with saved := below, state := top }

theorem concat_close (agree : Agrees S e₁ e₂) (m : Matrix K) :
    Close S (e₁.concat m) (e₂.concat m) := by
  refine outsidePath_close (followMatrix_agrees (agree.modify ?_)) "cm"
  exact agree.state.blind (f := fun s => { s with ctm := m.followedBy s.ctm }) fun _ _ _ => rfl

theorem applyParameters_agrees {s₁ s₂ : GraphicsState K} (agree : StateAgrees S s₁ s₂)
    (p : Parameters K) : StateAgrees S (s₁.applyParameters p) (s₂.applyParameters p) := by
  obtain ⟨clip, text, rfl, sameClip, sameText⟩ := agree
  refine ⟨clip, _, rfl, sameClip, fun shown => ?_⟩
  simp only [GraphicsState.applyParameters, sameText shown]

omit [Scalar K] in
theorem modify_close {f : GraphicsState K → GraphicsState K} (agree : Agrees S e₁ e₂)
    (blind : ∀ s clip text, f { s with clip, text } = { f s with clip, text }) :
    Close S (e₁.modify f).done (e₂.modify f).done :=
  ⟨rfl, agree.modify (agree.state.blind blind)⟩

omit [Scalar K] in
theorem modifyInk_agrees (agree : Agrees S e₁ e₂) (side : Side) (f : Ink → Ink) :
    Agrees S (e₁.modifyInk side f) (e₂.modifyInk side f) := by
  cases side with
  | stroke =>
    exact agree.modify
      (agree.state.blind (f := fun s => { s with stroke := f s.stroke }) fun _ _ _ => rfl)
  | fill =>
    exact agree.modify
      (agree.state.blind (f := fun s => { s with fill := f s.fill }) fun _ _ _ => rfl)

omit [Scalar K] in
theorem setColorSpace_close (agree : Agrees S e₁ e₂) (side : Side) (name : String)
    (space : Option ColorSpace) :
    Close S (e₁.setColorSpace side name space) (e₂.setColorSpace side name space) := by
  unfold setColorSpace
  split
  · exact ⟨rfl, agree⟩
  · rename_i found _
    exact ⟨rfl, modifyInk_agrees agree side fun _ => .initial found⟩

theorem call_missed {c : Callback K R} {category : Category} (listed : c.category? = some category)
    (hidden : S category = true) (colorful : S .color = false) (agree : Agrees S e₁ e₂) :
    Missed S e₂ (call .recorder hints c e₁) := by
  cases c <;> cases listed
  case stroke closing =>
    exact finishPath_missed hints (closeIf_missed agree hidden closing) hidden _
  case fillStroke closing rule =>
    exact finishPath_missed hints (closeIf_missed agree hidden closing) hidden _
  case fill rule => exact finishPath_missed hints agree hidden _
  case endPath => exact finishPath_missed hints agree hidden _
  case moveTo | rectangle => exact draw_missed agree hidden _
  case lineTo x y => exact lineTo_missed agree hidden x y
  case curveTo | curveFromCurrent | curveIntoEnd => exact drawCurve_missed agree hidden _ _
  case closePath | clip => exact ⟨rfl, agree.path_left hidden _ _ _⟩
  case colorSpace | color | pattern | deviceColor => rw [colorful] at hidden; cases hidden
  case beginText =>
    simp only [call, beginText]
    split <;> exact ⟨rfl, agree.text_left hidden _⟩
  case endText =>
    simp only [call, endText]
    split
    · exact ⟨rfl, agree.text_left hidden _⟩
    · exact ⟨rfl, agree⟩
  case showText bytes => exact showText_missed agree hidden bytes
  case showTextAdjusted items => exact showAdjusted_missed agree hidden items
  case glyphWidth | glyphWidthAndBounds => exact ⟨rfl, agree⟩
  case markPoint | markPointWith => exact ⟨rfl, agree.emit_left hidden⟩
  case beginMarked | beginMarkedWith =>
    exact ⟨rfl, (agree.marked_left hidden _).emit_left hidden⟩
  case endMarked =>
    simp only [call, endMarked]
    split
    · exact ⟨rfl, agree⟩
    · exact ⟨rfl, (agree.marked_left hidden _).emit_left hidden⟩
  case drawXObject name xobject =>
    rcases xobject with _ | _ | image | _
    case some.image => exact ⟨rfl, agree.emit_left hidden⟩
    all_goals exact ⟨rfl, agree⟩
  case drawShading | drawInlineImage => exact ⟨rfl, agree.emit_left hidden⟩
  all_goals exact ⟨rfl, agree.text_left hidden _⟩

theorem call_close {c : Callback K R} (shown : c.category?.any S = false) (agree : Agrees S e₁ e₂) :
    Close S (call .recorder hints c e₁) (call .recorder hints c e₂) := by
  cases c
  case save => exact save_close agree
  case restore => exact restore_close agree
  case concat m => exact concat_close agree m
  case parameters name parameters =>
    cases parameters with
    | none => exact ⟨rfl, agree⟩
    | some p => exact ⟨rfl, agree.modify (applyParameters_agrees agree.state p)⟩
  case lineWidth | lineCap | lineJoin | miterLimit | dash | renderingIntent | flatness =>
    exact modify_close agree fun _ _ _ => rfl
  case moveTo | rectangle => exact close_of_alike (draw_alike agree shown _)
  case lineTo x y => exact close_of_alike (lineTo_alike agree shown x y)
  case curveTo | curveFromCurrent | curveIntoEnd =>
    exact close_of_alike (drawCurve_alike agree shown _ _)
  case closePath => exact ⟨rfl, build_agrees agree shown .close⟩
  case stroke closing =>
    exact close_of_alike (finishPath_alike hints (closeIf_agrees agree shown closing) shown _)
  case fillStroke closing rule =>
    exact close_of_alike (finishPath_alike hints (closeIf_agrees agree shown closing) shown _)
  case fill rule => exact close_of_alike (finishPath_alike hints agree shown _)
  case endPath => exact close_of_alike (finishPath_alike hints agree shown _)
  case clip rule => exact ⟨rfl, agree.withPath fun shown => ⟨(agree.path shown).1, rfl, rfl⟩⟩
  case colorSpace side name space => exact setColorSpace_close agree side name space
  case color side components =>
    exact ⟨rfl, modifyInk_agrees agree side fun ink => { ink with color := .ofComponents components }⟩
  case pattern side components name pattern =>
    exact ⟨rfl, modifyInk_agrees agree side fun ink => { ink with color := ⟨components, some name⟩ }⟩
  case deviceColor side color default =>
    exact ⟨rfl, modifyInk_agrees agree side fun _ =>
      ⟨default.getD color.space, .ofComponents color.components⟩⟩
  case beginText =>
    simp only [call, beginText, agree.state.text shown]
    split <;> exact ⟨rfl, agree.placeText _⟩
  case endText =>
    simp only [call, endText, agree.state.text shown]
    split
    · exact ⟨rfl, agree.modifyText fun _ => rfl⟩
    · exact ⟨rfl, agree⟩
  case moveText | moveTextSetLeading | textMatrix | nextLine => exact ⟨rfl, agree.placeText _⟩
  case charSpacing | wordSpacing | horizontalScaling | leading | font | renderMode | rise =>
    exact ⟨rfl, agree.modifyText fun _ => rfl⟩
  case showText bytes => exact close_of_alike (showText_alike agree shown bytes)
  case showTextAdjusted items => exact close_of_alike (showAdjusted_alike agree shown items)
  case markPoint | markPointWith => exact close_of_alike (agree.emit rfl shown)
  case beginMarked | beginMarkedWith =>
    have deeper := agree.withMarked fun shown => congrArg (· + 1) (agree.marked shown)
    exact close_of_alike (deeper.emit rfl shown)
  case endMarked =>
    have same := agree.marked shown
    simp only [call, endMarked, same]
    split
    · exact ⟨rfl, agree⟩
    · exact close_of_alike ((agree.withMarked fun _ => rfl).emit rfl shown)
  case drawXObject name xobject =>
    rcases xobject with _ | _ | image | _
    case some.image =>
      exact close_of_alike (agree.emit (by simp only [Mark.ofHook, agree.state.ctm]) shown)
    all_goals exact ⟨rfl, agree⟩
  case drawShading | drawInlineImage =>
    exact close_of_alike (agree.emit (by simp only [Mark.ofHook, agree.state.ctm]) shown)
  all_goals exact ⟨rfl, agree⟩

end PageMarks.Filter
