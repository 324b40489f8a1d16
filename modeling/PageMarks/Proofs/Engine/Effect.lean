import PageMarks.Engine
import PageMarks.Interpreter.Log

/-!
What callbacks can do to an engine. Painting reaches the surface and nothing else, ending a path
replaces the clip and starts over, and showing text hands marks on and advances along the line.
-/

namespace PageMarks.Engine

variable {K σ : Type} (surface : Surface K σ) (hints : Bool) (e : Engine K σ)

theorem emit_effect (hook : Hook K) :
    ∃ s, (e.emit surface hook).2 = { e with surface := s } := ⟨_, rfl⟩

theorem outsidePath_snd (operator : String) : (e.outsidePath operator).2 = e := by
  unfold outsidePath
  split <;> rfl

theorem outsidePath_accepted (operator : String) : accepted (e.outsidePath operator).1 := by
  unfold outsidePath
  split <;> rfl

theorem save_cases :
    (e.stack.depth < e.stack.limit ∧ accepted e.save.1 = true ∧
        e.save.2 = { e with stack := { e.stack with saved := e.state :: e.stack.saved } }) ∨
      (e.stack.limit ≤ e.stack.depth ∧ accepted e.save.1 = false ∧ e.save.2 = e) := by
  unfold save StateStack.save
  by_cases full : e.stack.limit ≤ e.stack.depth
  · rw [if_pos full]
    exact .inr ⟨full, rfl, rfl⟩
  · rw [if_neg full]
    exact .inl ⟨Nat.lt_of_not_le full, outsidePath_accepted _ "q", outsidePath_snd _ "q"⟩

theorem paintPath_effect (path : Path K) (degenerate : Bool) (op : PaintOp) :
    ∃ s, (e.paintPath surface path degenerate op).2 = { e with surface := s } := by
  cases op with
  | stroke | fillStroke => exact ⟨_, rfl⟩
  | noPaint => exact ⟨e.surface, rfl⟩
  | fill rule =>
    obtain ⟨s, filled⟩ := emit_effect surface e (.fillPath path rule e.state)
    rcases answer : e.emit surface (.fillPath path rule e.state) with ⟨_ | ⟨⟨⟩⟩, after⟩
    · exact ⟨s, by simpa only [paintPath, answer] using filled⟩
    · rw [answer] at filled
      subst filled
      simp only [paintPath, answer]
      split
      · exact ⟨_, rfl⟩
      · exact ⟨s, rfl⟩

section

variable [Scalar K]

theorem restore_cases :
    (∃ top saved, e.stack.saved = top :: saved ∧ accepted e.restore.1 = true ∧
        e.restore.2 = ({ e with stack := { e.stack with current := top, saved } } :
          Engine K σ).followMatrix) ∨
      (e.stack.saved = [] ∧ accepted e.restore.1 = false ∧ e.restore.2 = e) := by
  unfold restore StateStack.restore
  rcases e.stack.saved with _ | ⟨top, saved⟩
  · exact .inr ⟨rfl, rfl, rfl⟩
  · exact .inl ⟨top, saved, rfl, outsidePath_accepted _ _, outsidePath_snd _ _⟩

theorem installClip_effect (path : Path K) (rule : FillRule) (painted : Outcome) :
    ∃ s, (e.installClip surface hints path rule painted).2 =
      { e.modify fun state => { state with clip := state.clip.intersect path rule } with
        surface := s } := by
  unfold installClip
  dsimp only
  split
  · exact ⟨_, rfl⟩
  · exact ⟨e.surface, rfl⟩

def clipAfter : ClipRegion K :=
  match e.pendingClip with
  | none => e.state.clip
  | some rule => e.state.clip.intersect e.path.path rule

theorem finishPath_effect (op : PaintOp) :
    ∃ s, (e.finishPath surface hints op).2 =
      { e.modify fun state => { state with clip := e.clipAfter } with
        path := e.path.reset, pendingClip := none, phase := .noPath, surface := s } := by
  have painted (fresh : Engine K σ) (path : Path K) (degenerate : Bool) :
      ∃ s, (if path.isEmpty then fresh.done else fresh.paintPath surface path degenerate op).2 =
        { fresh with surface := s } := by
    split
    · exact ⟨fresh.surface, rfl⟩
    · exact paintPath_effect surface fresh path degenerate op
  obtain ⟨s, painted⟩ := painted
    { e with path := e.path.reset, pendingClip := none, phase := .noPath } e.path.path
    e.path.isDegenerate
  rcases pending : e.pendingClip with _ | rule
  · simp only [finishPath, clipAfter, pending]
    exact ⟨s, painted⟩
  · simp only [finishPath, clipAfter, pending]
    rw [painted]
    exact installClip_effect surface hints _ _ _ _

/-- A property that lasts while text is shown on a surface: through a glyph where the text stands, and
through a move along the line. -/
structure Lasting (P : Engine K σ → Prop) : Prop where
  glyph {e : Engine K σ} (glyph : Glyph K) :
    P e → P (e.emit surface (.showGlyph glyph e.state.text.renderingMatrix e.state)).2
  advance {e : Engine K σ} (tx : K) : P e → P (e.modifyText (·.advance tx))

namespace Lasting

variable {surface} {P : Engine K σ → Prop} (lasting : Lasting surface P)
include lasting

theorem showGlyphs (glyphs : List (Glyph K)) {e : Engine K σ} (holds : P e) :
    P (e.showGlyphs surface glyphs).2 := by
  induction glyphs generalizing e with
  | nil => exact holds
  | cons glyph rest ih =>
    have shown := lasting.glyph glyph holds
    rcases answer : e.emit surface (.showGlyph glyph e.state.text.renderingMatrix e.state) with
      ⟨_ | ⟨⟨⟩⟩, after⟩
    · rw [answer] at shown
      simpa only [Engine.showGlyphs, answer] using shown
    · rw [answer] at shown
      simp only [Engine.showGlyphs, answer]
      exact ih (lasting.advance _ shown)

theorem showBytes (bytes : Bytes) {e : Engine K σ} (holds : P e) :
    P (e.showBytes surface bytes).2 := by
  unfold Engine.showBytes
  split
  · exact holds
  · exact lasting.showGlyphs _ holds

theorem showText (bytes : Bytes) {e : Engine K σ} (holds : P e) :
    P (e.showText surface bytes).2 := by
  unfold Engine.showText
  split
  · exact lasting.showBytes bytes holds
  · exact holds

theorem showItems (items : List (TextItem K)) {e : Engine K σ} (holds : P e) :
    P (e.showItems surface items).2 := by
  induction items generalizing e with
  | nil => exact holds
  | cons item rest ih =>
    cases item with
    | adjust value => exact ih (lasting.advance _ holds)
    | text bytes =>
      have shown : P (e.showBytes surface bytes).2 := lasting.showBytes bytes holds
      rcases answer : e.showBytes surface bytes with ⟨_ | ⟨⟨⟩⟩, after⟩
      · simpa only [Engine.showItems, answer] using shown
      · rw [answer] at shown
        simp only [Engine.showItems, answer]
        exact ih shown

theorem showAdjusted (items : List (TextItem K)) {e : Engine K σ} (holds : P e) :
    P (e.showAdjusted surface items).2 := by
  have shown : P (e.showItems surface items).2 := lasting.showItems items holds
  rcases answer : e.showItems surface items with ⟨_ | ⟨⟨⟩⟩, after⟩
  · simpa only [Engine.showAdjusted, answer] using shown
  · rw [answer] at shown
    simp only [Engine.showAdjusted, answer]
    split <;> exact shown

end Lasting

/-- A property that no surface and no place on the line makes a difference to. -/
structure Unmoved (P : Engine K σ → Prop) : Prop where
  surface {e : Engine K σ} (s : σ) : P e → P { e with surface := s }
  advance {e : Engine K σ} (tx : K) : P e → P (e.modifyText (·.advance tx))

namespace Unmoved

variable {surface} {P : Engine K σ → Prop} (unmoved : Unmoved P)
include unmoved

theorem lasting : Lasting surface P where
  glyph _ holds := unmoved.surface _ holds
  advance := unmoved.advance

theorem showText (bytes : Bytes) {e : Engine K σ} (holds : P e) :
    P (e.showText surface bytes).2 := unmoved.lasting.showText bytes holds

theorem showAdjusted (items : List (TextItem K)) {e : Engine K σ} (holds : P e) :
    P (e.showAdjusted surface items).2 := unmoved.lasting.showAdjusted items holds

end Unmoved
end
end PageMarks.Engine
