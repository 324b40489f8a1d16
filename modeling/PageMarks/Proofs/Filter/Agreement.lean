import Mathlib.Data.List.Forall2
import PageMarks.Device.Filter
import PageMarks.Engine
import PageMarks.Mark
import PageMarks.Proofs.Interpreter.Lockstep

/-!
Engines that agree up to categories. One of two engines has missed callbacks of the categories in a
set: what these callbacks may touch can differ, everything else is the same, and its marks are those
of the other one that belong to no category of the set. Callbacks of a category stay in what the
category owns, and other callbacks keep the agreement when both engines get them.
-/

namespace PageMarks

def Mark.category {K : Type} : Mark K → Category
  | path .. | clipHint .. => .paths
  | glyph .. => .text
  | image .. | inlineImage .. | shading .. => .images
  | beginMarked .. | endMarked | markPoint _ => .markedContent

namespace Filter

open Interpreter

variable {K R : Type} (S : Categories)

def kept (mark : Mark K) : Bool := !S mark.category

/-- States that differ in the clip and the text at most, and in these only if their category is in
the set. -/
def StateAgrees (s₁ s₂ : GraphicsState K) : Prop :=
  ∃ clip text, s₁ = { s₂ with clip, text } ∧ (S .paths = false → clip = s₂.clip) ∧
    (S .text = false → text = s₂.text)

structure Agrees (e₁ e₂ : Engine K (List (Mark K))) : Prop where
  limit : e₁.stack.limit = e₂.stack.limit
  saved : List.Forall₂ (StateAgrees S) e₁.stack.saved e₂.stack.saved
  state : StateAgrees S e₁.state e₂.state
  path : S .paths = false →
    e₁.path = e₂.path ∧ e₁.pendingClip = e₂.pendingClip ∧ e₁.phase = e₂.phase
  marked : S .markedContent = false → e₁.markedDepth = e₂.markedDepth
  marks : e₂.surface = e₁.surface.filter (kept S)

variable {S}

theorem StateAgrees.refl (s : GraphicsState K) : StateAgrees S s s :=
  ⟨s.clip, s.text, rfl, fun _ => rfl, fun _ => rfl⟩

theorem StateAgrees.ctm {s₁ s₂ : GraphicsState K} (agree : StateAgrees S s₁ s₂) :
    s₁.ctm = s₂.ctm := by
  obtain ⟨_, _, rfl, -⟩ := agree
  rfl

theorem StateAgrees.text {s₁ s₂ : GraphicsState K} (agree : StateAgrees S s₁ s₂)
    (shown : S .text = false) : s₁.text = s₂.text := by
  obtain ⟨_, _, rfl, -, same⟩ := agree
  exact same shown

theorem StateAgrees.clip {s₁ s₂ : GraphicsState K} (agree : StateAgrees S s₁ s₂)
    (shown : S .paths = false) : s₁.clip = s₂.clip := by
  obtain ⟨_, _, rfl, same, -⟩ := agree
  exact same shown

theorem StateAgrees.blind {f : GraphicsState K → GraphicsState K}
    (blind : ∀ s clip text, f { s with clip, text } = { f s with clip, text })
    {s₁ s₂ : GraphicsState K} (agree : StateAgrees S s₁ s₂) : StateAgrees S (f s₁) (f s₂) := by
  obtain ⟨clip, text, rfl, sameClip, sameText⟩ := agree
  have untouched := blind s₂ s₂.clip s₂.text
  refine ⟨clip, text, blind s₂ clip text, fun shown => ?_, fun shown => ?_⟩
  · rw [sameClip shown]
    exact (congrArg GraphicsState.clip untouched).symm
  · rw [sameText shown]
    exact (congrArg GraphicsState.text untouched).symm

namespace Agrees

variable {e₁ e₂ : Engine K (List (Mark K))}

theorem modify {f₁ f₂ : GraphicsState K → GraphicsState K} (agree : Agrees S e₁ e₂)
    (after : StateAgrees S (f₁ e₁.state) (f₂ e₂.state)) :
    Agrees S (e₁.modify f₁) (e₂.modify f₂) where
  limit := agree.limit
  saved := agree.saved
  state := after
  path := agree.path
  marked := agree.marked
  marks := agree.marks

theorem modifyText {f₁ f₂ : TextState K → TextState K} (agree : Agrees S e₁ e₂)
    (same : S .text = false → f₁ = f₂) : Agrees S (e₁.modifyText f₁) (e₂.modifyText f₂) := by
  refine agree.modify ?_
  obtain ⟨clip, text, state, sameClip, sameText⟩ := agree.state
  rw [state]
  refine ⟨clip, f₁ text, rfl, sameClip, fun shown => ?_⟩
  rw [same shown, sameText shown]

theorem placeText (agree : Agrees S e₁ e₂) (f : Matrix K → TextState K → TextState K) :
    Agrees S (e₁.placeText f) (e₂.placeText f) :=
  agree.modifyText fun _ => by rw [agree.state.ctm]

theorem withPath (agree : Agrees S e₁ e₂) {p₁ p₂ : PathBuilder K} {c₁ c₂ : Option FillRule}
    {h₁ h₂ : PathPhase} (same : S .paths = false → p₁ = p₂ ∧ c₁ = c₂ ∧ h₁ = h₂) :
    Agrees S { e₁ with path := p₁, pendingClip := c₁, phase := h₁ }
      { e₂ with path := p₂, pendingClip := c₂, phase := h₂ } where
  limit := agree.limit
  saved := agree.saved
  state := agree.state
  path := same
  marked := agree.marked
  marks := agree.marks

theorem withMarked (agree : Agrees S e₁ e₂) {d₁ d₂ : Nat}
    (same : S .markedContent = false → d₁ = d₂) :
    Agrees S { e₁ with markedDepth := d₁ } { e₂ with markedDepth := d₂ } where
  limit := agree.limit
  saved := agree.saved
  state := agree.state
  path := agree.path
  marked := same
  marks := agree.marks

theorem path_left (agree : Agrees S e₁ e₂) (hidden : S .paths = true) (path : PathBuilder K)
    (pendingClip : Option FillRule) (phase : PathPhase) :
    Agrees S { e₁ with path, pendingClip, phase } e₂ where
  limit := agree.limit
  saved := agree.saved
  state := agree.state
  path shown := by rw [hidden] at shown; cases shown
  marked := agree.marked
  marks := agree.marks

theorem marked_left (agree : Agrees S e₁ e₂) (hidden : S .markedContent = true)
    (markedDepth : Nat) : Agrees S { e₁ with markedDepth } e₂ where
  limit := agree.limit
  saved := agree.saved
  state := agree.state
  path := agree.path
  marked shown := by rw [hidden] at shown; cases shown
  marks := agree.marks

theorem clip_left (agree : Agrees S e₁ e₂) (hidden : S .paths = true)
    (f : ClipRegion K → ClipRegion K) :
    Agrees S (e₁.modify fun s => { s with clip := f s.clip }) e₂ where
  limit := agree.limit
  saved := agree.saved
  state := by
    obtain ⟨clip, text, state, -, sameText⟩ := agree.state
    refine ⟨f clip, text, ?_, fun shown => ?_, sameText⟩
    · change { e₁.state with clip := f e₁.state.clip } = _
      rw [state]
    · rw [hidden] at shown
      cases shown
  path := agree.path
  marked := agree.marked
  marks := agree.marks

theorem text_left (agree : Agrees S e₁ e₂) (hidden : S .text = true)
    (f : TextState K → TextState K) : Agrees S (e₁.modifyText f) e₂ where
  limit := agree.limit
  saved := agree.saved
  state := by
    obtain ⟨clip, text, state, sameClip, -⟩ := agree.state
    refine ⟨clip, f text, ?_, sameClip, fun shown => ?_⟩
    · change { e₁.state with text := f e₁.state.text } = _
      rw [state]
    · rw [hidden] at shown
      cases shown
  path := agree.path
  marked := agree.marked
  marks := agree.marks

variable [Scalar K] {hook hook₁ hook₂ : Hook K}

theorem emit_left (agree : Agrees S e₁ e₂) (hidden : S (Mark.ofHook hook).category = true) :
    Agrees S (e₁.emit .recorder hook).2 e₂ where
  limit := agree.limit
  saved := agree.saved
  state := agree.state
  path := agree.path
  marked := agree.marked
  marks := by
    have gone : kept S (Mark.ofHook hook) = false := by simp [kept, hidden]
    change e₂.surface = (e₁.surface ++ [Mark.ofHook hook]).filter (kept S)
    rw [List.filter_append, List.filter_singleton, gone, agree.marks]
    exact (List.append_nil _).symm

theorem emit (agree : Agrees S e₁ e₂) (same : Mark.ofHook hook₁ = Mark.ofHook hook₂)
    (shown : S (Mark.ofHook hook₂).category = false) :
    Alike (Agrees S) (e₁.emit .recorder hook₁) (e₂.emit .recorder hook₂) where
  left := rfl
  right :=
    { limit := agree.limit
      saved := agree.saved
      state := agree.state
      path := agree.path
      marked := agree.marked
      marks := by
        have stays : kept S (Mark.ofHook hook₂) = true := by simp [kept, shown]
        change e₂.surface ++ [Mark.ofHook hook₂] =
          (e₁.surface ++ [Mark.ofHook hook₁]).filter (kept S)
        rw [List.filter_append, same, List.filter_singleton, stays, agree.marks]
        rfl }

end Agrees
end Filter
end PageMarks
