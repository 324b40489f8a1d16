import PageMarks.Proofs.Engine.PathEnding
import PageMarks.Proofs.Engine.Placement

/-!
Glyphs along the baseline. An engine moves its text position after each glyph and at each gap. In
exact arithmetic these moves add up, so that a glyph stands as far along the line as what was shown
before it is long, and a string that is shown to its end has moved the position by its whole length.
-/

namespace PageMarks

open Scalar (zero)

variable {K R σ : Type}

/-- What is shown along a line: glyphs, and gaps in thousandths of text space. -/
inductive Piece (K : Type)
  | glyph (glyph : Glyph K)
  | gap (value : K)

def TextItem.pieces (font : Font K) : TextItem K → List (Piece K)
  | .text bytes => (font.glyphs bytes).map .glyph
  | .adjust value => [.gap value]

variable [Scalar K]

namespace TextState

def stride (t : TextState K) : Piece K → K
  | .glyph g =>
    t.advanceFactor * g.width + t.scaledCharSpacing +
      if g.code = 0 ∨ g.code = 32 then t.scaledWordSpacing else zero
  | .gap value => -value * t.advanceFactor

def distance (t : TextState K) (pieces : List (Piece K)) : K :=
  pieces.foldr (fun piece rest => t.stride piece + rest) zero

variable [Scalar.Exact K] (t : TextState K)

theorem glyphAdvance_eq (g : Glyph K) : t.glyphAdvance g = t.stride (.glyph g) := by
  have blank : g.isBlank = true ↔ g.code = 0 ∨ g.code = 32 := by simp [Glyph.isBlank]
  simp only [glyphAdvance, stride, blank, Scalar.Exact.add_assoc]
  rw [Scalar.Exact.add_comm (ite ..)]

omit [Scalar.Exact K] in
theorem distance_nil : t.distance [] = zero := rfl

theorem distance_singleton (piece : Piece K) : t.distance [piece] = t.stride piece :=
  Scalar.Exact.add_zero _

theorem distance_append (xs ys : List (Piece K)) :
    t.distance (xs ++ ys) = t.distance xs + t.distance ys := by
  induction xs with
  | nil => exact (Scalar.Exact.zero_add _).symm
  | cons piece rest ih =>
    calc t.distance (piece :: rest ++ ys)
      _ = t.stride piece + t.distance (rest ++ ys) := rfl
      _ = t.stride piece + (t.distance rest + t.distance ys) := by rw [ih]
      _ = t.distance (piece :: rest) + t.distance ys := (Scalar.Exact.add_assoc ..).symm

end TextState

namespace GraphicsState

def along (d : K) (s : GraphicsState K) : GraphicsState K :=
  { s with
    text := { s.text with
      matrix := (Matrix.translation d zero).followedBy s.text.matrix
      globalMatrix := (Matrix.translation d zero).followedBy s.text.globalMatrix } }

variable (s : GraphicsState K)

def glyphHook (before : List (Piece K)) (g : Glyph K) : Hook K :=
  .showGlyph g
    (s.text.scaling.followedBy
      ((Matrix.translation (s.text.distance before) zero).followedBy s.text.globalMatrix))
    (s.along (s.text.distance before))

def glyphHooks : List (Piece K) → List (Piece K) → List (Hook K)
  | _, [] => []
  | before, .glyph g :: rest => s.glyphHook before g :: glyphHooks (before ++ [.glyph g]) rest
  | before, .gap value :: rest => glyphHooks (before ++ [.gap value]) rest

theorem glyphHooks_glyphs (before : List (Piece K)) (glyphs : List (Glyph K)) :
    s.glyphHooks before (glyphs.map .glyph) =
      glyphs.mapIdx fun i g => s.glyphHook (before ++ (glyphs.take i).map .glyph) g := by
  induction glyphs generalizing before with
  | nil => rfl
  | cons g rest ih =>
    simp only [List.map_cons, glyphHooks, ih, List.mapIdx_cons, List.take_zero, List.map_nil,
      List.append_nil, List.take_succ_cons, List.append_assoc, List.singleton_append]

theorem glyphHooks_append (before xs ys : List (Piece K)) :
    s.glyphHooks before (xs ++ ys) = s.glyphHooks before xs ++ s.glyphHooks (before ++ xs) ys := by
  induction xs generalizing before with
  | nil => rw [List.append_nil]; rfl
  | cons piece rest ih =>
    cases piece with
    | glyph | gap =>
      simp only [List.cons_append, glyphHooks, ih, List.append_assoc, List.nil_append]

variable [Scalar.Exact K]

theorem along_zero : s.along zero = s := by
  have still (m : Matrix K) : (Matrix.translation zero zero).followedBy m = m :=
    Matrix.identity_followedBy m
  simp only [along, still]

theorem along_along (c d : K) : (s.along c).along d = s.along (c + d) := by
  have both (m : Matrix K) :
      (Matrix.translation d zero).followedBy ((Matrix.translation c zero).followedBy m) =
        (Matrix.translation (c + d) zero).followedBy m := by
    rw [← Matrix.followedBy_assoc, Matrix.translation_translation, Scalar.Exact.add_comm d c,
      Scalar.Exact.zero_add]
  simp only [along, both]

theorem along_distance (xs ys : List (Piece K)) :
    (s.along (s.text.distance xs)).along (s.text.distance ys) =
      s.along (s.text.distance (xs ++ ys)) := by
  rw [along_along, TextState.distance_append]

theorem glyphHook_nil (g : Glyph K) :
    s.glyphHook [] g = .showGlyph g s.text.renderingMatrix s := by
  have started : s.glyphHook [] g = .showGlyph g
      (s.text.scaling.followedBy (s.along zero).text.globalMatrix) (s.along zero) := rfl
  rw [started, along_zero]
  rfl

theorem glyphHook_along (xs before : List (Piece K)) (g : Glyph K) :
    (s.along (s.text.distance xs)).glyphHook before g = s.glyphHook (xs ++ before) g := by
  have started : (s.along (s.text.distance xs)).glyphHook before g = .showGlyph g
      (s.text.scaling.followedBy
        ((s.along (s.text.distance xs)).along (s.text.distance before)).text.globalMatrix)
      ((s.along (s.text.distance xs)).along (s.text.distance before)) := rfl
  rw [started, along_distance]
  rfl

theorem glyphHooks_along (xs before ys : List (Piece K)) :
    (s.along (s.text.distance xs)).glyphHooks before ys = s.glyphHooks (xs ++ before) ys := by
  induction ys generalizing before with
  | nil => rfl
  | cons piece rest ih =>
    cases piece with
    | glyph | gap => simp only [glyphHooks, glyphHook_along, ih, List.append_assoc]

end GraphicsState

namespace Engine

def shifted {τ : Type} (e : Engine K σ) (d : K) (s : τ) : Engine K τ :=
  { e.modify (·.along d) with surface := s }

/-- What showing pieces comes to beside a surface with a record: all glyphs are taken, or one is
refused, and the position has been moved past all that was shown. -/
inductive Shows (e : Engine K (σ × List (Hook K × Outcome))) (pieces : List (Piece K)) :
    Outcome × Engine K (σ × List (Hook K × Outcome)) → Prop
  | all {t : σ} :
    Shows e pieces
      (.ok (), e.shifted (e.state.text.distance pieces)
        (t, e.surface.2 ++ (e.state.glyphHooks [] pieces).map (·, .ok ())))
  | refused {shown rest : List (Piece K)} {g : Glyph K} {signal : Signal} {t : σ}
    (broken : pieces = shown ++ .glyph g :: rest) :
    Shows e pieces
      (.error signal, e.shifted (e.state.text.distance shown)
        (t, e.surface.2 ++ (e.state.glyphHooks [] shown).map (·, .ok ()) ++
          [(e.state.glyphHook shown g, .error signal)]))

variable {e m after : Engine K (σ × List (Hook K × Outcome))} {xs : List (Piece K)}
  {result : Outcome × Engine K (σ × List (Hook K × Outcome))}

theorem Shows.font {outcome : Outcome} (shows : Shows e xs (outcome, after)) :
    after.font? = e.font? := by
  cases shows <;> rfl

theorem Shows.broken {signal : Signal} (shows : Shows e xs (.error signal, after))
    (ys : List (Piece K)) : Shows e (xs ++ ys) (.error signal, after) := by
  cases shows with
  | refused broken =>
    subst broken
    exact .refused (List.append_assoc ..)

variable [Scalar.Exact K]

theorem shifted_shifted {τ υ : Type} (e : Engine K σ) (xs ys : List (Piece K)) (s : τ) (t : υ) :
    (e.shifted (e.state.text.distance xs) s).shifted (e.state.text.distance ys) t =
      e.shifted (e.state.text.distance (xs ++ ys)) t := by
  have both := e.state.along_distance xs ys
  simp only [shifted, modify, StateStack.modify, state] at both ⊢
  rw [both]

theorem shifted_zero {τ : Type} (e : Engine K σ) (s : τ) :
    e.shifted zero s = { e with surface := s } := by
  have still := e.state.along_zero
  simp only [shifted, modify, StateStack.modify, state] at still ⊢
  rw [still]

theorem shows_nil : Shows e [] (.ok (), e) := by
  have stays : Shows e [] (.ok (), e.shifted zero (e.surface.1, e.surface.2 ++ [])) := .all
  rwa [List.append_nil, shifted_zero] at stays

theorem shows_gap (value : K) :
    Shows e [.gap value] (.ok (), e.modifyText fun t => t.advance (t.adjustmentOffset value)) := by
  have moves : Shows e [.gap value] (.ok (), e.shifted _ (e.surface.1, _)) := .all
  rw [TextState.distance_singleton, GraphicsState.glyphHooks, GraphicsState.glyphHooks,
    List.map_nil, List.append_nil] at moves
  exact moves

theorem Shows.append {ys : List (Piece K)} (first : Shows e xs (.ok (), m))
    (second : Shows m ys result) : Shows e (xs ++ ys) result := by
  cases first with
  | all =>
    -- What is shown next is placed from where the first pieces end.
    have hooks (zs : List (Piece K)) : e.state.glyphHooks [] (xs ++ zs) =
        e.state.glyphHooks [] xs ++
          (e.state.along (e.state.text.distance xs)).glyphHooks [] zs := by
      rw [GraphicsState.glyphHooks_along, List.append_nil, GraphicsState.glyphHooks_append,
        List.nil_append]
    cases second with
    | @all t =>
      have both : Shows e (xs ++ ys) (.ok (), e.shifted _ (t, _)) := .all
      rw [hooks, List.map_append, ← List.append_assoc, ← shifted_shifted] at both
      exact both
    | @refused shown rest g signal t broken =>
      subst broken
      have both : Shows e (xs ++ (shown ++ .glyph g :: rest))
          (.error signal, e.shifted _ (t, _ ++ [(_, .error signal)])) :=
        .refused (List.append_assoc xs shown (.glyph g :: rest)).symm
      rw [hooks, List.map_append, ← List.append_assoc e.surface.2, ← shifted_shifted,
        ← GraphicsState.glyphHook_along] at both
      exact both

variable (surface : Surface K σ)

theorem shows_glyph (g : Glyph K) {answer : Outcome}
    (told : e.emit surface.logged (.showGlyph g e.state.text.renderingMatrix e.state) =
      (answer, m)) :
    match answer with
    | .ok () => Shows e [.glyph g] (.ok (), m.modifyText fun t => t.advance (t.glyphAdvance g))
    | .error signal => Shows e [.glyph g] (.error signal, m) := by
  obtain ⟨given, t, emitted⟩ :=
    emit_logged surface e (.showGlyph g e.state.text.renderingMatrix e.state)
  rw [emitted] at told
  cases told
  cases answer with
  | ok =>
    have taken : Shows e [.glyph g] (.ok (), e.shifted _ (t, _)) := .all
    rw [TextState.distance_singleton, GraphicsState.glyphHooks, GraphicsState.glyphHooks,
      GraphicsState.glyphHook_nil, ← TextState.glyphAdvance_eq] at taken
    exact taken
  | error signal =>
    have left : Shows e [.glyph g] (.error signal, e.shifted (e.state.text.distance [])
        (t, e.surface.2 ++ (e.state.glyphHooks [] []).map (·, .ok ()) ++
          [(e.state.glyphHook [] g, .error signal)])) :=
      .refused (List.nil_append [Piece.glyph g]).symm
    rw [TextState.distance_nil, shifted_zero, GraphicsState.glyphHooks, List.map_nil,
      List.append_nil, GraphicsState.glyphHook_nil] at left
    exact left

theorem showGlyphs_shows (glyphs : List (Glyph K)) :
    Shows e (glyphs.map .glyph) (e.showGlyphs surface.logged glyphs) := by
  induction glyphs generalizing e with
  | nil => exact shows_nil
  | cons g rest ih =>
    rcases told : e.emit surface.logged (.showGlyph g e.state.text.renderingMatrix e.state)
      with ⟨signal | ⟨⟨⟩⟩, m⟩
    · simp only [showGlyphs, told]
      exact (shows_glyph surface g told).broken (rest.map .glyph)
    · simp only [showGlyphs, told]
      exact (shows_glyph surface g told).append ih

variable {font : Font K}

theorem showBytes_shows (loaded : e.font? = some font) (bytes : Bytes) :
    Shows e ((font.glyphs bytes).map .glyph) (e.showBytes surface.logged bytes) := by
  simp only [showBytes, loaded]
  exact showGlyphs_shows surface _

theorem showText_shows (loaded : e.font? = some font) (bytes : Bytes) :
    Shows e ((font.glyphs bytes).map .glyph) (e.showText surface.logged bytes) := by
  simp only [showText, loaded, Option.isSome_some, if_true]
  exact showBytes_shows surface loaded bytes

theorem showItems_shows (loaded : e.font? = some font) (items : List (TextItem K)) :
    Shows e (items.flatMap (·.pieces font)) (e.showItems surface.logged items) := by
  induction items generalizing e with
  | nil => exact shows_nil
  | cons item rest ih =>
    cases item with
    | text bytes =>
      have first := showBytes_shows surface loaded bytes
      rcases shown : e.showBytes surface.logged bytes with ⟨signal | ⟨⟨⟩⟩, m⟩
      · rw [shown] at first
        simp only [showItems, shown]
        exact first.broken _
      · rw [shown] at first
        simp only [showItems, shown]
        exact first.append (ih (first.font.trans loaded))
    | adjust value => exact (shows_gap value).append (ih loaded)

theorem showAdjusted_shows (loaded : e.font? = some font) (items : List (TextItem K)) :
    Shows e (items.flatMap (·.pieces font)) (e.showAdjusted surface.logged items) := by
  have shows := showItems_shows surface loaded items
  rcases shown : e.showItems surface.logged items with ⟨signal | ⟨⟨⟩⟩, after⟩
  all_goals
    rw [shown] at shows
    simp only [showAdjusted, shown, loaded, Option.isNone_some, Bool.false_and]
    exact shows

/-- Strings and arrays are shown piece by piece, each glyph after all that was before it; a number
of an array by itself is a move along the baseline and nothing else. -/
theorem glyphs_along_baseline (hints : Bool) (loaded : e.font? = some font) :
    (∀ bytes, Shows e ((font.glyphs bytes).map .glyph)
      (call surface.logged hints (.showText bytes : Callback K R) e)) ∧
    (∀ glyphs : List (Glyph K), e.state.glyphHooks [] (glyphs.map .glyph) =
      glyphs.mapIdx fun i g => e.state.glyphHook ((glyphs.take i).map .glyph) g) ∧
    (∀ items, Shows e (items.flatMap (·.pieces font))
      (call surface.logged hints (.showTextAdjusted items : Callback K R) e)) ∧
    ∀ value : K, call surface.logged hints (.showTextAdjusted [.adjust value] : Callback K R) e =
      (.ok (), e.shifted (-value * e.state.text.advanceFactor) e.surface) := by
  refine ⟨?_, ?_, ?_, ?_⟩
  · exact showText_shows surface loaded
  · exact e.state.glyphHooks_glyphs []
  · exact showAdjusted_shows surface loaded
  · intro value
    change e.showAdjusted surface.logged [.adjust value] = _
    simp only [showAdjusted, showItems, done, loaded, Option.isNone_some, Bool.false_and]
    rfl

def letters : Font ℚ := .simple "F" 32 [250] 500

def spaced : Engine ℚ (Unit × List (Hook ℚ × Outcome)) :=
  (feed (Surface.silent ℚ).logged false
    [(.font "F" (some letters) 10 : Callback ℚ Unit), .charSpacing 1, .wordSpacing 2]
    (start (.initial ⟨1, 0, 0, 1, 0, 0⟩) 1 ((), []))).2

theorem glyphs_along_baseline_spaced :
    spaced.font? = some letters ∧
      Shows spaced [.glyph ⟨65, 500⟩, .glyph ⟨32, 250⟩, .glyph ⟨66, 500⟩]
        (call (Surface.silent ℚ).logged false (.showText [65, 32, 66] : Callback ℚ Unit) spaced) := by
  have loaded : spaced.font? = some letters := rfl
  have glyphs : letters.glyphs [65, 32, 66] = [⟨65, 500⟩, ⟨32, 250⟩, ⟨66, 500⟩] := by decide +kernel
  refine ⟨loaded, ?_⟩
  have shows := (glyphs_along_baseline (R := Unit) (.silent ℚ) false loaded).1 [65, 32, 66]
  rwa [glyphs] at shows

example : spaced.state.text.distance [.glyph ⟨65, 500⟩, .glyph ⟨32, 250⟩] = 23 / 2 := by
  decide +kernel

end Engine
end PageMarks
