import PageMarks.Proofs.Engine.Mapping

/-!
Pages under a matrix. A run on a page whose space is mapped by a further matrix goes on as the run on
the page itself does, and records the marks of that run mapped by the matrix: both devices answer
every callback alike, so that the interpreter, which hears of a device by its answers only, cannot
tell them apart.
-/

namespace PageMarks.Engine

open Interpreter

variable {K R η : Type} [Scalar K] [Scalar.Exact K] {m : Matrix K}

abbrev Recording (K R η : Type) : Type := (Engine K (List (Mark K)) × η) × Log K R

def recordingHost (hints : Bool) (handler : Handler η) : Host K R (Engine K (List (Mark K)) × η) :=
  .of (device .recorder hints) handler fun _ => false

/-- Runs that have gone on alike, on engines that differ by the matrix. -/
structure MovedRun (m : Matrix K) (w₁ w₂ : Recording K R η) : Prop where
  log : w₁.2 = w₂.2
  handler : w₁.1.2 = w₂.1.2
  engine : Moved m (∃ entry ∈ w₁.2, entry.places = true) (ShownPlaced w₁.2) w₁.1.1 w₂.1.1

omit [Scalar.Exact K] in
theorem MovedRun.heard {w₁ w₂ : Recording K R η} (moved : MovedRun m w₁ w₂) (entry : Entry K R)
    (still : entry.places = false) {h₁ h₂ : η} (handler : h₁ = h₂) :
    MovedRun m (((w₁.1.1, h₁), w₁.2 ++ [entry]) : Recording K R η)
      ((w₂.1.1, h₂), w₂.2 ++ [entry]) where
  log := by dsimp only; rw [moved.log]
  handler := handler
  engine := by
    refine moved.engine.mono ?_ fun shown => (shownPlaced_append.mp shown).1
    rintro ⟨earlier, member, places⟩
    rcases List.mem_append.mp member with before | last
    · exact ⟨earlier, before, places⟩
    · rw [List.mem_singleton.mp last, still] at places
      cases places

theorem MovedRun.call {w₁ w₂ : Recording K R η} (moved : MovedRun m w₁ w₂) (hints : Bool)
    (handler : Handler η) (c : Callback K R) :
    Alike (MovedRun m) ((recordingHost hints handler).logged.call c w₁)
      ((recordingHost hints handler).logged.call c w₂) := by
  have alike := call_moved hints moved.engine c
  have answers : (Engine.call .recorder hints c w₁.1.1).1 =
      (Engine.call .recorder hints c w₂.1.1).1 := alike.1
  refine ⟨answers, ?_, moved.handler, alike.2.mono ?_ ?_⟩
  · change w₁.2 ++ [.call c (Engine.call .recorder hints c w₁.1.1).1] =
      w₂.2 ++ [.call c (Engine.call .recorder hints c w₂.1.1).1]
    rw [answers, moved.log]
  · rintro ⟨earlier, member, places⟩
    rcases List.mem_append.mp member with before | last
    · exact .inl ⟨earlier, before, places⟩
    · rw [List.mem_singleton.mp last] at places
      exact .inr places
  · exact shownPlaced_last

theorem moved_lockstep (m : Matrix K) (hints : Bool) (handler : Handler η) :
    Lockstep (recordingHost (K := K) (R := R) hints handler).logged
      (recordingHost hints handler).logged (MovedRun m) where
  features _ := rfl
  call c moved := moved.call hints handler c
  warn warning moved := moved.heard _ rfl (congrArg (handler.warn warning) moved.handler)
  offer {w₁ w₂} failure moved := by
    have after := moved.heard (.offer failure (handler.offer failure w₁.1.2).1) rfl
      (rfl : (handler.offer failure w₁.1.2).2 = _)
    refine ⟨congrArg (fun h => (handler.offer failure h).1) moved.handler, ?_⟩
    change MovedRun m _
      ((w₂.1.1, (handler.offer failure w₂.1.2).2),
        w₂.2 ++ [.offer failure (handler.offer failure w₂.1.2).1])
    rw [← moved.handler]
    exact after
  note note moved _ := moved.heard _ rfl moved.handler
  cancelled _ := rfl

theorem start_moved (m : Matrix K) (limit : Nat) :
    Moved m False True (start (.initial .identity) limit []) (start (.initial m) limit []) where
  limit := rfl
  saved := .nil
  state := by
    have page := congrArg GraphicsState.initial (Matrix.identity_followedBy m).symm
    exact ⟨.unbounded, .identity, page, False.elim⟩
  path := by
    change PathBuilder.empty m = (PathBuilder.empty .identity).through m
    rw [PathBuilder.through_empty, Matrix.identity_followedBy]
  pendingClip := rfl
  phase := rfl
  marked := rfl
  marks _ := .nil

/-- Content that shows text only inside texts runs on a page under a matrix as it does on the page
itself: it ends the same, the handler and the log of callbacks with their answers are the same, and
the marks correspond one by one, each matrix followed by the page's and each point mapped by it. -/
theorem marks_moved (m : Matrix K) (hints : Bool) (handler : Handler η) (resolver : Resolver K R)
    (depth limit : Nat) (scope : R) (content : List Operation) (h : η)
    (inside : TextInside false content) :
    let host := recordingHost hints handler
    let page (ctm : Matrix K) := (start (.initial ctm) depth ([] : List (Mark K)), h)
    let run (ctm : Matrix K) := process host resolver limit scope content (page ctm)
    (run m).1 = (run .identity).1 ∧ (run m).2.2 = (run .identity).2.2 ∧
      history host resolver limit scope content (page m) =
        history host resolver limit scope content (page .identity) ∧
      List.Forall₂ (Mark.Moved m) (run .identity).2.1.surface (run m).2.1.surface := by
  intro host page run
  have related : MovedRun m ((page .identity, []) : Recording K R η) (page m, []) :=
    ⟨rfl, rfl, (start_moved m depth).mono (by simp) fun _ => trivial⟩
  obtain ⟨ending, after⟩ :=
    (moved_lockstep m hints handler).run resolver limit limit scope content _ _ related
  have same (ctm : Matrix K) := process_logged host resolver limit scope content (page ctm) []
  have placed : ShownPlaced (history host resolver limit scope content (page .identity)) :=
    history_shownPlaced host resolver limit scope inside _
  refine ⟨?_, ?_, after.log.symm, ?_⟩
  · exact (same m).1.symm.trans (ending.symm.trans (same .identity).1)
  · rw [← (same m).2, ← (same .identity).2]
    exact after.handler.symm
  · rw [← (same m).2, ← (same .identity).2]
    exact after.engine.marks placed

def lettered : List Operation :=
  [⟨"re", [.integer 0, .integer 0, .integer 10, .integer 10]⟩, ⟨"f", []⟩, ⟨"BT", []⟩,
    ⟨"Tf", [.name [70], .integer 10]⟩, ⟨"Tj", [.string [65] .literal]⟩, ⟨"ET", []⟩]

def letterFont : Resolver ℚ Unit :=
  { Resolver.none ℚ Unit with font := fun _ _ => .ok (some (.simple "Letters" 65 [500] 0)) }

def letteredMarks (ctm : Matrix ℚ) : List (Mark ℚ) :=
  (process (recordingHost false (.strict Unit)) letterFont 10 () lettered
    (start (.initial ctm) 500 [], ())).2.1.surface

theorem marks_moved_lettered :
    TextInside false lettered ∧ (letteredMarks .identity).map Mark.kind = ["path", "glyph"] ∧
      List.Forall₂ (Mark.Moved ⟨2, 0, 0, 3, 5, 7⟩) (letteredMarks .identity)
        (letteredMarks ⟨2, 0, 0, 3, 5, 7⟩) := by
  have inside : TextInside false lettered := by decide
  obtain ⟨-, -, -, marks⟩ := marks_moved ⟨2, 0, 0, 3, 5, 7⟩ false (.strict Unit) letterFont 500 10 ()
    lettered () inside
  exact ⟨inside, by decide +kernel, marks⟩

end PageMarks.Engine
