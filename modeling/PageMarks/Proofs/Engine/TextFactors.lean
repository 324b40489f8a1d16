import Mathlib.Data.List.Forall2
import PageMarks.Proofs.Engine.Restore
import PageMarks.Proofs.Geometry.Exact

/-!
The factors of an advance. A text state keeps them beside the parameters that they derive from, and so
does every state that is saved. They are never out of date: they are what comes of the values that
were last given, where a restore takes back all that was given since its save.
-/

namespace PageMarks

open Scalar (ofInt)

inductive TextParameter
  | size
  | charSpacing
  | wordSpacing
  | horizontalScaling
  deriving DecidableEq, Repr

variable {K R σ : Type}

structure TextFactors (K : Type) where
  advance : K
  charSpacing : K
  wordSpacing : K
  deriving DecidableEq, Repr

def TextFactors.of [Scalar K] (value : TextParameter → K) : TextFactors K where
  advance := value .size / ofInt 1000 * value .horizontalScaling / ofInt 100
  charSpacing := value .charSpacing * value .horizontalScaling / ofInt 100
  wordSpacing := value .wordSpacing * value .horizontalScaling / ofInt 100

namespace TextState

def parameter (t : TextState K) : TextParameter → K
  | .size => t.size
  | .charSpacing => t.charSpacing
  | .wordSpacing => t.wordSpacing
  | .horizontalScaling => t.horizontalScaling

def factors (t : TextState K) : TextFactors K :=
  ⟨t.advanceFactor, t.scaledCharSpacing, t.scaledWordSpacing⟩

variable [Scalar K]

/-- The parameters have some values, and the factors are those of the same values. -/
structure Holds (value : TextParameter → K) (t : TextState K) : Prop where
  parameter : t.parameter = value
  factors : t.factors = .of value

theorem refresh_holds (t : TextState K) : t.refresh.Holds t.parameter := ⟨rfl, rfl⟩

/-- The text states there can be: the first one, and what operations on text states make of others. -/
inductive Made : TextState K → Prop
  | initial : Made initial
  | setFont {t} (font : SelectedFont K) (size : K) : Made t → Made (t.setFont font size)
  | setSize {t} (size : K) : Made t → Made (t.setSize size)
  | setCharSpacing {t} (spacing : K) : Made t → Made (t.setCharSpacing spacing)
  | setWordSpacing {t} (spacing : K) : Made t → Made (t.setWordSpacing spacing)
  | setHorizontalScaling {t} (percent : K) : Made t → Made (t.setHorizontalScaling percent)
  | setLeading {t} (leading : K) : Made t → Made (t.setLeading leading)
  | setRenderMode {t} (mode : RenderMode) : Made t → Made (t.setRenderMode mode)
  | setRise {t} (rise : K) : Made t → Made (t.setRise rise)
  | place {t} (ctm : Matrix K) : Made t → Made (t.place ctm)
  | beginObject {t} (ctm : Matrix K) : Made t → Made (t.beginObject ctm)
  | endObject {t} : Made t → Made t.endObject
  | setMatrix {t} (m ctm : Matrix K) : Made t → Made (t.setMatrix m ctm)
  | moveLine {t} (tx ty : K) (ctm : Matrix K) : Made t → Made (t.moveLine tx ty ctm)
  | moveLineSetLeading {t} (tx ty : K) (ctm : Matrix K) :
    Made t → Made (t.moveLineSetLeading tx ty ctm)
  | nextLine {t} (ctm : Matrix K) : Made t → Made (t.nextLine ctm)
  | advance {t} (tx : K) : Made t → Made (t.advance tx)

theorem made_holds {t : TextState K} (made : Made t) : t.Holds t.parameter := by
  induction made with
  | initial | setFont | setSize | setCharSpacing | setWordSpacing | setHorizontalScaling =>
    exact refresh_holds _
  | setLeading _ _ ih | setRenderMode _ _ ih | setRise _ _ ih | place _ _ ih | beginObject _ _ ih
    | endObject _ ih | setMatrix _ _ _ ih | moveLine _ _ _ _ ih | moveLineSetLeading _ _ _ _ ih
    | nextLine _ _ ih | advance _ _ ih =>
    exact ⟨rfl, ih.factors⟩

end TextState

def Callback.gives : Callback K R → TextParameter → Option K
  | .font _ _ size, .size => some size
  | .parameters _ (some p), .size => p.fontSize
  | .charSpacing spacing, .charSpacing => some spacing
  | .wordSpacing spacing, .wordSpacing => some spacing
  | .horizontalScaling percent, .horizontalScaling => some percent
  | _, _ => none

def lastGiven (initial : TextParameter → K) (calls : List (Callback K R)) (p : TextParameter) : K :=
  (calls.filterMap (·.gives p)).getLast?.getD (initial p)

theorem lastGiven_concat (initial : TextParameter → K) (calls : List (Callback K R))
    (c : Callback K R) :
    lastGiven initial (calls ++ [c]) = fun p => (c.gives p).getD (lastGiven initial calls p) := by
  funext p
  unfold lastGiven
  rw [List.filterMap_append]
  cases given : c.gives p with
  | none => simp [given]
  | some value => simp [given]

/-- The callbacks that have a part in the current state, and those that have one in each saved state, the
most recent first. -/
structure Standing (K R : Type) where
  current : List (Callback K R)
  saved : List (List (Callback K R))

/-- What an answer makes of them: a restore that is accepted forgets the callbacks since its save. -/
def Standing.heed (s : Standing K R) (entry : Entry K R) : Standing K R :=
  match entry.changed, entry with
  | .up, _ => { s with saved := s.current :: s.saved }
  | .down, _ => ⟨s.saved.headD s.current, s.saved.tail⟩
  | .level, .call c _ => { s with current := s.current ++ [c] }
  | .level, _ => s

def standing (log : Log K R) : Standing K R := log.foldl Standing.heed ⟨[], []⟩

namespace Engine

open Interpreter

variable [Scalar K] {surface : Surface K σ} {hints : Bool} {e after : Engine K σ}
  {value initial : TextParameter → K}

def TextHolds (value : TextParameter → K) (e : Engine K σ) : Prop := e.state.text.Holds value

theorem textHolds_unmoved (value : TextParameter → K) : Unmoved (TextHolds (σ := σ) value) where
  surface _ holds := holds
  advance _ holds := ⟨holds.parameter, holds.factors⟩

theorem finishPath_textHolds (op : PaintOp) (holds : TextHolds value e) :
    TextHolds value (e.finishPath surface hints op).2 := by
  obtain ⟨s, finished⟩ := finishPath_effect surface hints e op
  rw [finished]
  exact holds

theorem refreshed_holds {t given : TextState K} {c : Callback K R} (holds : t.Holds value)
    (gives : given.parameter = fun p => (c.gives p).getD (t.parameter p)) :
    given.refresh.Holds fun p => (c.gives p).getD (value p) := by
  rw [← holds.parameter, ← gives]
  exact TextState.refresh_holds given

theorem applyParameters_holds {name : String} (parameters : Parameters K)
    (holds : TextHolds value e) :
    (e.state.applyParameters parameters).text.Holds fun p =>
      ((.parameters name (some parameters) : Callback K R).gives p).getD (value p) := by
  unfold GraphicsState.applyParameters
  cases sized : parameters.fontSize with
  | none =>
    have still : (fun p => ((.parameters name (some parameters) : Callback K R).gives p).getD
        (value p)) = value := by
      funext p
      cases p <;> simp [Callback.gives, sized]
    rw [still]
    exact holds
  | some size =>
    refine refreshed_holds holds ?_
    funext p
    cases p <;> simp [Callback.gives, sized, TextState.parameter]

theorem call_holds {c : Callback K R}
    (level : (Entry.call c (call surface hints c e).1).changed = .level)
    (holds : TextHolds value e) :
    TextHolds (fun p => (c.gives p).getD (value p)) (call surface hints c e).2 := by
  cases c
  case save =>
    change TextHolds value e.save.2
    rcases save_cases e with ⟨-, -, grown⟩ | ⟨-, -, same⟩
    · rw [grown]
      exact holds
    · rw [same]
      exact holds
  case restore =>
    change Entry.changed (.call (.restore : Callback K R) e.restore.1) = .level at level
    change TextHolds value e.restore.2
    rcases restore_cases e with ⟨_, _, -, taken, -⟩ | ⟨-, -, same⟩
    · simp [Entry.changed, taken] at level
    · rw [same]
      exact holds
  case font | charSpacing | wordSpacing | horizontalScaling =>
    refine refreshed_holds holds ?_
    funext p
    cases p <;> rfl
  case parameters name parameters =>
    rcases parameters with _ | parameters
    · exact holds
    · exact applyParameters_holds parameters holds
  case concat m =>
    simp only [call, concat, outsidePath_snd]
    exact ⟨holds.parameter, holds.factors⟩
  case stroke closing | fillStroke closing rule =>
    cases closing
    all_goals exact finishPath_textHolds _ holds
  case fill | endPath => exact finishPath_textHolds _ holds
  case showText bytes => exact (textHolds_unmoved value).showText bytes holds
  case showTextAdjusted items => exact (textHolds_unmoved value).showAdjusted items holds
  case drawXObject name xobject => rcases xobject with _ | _ | _ | _ <;> exact holds
  case lineTo x y => simp only [call, lineTo]; split <;> exact holds
  case curveTo | curveFromCurrent | curveIntoEnd =>
    simp only [call, drawCurve]; split <;> exact holds
  case colorSpace side name space =>
    simp only [call, setColorSpace]; split <;> cases side <;> exact holds
  case color side _ | pattern side _ _ _ | deviceColor side _ _ => cases side <;> exact holds
  case beginText =>
    simp only [call, beginText]; split <;> exact ⟨holds.parameter, holds.factors⟩
  case endText =>
    simp only [call, endText]; split <;> exact ⟨holds.parameter, holds.factors⟩
  case endMarked => simp only [call, endMarked]; split <;> exact holds
  all_goals exact ⟨holds.parameter, holds.factors⟩

def Backed (initial : TextParameter → K) (stands : Standing K R) (e : Engine K σ) : Prop :=
  List.Forall₂ (fun (state : GraphicsState K) calls => state.text.Holds (lastGiven initial calls))
    (e.state :: e.stack.saved) (stands.current :: stands.saved)

theorem call_backed {stands : Standing K R} (c : Callback K R) (backed : Backed initial stands e) :
    Backed initial (stands.heed (.call c (call surface hints c e).1))
      (call surface hints c e).2 := by
  obtain ⟨holds, below⟩ := List.forall₂_cons.mp backed
  cases turn : (Entry.call c (call surface hints c e).1).changed with
  | level =>
    have still := call_level surface hints e turn
    have given := call_holds turn holds
    rw [← lastGiven_concat] at given
    simp only [Standing.heed, turn]
    refine .cons given ?_
    rwa [still]
  | up =>
    obtain ⟨rfl, saves⟩ := changed_up turn
    simp only [Standing.heed, turn]
    change Backed initial _ e.save.2
    rcases save_cases e with ⟨-, -, grown⟩ | ⟨-, failed, -⟩
    · rw [grown]
      exact .cons holds (.cons holds below)
    · change accepted e.save.1 = true at saves
      rw [failed] at saves
      cases saves
  | down =>
    obtain ⟨rfl, restores⟩ := changed_down turn
    simp only [Standing.heed, turn]
    change Backed initial _ e.restore.2
    rcases restore_cases e with ⟨top, saved, found, -, taken⟩ | ⟨-, failed, -⟩
    · rw [found] at below
      obtain ⟨calls, others, back, deeper, split⟩ := List.forall₂_cons_left_iff.mp below
      rw [taken, split]
      exact .cons ⟨back.parameter, back.factors⟩ deeper
    · change accepted e.restore.1 = true at restores
      rw [failed] at restores
      cases restores

theorem replays_backed {stands : Standing K R} {log : Log K R}
    (replays : Replays surface hints e log after) (backed : Backed initial stands e) :
    Backed initial (log.foldl Standing.heed stands) after := by
  induction log generalizing e stands with
  | nil =>
    cases replays
    exact backed
  | cons entry rest ih =>
    cases entry with
    | note | warning | offer => exact ih replays backed
    | call c answer =>
      obtain ⟨rfl, replays⟩ := replays
      exact ih replays (call_backed c backed)

structure FactorsCurrent (initial : TextParameter → K) (log : Log K R) (e : Engine K σ) : Prop where
  own : ∀ state ∈ e.state :: e.stack.saved, state.text.factors = .of state.text.parameter
  given : Backed initial (standing log) e

theorem Backed.own {stands : Standing K R} (backed : Backed initial stands e) :
    ∀ state ∈ e.state :: e.stack.saved, state.text.factors = .of state.text.parameter := by
  have both := backed.imp fun state calls holds =>
    And.intro (holds.factors.trans (congrArg _ holds.parameter.symm)) holds
  exact ((List.forall₂_and_left _ _).mp both).1

theorem replays_current {initial : GraphicsState K} (made : initial.text.Made) {limit : Nat} {s : σ}
    {log : Log K R} (replays : Replays surface hints (start initial limit s) log e) :
    FactorsCurrent initial.text.parameter log e := by
  have first : Backed initial.text.parameter (⟨[], []⟩ : Standing K R) (start initial limit s) :=
    .cons (TextState.made_holds made) .nil
  have backed := replays_backed replays first
  exact ⟨backed.own, backed⟩

/-- Whatever callbacks an engine has answered, and whatever content it has been driven by, the factors
are never out of date. -/
theorem factors_current (surface : Surface K σ) (hints : Bool) (initial : GraphicsState K)
    (made : initial.text.Made) (limit : Nat) (s : σ) :
    (∀ calls : List (Callback K R),
      let (log, e) := feed surface hints calls (start initial limit s)
      FactorsCurrent initial.text.parameter log e) ∧
    ∀ (η : Type) (handler : Handler η) (cancelled : Engine K σ → Bool) (resolver : Resolver K R)
      (depth : Nat) (scope : R) (content : List Operation) (h : η),
      let (_, (e, _), log) := process (Host.of (device surface hints) handler cancelled).logged resolver
        depth scope content ((start initial limit s, h), [])
      FactorsCurrent initial.text.parameter log e := by
  constructor
  · intro calls
    exact replays_current made (feed_replays surface hints _ calls)
  · intro η handler cancelled resolver depth scope content h
    have blank : Replays surface hints (start initial limit s) ([] : Log K R) _ := rfl
    have replays := (engine_replays surface hints handler cancelled (start initial limit s)).run
      resolver depth depth scope content (w := ((start initial limit s, h), [])) blank
    exact replays_current made replays

def narrowed : List (Callback ℚ Unit) :=
  [.font "F" none 10, .horizontalScaling 50, .save, .charSpacing 4,
    .parameters "G" (some { fontSize := some 20 }), .restore, .wordSpacing 6]

def page : GraphicsState ℚ := .initial ⟨1, 0, 0, 1, 0, 0⟩

theorem factors_current_narrowed :
    page.text.Made ∧
      (feed (.silent ℚ) false narrowed (start page 1 ())).2.state.text.factors = ⟨1 / 200, 0, 3⟩ := by
  have made : page.text.Made := .initial
  obtain ⟨feeds, -⟩ := factors_current (R := Unit) (.silent ℚ) false page made 1 ()
  have current := (List.forall₂_cons.mp (feeds narrowed).given).1
  refine ⟨made, current.factors.trans ?_⟩
  decide +kernel

end Engine
end PageMarks
