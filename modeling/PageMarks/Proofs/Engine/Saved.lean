import PageMarks.Proofs.Balance
import PageMarks.Proofs.Engine.Effect

/-!
Saved states. Only saves and restores touch them, whatever the surface answers, and these do so only
when they are accepted. So a balanced sequence of callbacks leaves them as they were.
-/

namespace PageMarks

/-- What an answer says about the saved states: a save that is accepted adds one, a restore that is
accepted takes one away. -/
def Entry.changed {K R : Type} : Entry K R → Step
  | .call .save answer => if accepted answer then .up else .level
  | .call .restore answer => if accepted answer then .down else .level
  | _ => .level

section

variable {K R : Type} {c : Callback K R} {answer : Outcome}

theorem changed_up (up : (Entry.call c answer).changed = .up) : c = .save ∧ accepted answer := by
  cases c
  case save => simpa [Entry.changed] using up
  case restore => simp only [Entry.changed] at up; split at up <;> cases up
  all_goals cases up

theorem changed_down (down : (Entry.call c answer).changed = .down) :
    c = .restore ∧ accepted answer := by
  cases c
  case save => simp only [Entry.changed] at down; split at down <;> cases down
  case restore => simpa [Entry.changed] using down
  all_goals cases down

end

namespace Engine

variable {K R σ : Type}

def SameSaved (e after : Engine K σ) : Prop := after.stack.saved = e.stack.saved

variable [Scalar K] (surface : Surface K σ) (hints : Bool) (e : Engine K σ)

theorem sameSaved_unmoved : Unmoved (SameSaved e) where
  surface _ same := same
  advance _ same := same

theorem finishPath_sameSaved (op : PaintOp) : SameSaved e (e.finishPath surface hints op).2 := by
  obtain ⟨s, finished⟩ := finishPath_effect surface hints e op
  rw [finished]
  rfl

theorem call_sameSaved (c : Callback K R) (saveless : c ≠ .save) (restoreless : c ≠ .restore) :
    SameSaved e (call surface hints c e).2 := by
  cases c
  case save => exact absurd rfl saveless
  case restore => exact absurd rfl restoreless
  case concat m => simp only [call, concat, outsidePath_snd]; rfl
  case stroke closing | fillStroke closing rule =>
    cases closing
    all_goals exact finishPath_sameSaved surface hints _ _
  case fill | endPath => exact finishPath_sameSaved surface hints e _
  case showText bytes => exact (sameSaved_unmoved e).showText bytes rfl
  case showTextAdjusted items => exact (sameSaved_unmoved e).showAdjusted items rfl
  case parameters name parameters => cases parameters <;> rfl
  case drawXObject name xobject => rcases xobject with _ | _ | _ | _ <;> rfl
  case lineTo x y => simp only [call, lineTo]; split <;> rfl
  case curveTo | curveFromCurrent | curveIntoEnd => simp only [call, drawCurve]; split <;> rfl
  case colorSpace side name space => simp only [call, setColorSpace]; split <;> rfl
  case beginText => simp only [call, beginText]; split <;> rfl
  case endText => simp only [call, endText]; split <;> rfl
  case endMarked => simp only [call, endMarked]; split <;> rfl
  all_goals rfl

theorem call_up {c : Callback K R}
    (up : (Entry.call c (call surface hints c e).1).changed = .up) :
    (call surface hints c e).2.stack.saved = e.state :: e.stack.saved := by
  obtain ⟨rfl, ok⟩ := changed_up up
  change e.save.2.stack.saved = _
  rcases save_cases e with ⟨-, -, grown⟩ | ⟨-, failed, -⟩
  · rw [grown]
  · change accepted e.save.1 = true at ok
    rw [failed] at ok
    cases ok

theorem call_down {c : Callback K R}
    (down : (Entry.call c (call surface hints c e).1).changed = .down) :
    ∃ top, e.stack.saved = top :: (call surface hints c e).2.stack.saved := by
  obtain ⟨rfl, ok⟩ := changed_down down
  change ∃ top, e.stack.saved = top :: e.restore.2.stack.saved
  rcases restore_cases e with ⟨top, saved, found, -, same⟩ | ⟨-, failed, -⟩
  · rw [same]
    exact ⟨top, found⟩
  · change accepted e.restore.1 = true at ok
    rw [failed] at ok
    cases ok

theorem call_level {c : Callback K R}
    (level : (Entry.call c (call surface hints c e).1).changed = .level) :
    SameSaved e (call surface hints c e).2 := by
  by_cases saving : c = .save
  · subst saving
    change SameSaved e e.save.2
    change Entry.changed (.call (.save : Callback K R) e.save.1) = .level at level
    rcases save_cases e with ⟨-, ok, -⟩ | ⟨-, -, same⟩
    · simp [Entry.changed, ok] at level
    · rw [same]
      rfl
  by_cases restoring : c = .restore
  · subst restoring
    change SameSaved e e.restore.2
    change Entry.changed (.call (.restore : Callback K R) e.restore.1) = .level at level
    rcases restore_cases e with ⟨_, _, -, ok, -⟩ | ⟨-, -, same⟩
    · simp [Entry.changed, ok] at level
    · rw [same]
      rfl
  exact call_sameSaved surface hints e c saving restoring

def feed : List (Callback K R) → Engine K σ → Log K R × Engine K σ
  | [], e => ([], e)
  | c :: rest, e =>
    let (answer, e) := call surface hints c e
    let (log, e) := feed rest e
    (.call c answer :: log, e)

theorem feed_append (calls later : List (Callback K R)) :
    feed surface hints (calls ++ later) e =
      ((feed surface hints calls e).1 ++ (feed surface hints later (feed surface hints calls e).2).1,
        (feed surface hints later (feed surface hints calls e).2).2) := by
  induction calls generalizing e with
  | nil => rfl
  | cons c rest ih => simp only [List.cons_append, feed, ih]

/-- The callbacks of a log, answered by an engine as the log says, take it to another state. -/
def Replays : Engine K σ → Log K R → Engine K σ → Prop
  | e, [], after => after = e
  | e, .call c answer :: rest, after =>
    (call surface hints c e).1 = answer ∧ Replays (call surface hints c e).2 rest after
  | e, _ :: rest, after => Replays e rest after

theorem feed_replays (calls : List (Callback K R)) :
    Replays surface hints e (feed surface hints calls e).1 (feed surface hints calls e).2 := by
  induction calls generalizing e with
  | nil => rfl
  | cons c rest ih => exact ⟨rfl, ih _⟩

theorem replays_append {e after : Engine K σ} {log later : Log K R} :
    Replays surface hints e (log ++ later) after ↔
      ∃ between, Replays surface hints e log between ∧ Replays surface hints between later after := by
  induction log generalizing e with
  | nil => simp [Replays]
  | cons entry rest ih =>
    cases entry with
    | call => simp only [List.cons_append, Replays, ih, and_assoc, exists_and_left]
    | note | warning | offer => exact ih

theorem replays_saved {e after : Engine K σ} {log : Log K R} {extra base : List (GraphicsState K)}
    {m : Nat} (replays : Replays surface hints e log after) (split : e.stack.saved = extra ++ base)
    (reached : height Entry.changed extra.length log = some m) :
    ∃ above, after.stack.saved = above ++ base ∧ above.length = m := by
  induction log generalizing e extra with
  | nil =>
    cases replays
    cases reached
    exact ⟨extra, split, rfl⟩
  | cons entry rest ih =>
    cases entry with
    | note | warning | offer => exact ih replays split reached
    | call c answer =>
      obtain ⟨rfl, replays⟩ := replays
      cases turn : (Entry.call c (call surface hints c e).1).changed with
      | up =>
        rw [height_up turn] at reached
        refine @ih _ (e.state :: extra) replays ?_ reached
        rw [call_up surface hints e turn, split, List.cons_append]
      | level =>
        rw [height_level turn] at reached
        exact ih replays (Eq.trans (call_level surface hints e turn) split) reached
      | down =>
        obtain ⟨top, found⟩ := call_down surface hints e turn
        cases extra with
        | nil => rw [List.length_nil, height_down_zero turn] at reached; cases reached
        | cons head extra =>
          rw [List.length_cons, height_down turn] at reached
          rw [split, List.cons_append] at found
          exact ih replays (List.cons.inj found).2.symm reached

end Engine
end PageMarks
