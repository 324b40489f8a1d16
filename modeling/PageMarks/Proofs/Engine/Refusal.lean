import PageMarks.Proofs.Engine.Driven
import PageMarks.Proofs.Interpreter.Nesting
import PageMarks.Proofs.Interpreter.Scoping

/-!
Saves and restores that fail. A save is refused just when the states saved are as many as the limit
allows, and a restore just when there are none; nothing is changed then. So where failures are
swallowed, content without forms does to an engine what it does without the operations that fail.
-/

namespace PageMarks.Engine

open Interpreter

variable {K R σ η : Type}

/-- Content without the saves and restores that fail, from `depth` saved states on with at most
`limit` of them. -/
def withoutRefused (limit : Nat) : Nat → List Operation → List Operation
  | _, [] => []
  | depth, op :: rest =>
    match op.step, depth with
    | .level, depth => op :: withoutRefused limit depth rest
    | .up, depth =>
      if limit ≤ depth then withoutRefused limit depth rest
      else op :: withoutRefused limit (depth + 1) rest
    | .down, 0 => withoutRefused limit 0 rest
    | .down, depth + 1 => op :: withoutRefused limit depth rest

section

variable {limit depth : Nat} {op : Operation} (rest : List Operation)

theorem withoutRefused_level (level : op.step = .level) :
    withoutRefused limit depth (op :: rest) = op :: withoutRefused limit depth rest := by
  simp only [withoutRefused, level]

theorem withoutRefused_full (up : op.step = .up) (full : limit ≤ depth) :
    withoutRefused limit depth (op :: rest) = withoutRefused limit depth rest := by
  simp only [withoutRefused, up, if_pos full]

theorem withoutRefused_up (up : op.step = .up) (room : depth < limit) :
    withoutRefused limit depth (op :: rest) = op :: withoutRefused limit (depth + 1) rest := by
  simp only [withoutRefused, up, if_neg (Nat.not_le_of_lt room)]

theorem withoutRefused_empty (down : op.step = .down) :
    withoutRefused limit 0 (op :: rest) = withoutRefused limit 0 rest := by
  simp only [withoutRefused, down]

theorem withoutRefused_down (down : op.step = .down) :
    withoutRefused limit (depth + 1) (op :: rest) = op :: withoutRefused limit depth rest := by
  simp only [withoutRefused, down]

end

def Formless (resolver : Resolver K R) (scope : R) (content : List Operation) : Prop :=
  ∀ inner, ¬ Invokes resolver (scope, content) inner

theorem formless_cons {resolver : Resolver K R} {scope : R} {op : Operation}
    {rest : List Operation} (formless : Formless resolver scope (op :: rest)) :
    Formless resolver scope rest := by
  intro inner invokes
  cases invokes with
  | form member kind named found =>
    exact formless _ (.form (List.mem_cons_of_mem _ member) kind named found)

theorem formless_head {resolver : Resolver K R} {scope : R} {op : Operation}
    {rest : List Operation} (formless : Formless resolver scope (op :: rest)) :
    Formless resolver scope [op] := by
  intro inner invokes
  cases invokes with
  | form member kind named found =>
    rw [List.mem_singleton] at member
    subst member
    exact formless _ (.form List.mem_cons_self kind named found)

variable [Scalar K]

section

variable (surface : Surface K σ) (hints : Bool) (e : Engine K σ)

/-- A callback fails just under a condition, with an error of the stack, and nothing is changed
then. -/
structure FailsWhen (c : Callback K R) (condition : Prop) (error : StackError) : Prop where
  fails : condition → call surface hints c e = (.error (.fatal (.stack error)), e)
  succeeds : ¬ condition → accepted (call surface hints c e).1 = true

theorem save_full (full : e.stack.limit ≤ e.stack.depth) :
    call surface hints (.save : Callback K R) e =
      (.error (.fatal (.stack (.overflow e.stack.limit))), e) := by
  change e.save = _
  unfold save StateStack.save
  rw [if_pos full]

theorem save_grows (room : e.stack.depth < e.stack.limit) :
    accepted (call surface hints (.save : Callback K R) e).1 = true ∧
      (call surface hints (.save : Callback K R) e).2.stack.depth = e.stack.depth + 1 := by
  change accepted e.save.1 = true ∧ e.save.2.stack.depth = e.stack.depth + 1
  rcases save_cases e with ⟨-, ok, grown⟩ | ⟨full, -, -⟩
  · rw [grown]
    exact ⟨ok, rfl⟩
  · exact absurd room (Nat.not_lt_of_le full)

theorem restore_empty (empty : e.stack.depth = 0) :
    call surface hints (.restore : Callback K R) e =
      (.error (.fatal (.stack .underflow)), e) := by
  change e.restore = _
  unfold restore StateStack.restore
  rw [List.length_eq_zero_iff.mp empty]

theorem restore_shrinks {depth : Nat} (deep : e.stack.depth = depth + 1) :
    accepted (call surface hints (.restore : Callback K R) e).1 = true ∧
      (call surface hints (.restore : Callback K R) e).2.stack.depth = depth := by
  change accepted e.restore.1 = true ∧ e.restore.2.stack.depth = depth
  rcases restore_cases e with ⟨top, saved, found, ok, shrunk⟩ | ⟨none, -, -⟩
  · rw [StateStack.depth, found] at deep
    rw [shrunk]
    exact ⟨ok, Nat.succ.inj deep⟩
  · rw [StateStack.depth, none] at deep
    cases deep

theorem save_fails (bounded : e.stack.depth ≤ e.stack.limit) :
    FailsWhen surface hints e (.save : Callback K R) (e.stack.depth = e.stack.limit)
      (.overflow e.stack.limit) where
  fails full := save_full surface hints e (Nat.le_of_eq full.symm)
  succeeds room := (save_grows surface hints e (Nat.lt_of_le_of_ne bounded room)).1

theorem restore_fails :
    FailsWhen surface hints e (.restore : Callback K R) (e.stack.depth = 0) .underflow where
  fails empty := restore_empty surface hints e empty
  succeeds deep :=
    (restore_shrinks surface hints e (Nat.succ_pred_eq_of_ne_zero deep).symm).1

def SameLimit (after : Engine K σ) : Prop := after.stack.limit = e.stack.limit

theorem sameLimit_unmoved : Unmoved (SameLimit e) where
  surface _ same := same
  advance _ same := same

theorem finishPath_sameLimit (op : PaintOp) : SameLimit e (e.finishPath surface hints op).2 := by
  obtain ⟨s, finished⟩ := finishPath_effect surface hints e op
  rw [finished]
  rfl

theorem call_sameLimit (c : Callback K R) : SameLimit e (call surface hints c e).2 := by
  cases c
  case save =>
    change SameLimit e e.save.2
    rcases save_cases e with ⟨-, -, same⟩ | ⟨-, -, same⟩ <;> rw [same] <;> rfl
  case restore =>
    change SameLimit e e.restore.2
    rcases restore_cases e with ⟨_, _, -, -, same⟩ | ⟨-, -, same⟩ <;> rw [same] <;> rfl
  case concat m => simp only [call, concat, outsidePath_snd]; rfl
  case stroke closing | fillStroke closing rule =>
    cases closing
    all_goals exact finishPath_sameLimit surface hints _ _
  case fill | endPath => exact finishPath_sameLimit surface hints e _
  case showText bytes => exact (sameLimit_unmoved e).showText bytes rfl
  case showTextAdjusted items => exact (sameLimit_unmoved e).showAdjusted items rfl
  case parameters name parameters => cases parameters <;> rfl
  case drawXObject name xobject => rcases xobject with _ | _ | _ | _ <;> rfl
  case lineTo x y => simp only [call, lineTo]; split <;> rfl
  case curveTo | curveFromCurrent | curveIntoEnd => simp only [call, drawCurve]; split <;> rfl
  case colorSpace side name space => simp only [call, setColorSpace]; split <;> rfl
  case beginText => simp only [call, beginText]; split <;> rfl
  case endText => simp only [call, endText]; split <;> rfl
  case endMarked => simp only [call, endMarked]; split <;> rfl
  all_goals rfl

theorem call_bounded (c : Callback K R) (bounded : e.stack.depth ≤ e.stack.limit) :
    (call surface hints c e).2.stack.depth ≤ (call surface hints c e).2.stack.limit := by
  rw [call_sameLimit surface hints e c]
  cases turn : (Entry.call c (call surface hints c e).1).changed with
  | up =>
    obtain ⟨rfl, ok⟩ := changed_up turn
    change e.save.2.stack.depth ≤ e.stack.limit
    rcases save_cases e with ⟨room, -, grown⟩ | ⟨-, -, same⟩
    · rw [grown]
      exact room
    · rw [same]
      exact bounded
  | level =>
    rw [StateStack.depth, call_level surface hints e turn]
    exact bounded
  | down =>
    obtain ⟨top, found⟩ := call_down surface hints e turn
    rw [StateStack.depth, found, List.length_cons] at bounded
    exact Nat.le_of_succ_le bounded

theorem feed_bounded (calls : List (Callback K R)) (bounded : e.stack.depth ≤ e.stack.limit) :
    (feed surface hints calls e).2.stack.depth ≤ (feed surface hints calls e).2.stack.limit := by
  induction calls generalizing e with
  | nil => exact bounded
  | cons c rest ih => exact ih _ (call_bounded surface hints e c bounded)

theorem feed_sameLimit (calls : List (Callback K R)) :
    SameLimit e (feed surface hints calls e).2 := by
  induction calls generalizing e with
  | nil => rfl
  | cons c rest ih => exact (ih _).trans (call_sameLimit surface hints e c)

end

section

variable {surface : Surface K σ} {hints : Bool} {handler : Handler η}
  {cancelled : Engine K σ → Bool} {resolver : Resolver K R} {frame : Frame R} {op : Operation}

def SameEngine (x y : Engine K σ × η) : Prop := x.1 = y.1

variable (swallows : ∀ failure h, (handler.offer failure h).1 = .ok ())
include swallows

theorem swallowing_lockstep :
    Lockstep (driving (R := R) surface hints handler cancelled)
      (driving surface hints handler cancelled) SameEngine where
  features _ := rfl
  call c same := by
    refine ⟨congrArg (fun e => (call surface hints c e).1) same, ?_⟩
    exact congrArg (fun e => (call surface hints c e).2) same
  warn _ same := same
  offer failure same := ⟨(swallows failure _).trans (swallows failure _).symm, same⟩
  note _ same _ := same
  cancelled same := congrArg cancelled same

omit swallows in
theorem sameEngine_site (operator : String) (index other : Nat) :
    Lockstep.SameSite (driving (R := R) surface hints handler cancelled)
      (driving surface hints handler cancelled) SameEngine ⟨operator, index⟩ ⟨operator, other⟩ where
  operator := rfl
  heard _ same := same
  taken same _ := same
  stopped same _ := same

omit swallows

theorem operate_level (forms : FormRunner K R (Engine K σ × η)) (site : Site)
    (w : Engine K σ × η) (level : op.step = .level) (formless : Formless resolver frame.scope [op]) :
    let after :=
      (operate (driving surface hints handler cancelled) resolver forms frame site op w).2.2.1
    after.stack.depth = w.1.stack.depth ∧ after.stack.limit = w.1.stack.limit := by
  apply operate_keeps site w
    (P := fun e => e.stack.depth = w.1.stack.depth ∧ e.stack.limit = w.1.stack.limit)
  · intro p planned name form enters
    have entered := plan_enters resolver _ frame op p planned name form enters
    exact formless _ (.form List.mem_cons_self entered.kind entered.named entered.found)
  · intro c own e ⟨depth, limit⟩
    obtain ⟨saveless, restoreless⟩ := own_others own level
    have saved := call_sameSaved surface hints e c saveless restoreless
    exact ⟨(congrArg List.length saved).trans depth, (call_sameLimit surface hints e c).trans limit⟩
  · exact ⟨rfl, rfl⟩

theorem execute_failing {c : Callback K R} {failure : Failure}
    (forms : FormRunner K R (Engine K σ × η)) (index : Nat) (rest : List Operation)
    (w : Engine K σ × η)
    (planned : plan resolver (fun _ => true) frame op = .ok (calls frame [c]))
    (fails : call surface hints c w.1 = (.error (.fatal failure), w.1))
    (swallows : ∀ failure h, (handler.offer failure h).1 = .ok ()) :
    ∃ h, (execute (driving surface hints handler cancelled) resolver forms frame index (op :: rest)
        w).2 =
      (execute (driving surface hints handler cancelled) resolver forms frame (index + 1) rest
        (w.1, h)).2 := by
  by_cases stopped : cancelled w.1 = true
  · exact ⟨w.2, (execute_stopped index (op :: rest) stopped).trans
      (execute_stopped (index + 1) rest stopped).symm⟩
  have found : plan resolver ((driving (R := R) surface hints handler cancelled).features w) frame
      op = .ok (calls frame [c]) := planned
  have performed :
      perform (driving (R := R) surface hints handler cancelled) [c] w =
        (.error (.fatal failure), w) := by
    rw [perform_one, fails]
  have carried (site : Site) :
      carryOut (driving surface hints handler cancelled) forms site frame.scope (calls frame [c]) w =
        (.error (.fatal failure), w) := by
    simp only [carryOut, calls, performed]
  have settled (site : Site) (sections : Nat) :
      settle (driving (R := R) surface hints handler cancelled) site sections
        (.error (.fatal failure), w) = (.ok (), w.1, (handler.offer failure w.2).2) :=
    Prod.ext (swallows failure w.2) rfl
  refine ⟨(handler.offer failure w.2).2, ?_⟩
  rw [execute_next index rest (eq_false_of_ne_true stopped)]
  unfold operate
  rw [found]
  dsimp only
  rw [carried, settled]
  rfl

variable (swallows : ∀ failure h, (handler.offer failure h).1 = .ok ()) {limit room : Nat}
include swallows

theorem execute_both {index other : Nat} {op : Operation} {rest remaining : List Operation}
    {x y : Engine K σ × η} (same : SameEngine x y) {forms : FormRunner K R (Engine K σ × η)}
    (runs : forms = formRunner (driving surface hints handler cancelled) resolver limit room)
    (later : ∀ (site : Site) (sections : Nat) (v u : Engine K σ × η), SameEngine v u →
      v.1 = (operate (driving surface hints handler cancelled) resolver forms frame site op
        x).2.2.1 →
      SameEngine
        (execute (driving surface hints handler cancelled) resolver forms { frame with sections }
          (index + 1) rest v).2
        (execute (driving surface hints handler cancelled) resolver forms { frame with sections }
          (other + 1) remaining u).2) :
    SameEngine
      (execute (driving surface hints handler cancelled) resolver forms frame index (op :: rest)
        x).2
      (execute (driving surface hints handler cancelled) resolver forms frame other
        (op :: remaining) y).2 := by
  have asked : cancelled x.1 = cancelled y.1 := congrArg cancelled same
  cases stopped : cancelled x.1 with
  | true =>
    rw [execute_stopped index _ stopped, execute_stopped other _ (asked ▸ stopped)]
    exact same
  | false =>
    have together : Lockstep (driving (R := R) surface hints handler cancelled)
        (driving surface hints handler cancelled) SameEngine := swallowing_lockstep swallows
    have sites : Lockstep.SameSite (driving (R := R) surface hints handler cancelled)
        (driving surface hints handler cancelled) SameEngine ⟨op.operator, index⟩
        ⟨op.operator, other⟩ := sameEngine_site op.operator index other
    obtain ⟨answer, sections, v, u, first, second, after⟩ := sites.operate together
      (together.formRunnerAt resolver limit room sites) resolver frame op same
    subst runs
    have grown := later ⟨op.operator, index⟩ sections v u after (by rw [first])
    cases answer with
    | ok =>
      rw [execute_next index rest stopped first,
        execute_next other remaining (asked ▸ stopped) second]
      exact grown
    | error failure =>
      rw [execute_raised index rest stopped first,
        execute_raised other remaining (asked ▸ stopped) second]
      exact after

theorem execute_withoutRefused (content : List Operation) {frame : Frame R} {index other : Nat}
    {x y : Engine K σ × η} (same : SameEngine x y) (formless : Formless resolver frame.scope content) :
    SameEngine
      (execute (driving surface hints handler cancelled) resolver
        (formRunner (driving surface hints handler cancelled) resolver limit room) frame index
        content x).2
      (execute (driving surface hints handler cancelled) resolver
        (formRunner (driving surface hints handler cancelled) resolver limit room) frame other
        (withoutRefused x.1.stack.limit x.1.stack.depth content) y).2 := by
  induction content generalizing frame index other x y with
  | nil => exact same
  | cons op rest ih =>
    have others : Formless resolver frame.scope rest := formless_cons formless
    have alone : Formless resolver frame.scope [op] := formless_head formless
    cases turn : op.step with
    | level =>
      rw [withoutRefused_level rest turn]
      refine execute_both swallows same rfl ?_
      intro site sections v u after reached
      obtain ⟨depth, limit⟩ := operate_level (formRunner _ resolver limit room) site x turn alone
      rw [← reached] at depth limit
      rw [← depth, ← limit]
      exact ih after others
    | up =>
      have planned : plan resolver (fun _ => true) frame op = .ok (calls frame [.save]) :=
        plan_save (step_up turn)
      by_cases full : x.1.stack.limit ≤ x.1.stack.depth
      -- The handler has heard of the failure, and the engine is where it was.
      · obtain ⟨h, skipped⟩ := execute_failing (formRunner _ resolver limit room) index rest x
          planned (save_full surface hints x.1 full) swallows
        rw [skipped, withoutRefused_full rest turn full]
        exact ih (x := (x.1, h)) same others
      · have space : x.1.stack.depth < x.1.stack.limit := Nat.lt_of_not_le full
        rw [withoutRefused_up rest turn space]
        refine execute_both swallows same rfl ?_
        intro site sections v u after reached
        rw [operate_one site x planned] at reached
        rw [← (save_grows surface hints x.1 space).2,
          ← call_sameLimit surface hints x.1 .save, ← reached]
        exact ih after others
    | down =>
      have planned : plan resolver (fun _ => true) frame op = .ok (calls frame [.restore]) :=
        plan_restore (step_down turn)
      cases deep : x.1.stack.depth with
      | zero =>
        obtain ⟨h, skipped⟩ := execute_failing (formRunner _ resolver limit room) index rest x
          planned (restore_empty surface hints x.1 deep) swallows
        rw [skipped, withoutRefused_empty rest turn, ← deep]
        exact ih (x := (x.1, h)) same others
      | succ depth =>
        rw [withoutRefused_down rest turn]
        refine execute_both swallows same rfl ?_
        intro site sections v u after reached
        rw [operate_one site x planned] at reached
        have shrunk := (restore_shrinks (R := R) surface hints x.1 deep).2
        rw [← shrunk, ← call_sameLimit surface hints x.1 .restore, ← reached]
        exact ih after others

omit swallows in
theorem openFrame_engine (scope : R) (w : Engine K σ × η) :
    (openFrame (driving surface hints handler cancelled) resolver scope w).2.1 = w.1 := by
  have opened : Alike (fun v _ => v.1 = w.1)
      (openFrame (driving surface hints handler cancelled) resolver scope w)
      (openFrame (driving surface hints handler cancelled) resolver scope w) :=
    openFrame_alike (fun _ same => same) resolver scope rfl rfl
  exact opened.2

theorem process_withoutRefused (scope : R) (content : List Operation) (e : Engine K σ) (h : η)
    (formless : Formless resolver scope content) :
    (process (driving surface hints handler cancelled) resolver limit scope content (e, h)).2.1 =
      (process (driving surface hints handler cancelled) resolver limit scope
        (withoutRefused e.stack.limit e.stack.depth content) (e, h)).2.1 := by
  unfold process
  rw [run_eq, run_eq]
  have still : (openFrame (driving surface hints handler cancelled) resolver scope (e, h)).2.1 = e :=
    openFrame_engine scope (e, h)
  have within :
      (openFrame (driving surface hints handler cancelled) resolver scope (e, h)).1.scope = scope :=
    (openFrame_of scope (e, h)).is
  rcases opening : openFrame (driving surface hints handler cancelled) resolver scope (e, h)
    with ⟨frame, x, g⟩
  rw [opening] at still within
  cases still
  cases within
  exact execute_withoutRefused swallows content (rfl : SameEngine (x, g) (x, g)) formless

end

/-- For every state that an engine can come to. -/
theorem refused_invisible (surface : Surface K σ) (hints : Bool) (initial : GraphicsState K)
    (limit : Nat) (s : σ) (before : List (Callback K R)) :
    let e := (feed surface hints before (start initial limit s)).2
    FailsWhen surface hints e (.save : Callback K R) (e.stack.depth = limit) (.overflow limit) ∧
      FailsWhen surface hints e (.restore : Callback K R) (e.stack.depth = 0) .underflow ∧
      ∀ (η : Type) (handler : Handler η) (cancelled : Engine K σ → Bool) (resolver : Resolver K R)
        (room : Nat) (scope : R) (content : List Operation) (h : η),
        (∀ failure h, (handler.offer failure h).1 = .ok ()) →
        Formless resolver scope content →
        (process (.of (device surface hints) handler cancelled) resolver room scope content
            (e, h)).2.1 =
          (process (.of (device surface hints) handler cancelled) resolver room scope
            (withoutRefused limit e.stack.depth content) (e, h)).2.1 := by
  intro e
  have same : e.stack.limit = limit := feed_sameLimit surface hints _ before
  have bounded : e.stack.depth ≤ e.stack.limit :=
    feed_bounded surface hints (start initial limit s) before (Nat.zero_le limit)
  refine ⟨?_, restore_fails surface hints e, ?_⟩
  · have saves := save_fails (R := R) surface hints e bounded
    rwa [same] at saves
  · intro η handler cancelled resolver room scope content h swallows formless
    rw [← same]
    exact process_withoutRefused swallows scope content e h formless

def overrun : List Operation :=
  [⟨"Q", []⟩, ⟨"q", []⟩, ⟨"q", []⟩, ⟨"f", []⟩, ⟨"Q", []⟩, ⟨"Q", []⟩]

theorem overrun_formless : Formless (Resolver.none Float Unit) () overrun := by
  intro inner invokes
  cases invokes with
  | form _ _ _ found => cases found

theorem refused_invisible_overrun :
    (process (.of (device (.silent Float) false) (Records.handler true) fun _ => false)
        (Resolver.none Float Unit) 10 () overrun
        (start (.initial ⟨1, 0, 0, 1, 0, 0⟩) 1 (), .empty)).2.1 =
      (process (.of (device (.silent Float) false) (Records.handler true) fun _ => false)
        (Resolver.none Float Unit) 10 () [⟨"q", []⟩, ⟨"f", []⟩, ⟨"Q", []⟩]
        (start (.initial ⟨1, 0, 0, 1, 0, 0⟩) 1 (), .empty)).2.1 :=
  (refused_invisible (.silent Float) false (.initial ⟨1, 0, 0, 1, 0, 0⟩) 1 () []).2.2 Records
    (Records.handler true) (fun _ => false) (.none Float Unit) 10 () overrun .empty
    (fun _ _ => rfl) overrun_formless

end PageMarks.Engine
