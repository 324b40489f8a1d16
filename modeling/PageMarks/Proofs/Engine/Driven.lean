import Mathlib.Data.List.Forall2
import PageMarks.Proofs.Engine.Saved
import PageMarks.Proofs.Interpreter.Plan

/-!
Engines that an interpreter drives. An operation changes the engine by its callbacks alone: what is
heard of its end goes to the handler. So an operation that goes into no form leaves the engine as
its callbacks do, broken off at the first that does not go well.
-/

namespace PageMarks.Engine

open Interpreter

variable {K R σ η : Type} [Scalar K]

abbrev driving (surface : Surface K σ) (hints : Bool) (handler : Handler η)
    (cancelled : Engine K σ → Bool) : Host K R (Engine K σ × η) :=
  .of (device surface hints) handler cancelled

variable {surface : Surface K σ} {hints : Bool} {handler : Handler η}
  {cancelled : Engine K σ → Bool} {resolver : Resolver K R}
  {forms : FormRunner K R (Engine K σ × η)} {frame : Frame R} {op : Operation} (site : Site)
  (w : Engine K σ × η)

theorem settle_engine (sections : Nat) (outcome : Outcome) :
    (settle (driving (R := R) surface hints handler cancelled) site sections (outcome, w)).2.1 =
      w.1 := by
  rcases outcome with (_ | warning | failure | failure) | _
  case error.unsupported =>
    unfold settle
    dsimp only
    split <;> rfl
  all_goals rfl

theorem operate_unplanned {signal : Signal}
    (refused : plan resolver (fun _ => true) frame op = .error signal) :
    (operate (driving surface hints handler cancelled) resolver forms frame site op w).2.2.1 =
      w.1 := by
  have planned : plan resolver ((driving (R := R) surface hints handler cancelled).features w) frame
      op = .error signal := refused
  unfold operate
  rw [planned]
  exact settle_engine site w frame.sections (.error signal)

theorem carryOut_engine {p : Plan K R} (formless : ∀ name form, p.sequel ≠ .enter name form) :
    (carryOut (driving surface hints handler cancelled) forms site frame.scope p w).2.1 =
      (perform (driving surface hints handler cancelled) p.calls w).2.1 := by
  unfold carryOut
  rcases perform (driving surface hints handler cancelled) p.calls w with ⟨_ | ⟨⟨⟩⟩, v⟩
  · rfl
  · dsimp only
    cases sequel : p.sequel with
    | nothing | report => rfl
    | enter name form => exact absurd sequel (formless name form)

theorem operate_planned {p : Plan K R} (planned : plan resolver (fun _ => true) frame op = .ok p)
    (formless : ∀ name form, p.sequel ≠ .enter name form) :
    (operate (driving surface hints handler cancelled) resolver forms frame site op w).2.2.1 =
      (perform (driving surface hints handler cancelled) p.calls w).2.1 := by
  have found : plan resolver ((driving (R := R) surface hints handler cancelled).features w) frame
      op = .ok p := planned
  unfold operate
  rw [found]
  exact (settle_engine site _ p.sections _).trans (carryOut_engine site w formless)

theorem perform_one (c : Callback K R) :
    perform (driving surface hints handler cancelled) [c] w =
      ((call surface hints c w.1).1, (call surface hints c w.1).2, w.2) := by
  simp only [perform, Host.of, device]
  rcases call surface hints c w.1 with ⟨_ | ⟨⟨⟩⟩, after⟩ <;> rfl

theorem operate_one {c : Callback K R}
    (planned : plan resolver (fun _ => true) frame op = .ok (calls frame [c])) :
    (operate (driving surface hints handler cancelled) resolver forms frame site op w).2.2.1 =
      (call surface hints c w.1).2 := by
  rw [operate_planned site w planned nofun]
  exact congrArg (fun result => result.2.1) (perform_one w c)

theorem perform_keeps {P : Engine K σ → Prop} {calls : List (Callback K R)}
    (keeps : ∀ c ∈ calls, ∀ e, P e → P (call surface hints c e).2) (holds : P w.1) :
    P (perform (driving surface hints handler cancelled) calls w).2.1 := by
  induction calls generalizing w with
  | nil => exact holds
  | cons c rest ih =>
    have kept : P (call surface hints c w.1).2 := keeps c List.mem_cons_self w.1 holds
    have later := ih ((call surface hints c w.1).2, w.2)
      (fun c member => keeps c (List.mem_cons_of_mem _ member)) kept
    simp only [perform, Host.of, device]
    rcases answered : call surface hints c w.1 with ⟨_ | ⟨⟨⟩⟩, after⟩
    · rw [answered] at kept
      exact kept
    · rw [answered] at later
      exact later

theorem operate_keeps {P : Engine K σ → Prop}
    (formless : ∀ p, plan resolver (fun _ => true) frame op = .ok p →
      ∀ name form, p.sequel ≠ .enter name form)
    (keeps : ∀ c : Callback K R, Own op c → ∀ e, P e → P (call surface hints c e).2)
    (holds : P w.1) :
    P (operate (driving surface hints handler cancelled) resolver forms frame site op w).2.2.1 := by
  cases planned : plan resolver (fun _ => true) frame op with
  | error signal =>
    rw [operate_unplanned site w planned]
    exact holds
  | ok p =>
    rw [operate_planned site w planned (formless p planned)]
    have own := plan_own resolver (fun _ => true) frame op p planned
    exact perform_keeps w (fun c member => keeps c (own c member)) holds

section

variable (index : Nat) (rest : List Operation) {w}

theorem execute_stopped (content : List Operation) (stopped : cancelled w.1 = true) :
    (execute (driving surface hints handler cancelled) resolver forms frame index content w).2 =
      w := by
  cases content with
  | nil => rfl
  | cons op rest =>
    have asked : (driving (R := R) surface hints handler cancelled).cancelled w = true := stopped
    rw [execute, if_pos asked]
    rfl

theorem execute_going (going : cancelled w.1 = false) :
    execute (driving surface hints handler cancelled) resolver forms frame index (op :: rest) w =
      match operate (driving surface hints handler cancelled) resolver forms frame
        ⟨op.operator, index⟩ op w with
      | (.error failure, _, v) => (.error failure, v)
      | (.ok (), sections, v) =>
        execute (driving surface hints handler cancelled) resolver forms { frame with sections }
          (index + 1) rest v := by
  have unasked : ¬ (driving (R := R) surface hints handler cancelled).cancelled w = true :=
    ne_true_of_eq_false going
  have unnoted : (driving (R := R) surface hints handler cancelled).note
      (.dispatch op.operator index) w = w := rfl
  rw [execute, if_neg unasked]
  dsimp only
  rw [unnoted]
  rcases operate (driving surface hints handler cancelled) resolver forms frame
    ⟨op.operator, index⟩ op w with ⟨_ | ⟨⟨⟩⟩, _, _⟩ <;> rfl

theorem execute_next {sections : Nat} {v : Engine K σ × η} (going : cancelled w.1 = false)
    (operated : operate (driving surface hints handler cancelled) resolver forms frame
      ⟨op.operator, index⟩ op w = (.ok (), sections, v)) :
    execute (driving surface hints handler cancelled) resolver forms frame index (op :: rest) w =
      execute (driving surface hints handler cancelled) resolver forms { frame with sections }
        (index + 1) rest v := by
  rw [execute_going index rest going, operated]

theorem execute_raised {failure : Failure} {sections : Nat} {v : Engine K σ × η}
    (going : cancelled w.1 = false)
    (operated : operate (driving surface hints handler cancelled) resolver forms frame
      ⟨op.operator, index⟩ op w = (.error failure, sections, v)) :
    execute (driving surface hints handler cancelled) resolver forms frame index (op :: rest) w =
      (.error failure, v) := by
  rw [execute_going index rest going, operated]

end

section

variable (surface hints) in
/-- Callbacks lead from one engine to another, all of them going well. -/
def Completes : List (Callback K R) → Engine K σ → Engine K σ → Prop
  | [], e, after => after = e
  | c :: rest, e, after => ∃ m, call surface hints c e = (.ok (), m) ∧ Completes rest m after

variable {e m after : Engine K σ} {index : Nat} {h : η}

theorem completes_one {c : Callback K R} (well : call surface hints c e = (.ok (), after)) :
    Completes surface hints [c] e after := ⟨after, well, rfl⟩

theorem completes_split {xs ys : List (Callback K R)}
    (both : Completes surface hints (xs ++ ys) e after) :
    ∃ m, Completes surface hints xs e m ∧ Completes surface hints ys m after := by
  induction xs generalizing e with
  | nil => exact ⟨e, rfl, both⟩
  | cons c rest ih =>
    obtain ⟨next, well, others⟩ := both
    obtain ⟨m, first, second⟩ := ih others
    exact ⟨m, ⟨next, well, first⟩, second⟩

theorem perform_completes {cs : List (Callback K R)} (completes : Completes surface hints cs e after) :
    perform (driving surface hints handler cancelled) cs (e, h) = (.ok (), after, h) := by
  induction cs generalizing e with
  | nil =>
    cases completes
    rfl
  | cons c rest ih =>
    obtain ⟨next, well, others⟩ := completes
    have answered : (driving surface hints handler cancelled).call c (e, h) = (.ok (), next, h) := by
      simp only [Host.of, device, well]
    rw [perform, answered]
    exact ih others

def Asks (resolver : Resolver K R) (frame : Frame R) (op : Operation) (cs : List (Callback K R)) :
    Prop :=
  plan resolver (fun _ => true) frame op = .ok (calls frame cs)

theorem operate_completes {cs : List (Callback K R)} (asks : Asks resolver frame op cs)
    (completes : Completes surface hints cs e after) :
    operate (driving surface hints handler cancelled) resolver forms frame site op (e, h) =
      (.ok (), frame.sections, after, h) := by
  have found : plan resolver ((driving (R := R) surface hints handler cancelled).features (e, h))
      frame op = .ok (calls frame cs) := asks
  have performed : perform (driving surface hints handler cancelled) (calls frame cs).calls (e, h) =
      (.ok (), after, h) := perform_completes completes
  unfold operate
  rw [found]
  dsimp only
  rw [carryOut, performed]
  rfl

theorem execute_completes {ops : List Operation} {css : List (List (Callback K R))}
    (asks : List.Forall₂ (Asks resolver frame) ops css)
    (completes : Completes surface hints css.flatten e after) :
    execute (driving surface hints handler fun _ => false) resolver forms frame index ops (e, h) =
      (.ok .finished, after, h) := by
  induction asks generalizing e index with
  | nil =>
    cases completes
    rfl
  | cons ask _ ih =>
    obtain ⟨m, first, others⟩ := completes_split completes
    rw [execute_next index _ rfl (operate_completes _ ask first)]
    exact ih others

end
end PageMarks.Engine
