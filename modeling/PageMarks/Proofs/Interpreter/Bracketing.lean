import PageMarks.Proofs.Interpreter.Plan
import PageMarks.Proofs.Interpreter.Transcript

/-!
Forms leave what they enter. In the log of a run, a save that was accepted on the way into a form
stands before the callbacks of the form's set-up and content, and one restore stands behind them,
with nothing between it and the operation that comes next in the content around the form.
-/

namespace PageMarks.Interpreter

variable {K R ω : Type}

/-- Warnings and offers to the handler, and nothing else. -/
def Hushed (log : Log K R) : Prop := callbacks log = [] ∧ notes log = []

section

variable [Scalar K]

def setUpCalls (form : Form K R) : List (Callback K R) :=
  .concat form.matrix :: form.box.elim [] clipToBox

mutual

/-- Content at a depth, performed up to its end, a request to stop, or a failure. -/
inductive ContentBracketed (resolver : Resolver K R) (limit : Nat) :
    Nat → R → List Operation → Log K R → Prop
  | finished {depth scope} : ContentBracketed resolver limit depth scope [] []
  | stopped {depth scope op rest index} :
    ContentBracketed resolver limit depth scope (op :: rest) [.note (.stop index)]
  | raised {depth scope op rest index log} : OperationBracketed resolver limit depth scope op log →
    ContentBracketed resolver limit depth scope (op :: rest)
      (.note (.dispatch op.operator index) :: log)
  | next {depth scope op rest index log later} :
    OperationBracketed resolver limit depth scope op log →
    ContentBracketed resolver limit depth scope rest later →
    ContentBracketed resolver limit depth scope (op :: rest)
      (.note (.dispatch op.operator index) :: (log ++ later))

/-- An operation makes callbacks of its own, and the one that draws external objects may go into the
form of its name. -/
inductive OperationBracketed (resolver : Resolver K R) (limit : Nat) :
    Nat → R → Operation → Log K R → Prop
  | plain {depth scope op own heard} : notes own = [] → (∀ c ∈ callbacks own, Own op c) →
    Hushed heard → OperationBracketed resolver limit depth scope op (own ++ heard)
  | invoked {depth scope op name form own inside heard} : op.kind? = some .paintXObject →
    op.name 0 = .ok name → resolver.xobject scope name = .ok (some (.form form)) →
    notes own = [] → callbacks own = [.drawXObject name (some (.form form))] →
    FormBracketed resolver limit depth scope name form inside → Hushed heard →
    OperationBracketed resolver limit depth scope op (own ++ inside ++ heard)

/-- A form is skipped, refused at the door, or left by exactly one restore. -/
inductive FormBracketed (resolver : Resolver K R) (limit : Nat) :
    Nat → R → String → Form K R → Log K R → Prop
  | tooDeep {depth scope name form} : limit ≤ depth →
    FormBracketed resolver limit depth scope name form []
  | shut {depth scope name form saved} : depth < limit → ¬accepted saved →
    FormBracketed resolver limit depth scope name form
      [.note (.enter name (depth + 1)), .call .save saved]
  | unready {depth scope name form saved restored ready} : depth < limit → accepted saved →
    notes ready = [] → callbacks ready <+: setUpCalls form →
    FormBracketed resolver limit depth scope name form
      (bracket name (depth + 1) saved restored ready)
  | run {depth scope name form saved restored ready inside heard} : depth < limit →
    accepted saved → notes ready = [] → callbacks ready = setUpCalls form →
    ContentBracketed resolver limit (depth + 1) (form.scope.getD scope) form.content inside →
    Hushed heard →
    FormBracketed resolver limit depth scope name form
      (bracket name (depth + 1) saved restored (ready ++ inside) ++ heard)

end
end

theorem hushed_append {log later : Log K R} (first : Hushed log) (second : Hushed later) :
    Hushed (log ++ later) := by
  simp [Hushed, callbacks_append, notes_append, first.1, first.2, second.1, second.2]

theorem accepted_iff (site : Site) (answer : Outcome) :
    accepted answer ↔ (tolerated site answer : Outcome × Log K R).1 = .ok () := by
  rcases answer with (_ | _ | _ | _) | _ <;> simp [accepted, tolerated]

theorem tolerated_hushed (site : Site) (answer : Outcome) :
    Hushed (tolerated site answer : Outcome × Log K R).2 := by
  rcases answer with (_ | _ | _ | _) | _ <;> exact ⟨rfl, rfl⟩

theorem settled_hushed {site : Site} {sections : Nat} {outcome : Outcome}
    {answer : Except Failure Unit} {log : Log K R}
    (settled : Settled site sections outcome answer log) : Hushed log := by
  cases settled <;> exact ⟨rfl, rfl⟩

theorem formOutcome_hushed (site : Site) (body restored : Outcome) :
    Hushed (formOutcome site body restored : Outcome × Log K R).2 := by
  rcases body with _ | ⟨⟨⟩⟩
  · exact ⟨rfl, rfl⟩
  · exact tolerated_hushed site restored

theorem defaultOf_hushed (resolver : Resolver K R) (scope : R) (name : String) (wanted : Nat) :
    Hushed (defaultOf resolver scope name wanted).2 := by
  unfold defaultOf
  dsimp only
  split
  · exact ⟨rfl, rfl⟩
  · exact ⟨rfl, rfl⟩
  · split <;> exact ⟨rfl, rfl⟩

theorem opened_hushed {resolver : Resolver K R} {scope : R} {frame : Frame R} {log : Log K R}
    (opened : Opened resolver scope frame log) : Hushed log := by
  cases opened with
  | wanted =>
    exact hushed_append (hushed_append (defaultOf_hushed _ _ _ _) (defaultOf_hushed _ _ _ _))
      (defaultOf_hushed _ _ _ _)
  | declined => exact ⟨rfl, rfl⟩

theorem opened_scope {resolver : Resolver K R} {scope : R} {frame : Frame R} {log : Log K R}
    (opened : Opened resolver scope frame log) : frame.scope = scope := by
  cases opened <;> rfl

theorem performed_notes {calls : List (Callback K R)} {answer : Outcome} {log : Log K R}
    (performed : Performed calls answer log) : notes log = [] := by
  induction performed with
  | done => rfl
  | next _ ih => exact ih
  | broken => rfl

theorem performed_callbacks {calls : List (Callback K R)} {answer : Outcome} {log : Log K R}
    (performed : Performed calls answer log) : callbacks log <+: calls := by
  induction performed with
  | done => exact List.nil_prefix
  | next _ ih => exact (List.prefix_cons_inj _).mpr ih
  | broken => exact ⟨_, rfl⟩

theorem performed_all {calls : List (Callback K R)} {log : Log K R}
    (performed : Performed calls (.ok ()) log) : callbacks log = calls := by
  generalize outcome : (.ok () : Outcome) = answer at performed
  induction performed with
  | done => rfl
  | next _ ih => exact congrArg _ (ih outcome)
  | broken => cases outcome

theorem prepared_callbacks [Scalar K] {site : Site} {form : Form K R} {outcome : Outcome}
    {log : Log K R} (prepared : Prepared site form outcome log) :
    notes log = [] ∧ callbacks log <+: setUpCalls form ∧
      (outcome = .ok () → callbacks log = setUpCalls form) := by
  cases prepared with
  | refused => exact ⟨rfl, ⟨_, rfl⟩, nofun⟩
  | @plain answer _ boxless =>
    have heard := tolerated_hushed (K := K) (R := R) site answer
    have all : callbacks (.call (.concat form.matrix) answer :: (tolerated site answer).2) =
        setUpCalls form := by
      simp only [setUpCalls, boxless, Option.elim_none]
      exact congrArg _ heard.1
    exact ⟨heard.2, all ▸ List.prefix_rfl, fun _ => all⟩
  | @boxed answer box _ log _ boxed performed =>
    have heard := tolerated_hushed (K := K) (R := R) site answer
    have named : callbacks (.call (.concat form.matrix) answer :: ((tolerated site answer).2 ++ log))
        = .concat form.matrix :: callbacks log := by
      refine congrArg (List.cons _) ?_
      change callbacks (_ ++ _) = _
      rw [callbacks_append, heard.1, List.nil_append]
    have all : setUpCalls form = .concat form.matrix :: clipToBox box := by simp [setUpCalls, boxed]
    rw [named, all]
    refine ⟨?_, (List.prefix_cons_inj _).mpr (performed_callbacks performed), ?_⟩
    · change notes (_ ++ _) = _
      rw [notes_append, heard.2, performed_notes performed, List.nil_append]
    · rintro rfl
      rw [performed_all performed]

variable [Scalar K]

def Part.Bracketed (resolver : Resolver K R) (limit : Nat) : Part K R → Log K R → Prop
  | .content depth frame _ ops _, log =>
    ContentBracketed resolver limit depth frame.scope ops log
  | .operation depth frame _ op _ _, log =>
    OperationBracketed resolver limit depth frame.scope op log
  | .form depth _ name inner scope _, log => FormBracketed resolver limit depth scope name inner log

theorem own_of_initial {resolver : Resolver K R} {features : Features} {frame : Frame R}
    {op : Operation} {p : Plan K R} {own : Log K R}
    (planned : plan resolver features frame op = .ok p)
    (initial : callbacks own <+: p.calls) : ∀ c ∈ callbacks own, Own op c :=
  fun c member => plan_own resolver features frame op p planned c (initial.subset member)

theorem part_bracketed {resolver : Resolver K R} {limit : Nat} {part : Part K R} {log : Log K R}
    (transcript : Transcript resolver limit part log) : part.Bracketed resolver limit log := by
  induction transcript with
  | finished => exact .finished
  | stopped => exact .stopped
  | raised _ operation => exact .raised operation
  | next _ _ operation later => exact .next operation later
  | refused _ settled =>
    have silent : notes ([] : Log K R) = [] := rfl
    exact .plain silent (by simp [callbacks]) (settled_hushed settled)
  | broken planned performed settled =>
    exact .plain (performed_notes performed) (own_of_initial planned (performed_callbacks performed))
      (settled_hushed settled)
  | performed planned performed _ settled =>
    exact .plain (performed_notes performed) (own_of_initial planned (performed_callbacks performed))
      (settled_hushed settled)
  | invoked planned performed sequel _ settled inside =>
    have enters := plan_enters _ _ _ _ _ planned _ _ sequel
    exact .invoked enters.kind enters.named enters.found (performed_notes performed)
      ((performed_all performed).trans enters.calls) inside (settled_hushed settled)
  | tooDeep full => exact .tooDeep full
  | @shut _ site _ _ _ saved _ below refused =>
    have closed : ¬accepted saved := by rw [accepted_iff (K := K) (R := R) site, refused]; nofun
    exact .shut below closed
  | @unready _ site _ _ _ saved _ _ _ below entered prepared =>
    obtain ⟨quiet, initial, -⟩ := prepared_callbacks prepared
    have heard := tolerated_hushed (K := K) (R := R) site saved
    refine .unready below ((accepted_iff site saved).mpr entered) ?_ ?_
    · rw [notes_append, heard.2, quiet, List.nil_append]
    · rwa [callbacks_append, heard.1, List.nil_append]
  | @form _ site _ form _ _ _ saved _ ready opening inside below entered prepared opened _ content =>
    obtain ⟨quiet, -, all⟩ := prepared_callbacks prepared
    have first := tolerated_hushed (K := K) (R := R) site saved
    have second := opened_hushed opened
    have preface : notes ((tolerated site saved).2 ++ ready ++ opening) = [] ∧
        callbacks ((tolerated site saved).2 ++ ready ++ opening) = setUpCalls form := by
      simp only [notes_append, callbacks_append, first.1, first.2, second.1, second.2, quiet, all rfl,
        List.nil_append, List.append_nil, and_self]
    refine .run below ((accepted_iff site saved).mpr entered) preface.1 preface.2 ?_ ?_
    · rw [← opened_scope opened]
      exact content
    · exact formOutcome_hushed ..

/-- However a device and a handler answer and whenever a stop is asked for, forms are bracketed. -/
theorem forms_bracketed (host : Host K R ω) (resolver : Resolver K R) (limit : Nat) (scope : R)
    (content : List Operation) (w : ω) :
    ∃ opening log, history host resolver limit scope content w = opening ++ log ∧ Hushed opening ∧
      ContentBracketed resolver limit 0 scope content log := by
  obtain ⟨frame, opening, log, e, opened, transcript⟩ :=
    history_logged host resolver limit scope content w
  refine ⟨opening, log, e, opened_hushed opened, ?_⟩
  rw [← opened_scope opened]
  exact part_bracketed transcript

end PageMarks.Interpreter
