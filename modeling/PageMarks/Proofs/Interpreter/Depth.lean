import PageMarks.Proofs.Interpreter.Machine

/-!
How deep forms nest. However forms draw each other, the machine stops, with never more forms open than
the limit says and one frame more than forms. With all of them open, a form that comes up is announced
to the device and skipped with a warning, if the device has nothing against drawing it.
-/

namespace PageMarks.Interpreter

variable {K R ω : Type} [Scalar K] {host : Host K R ω} {resolver : Resolver K R} {limit : Nat}

omit [Scalar K] in
theorem frames_le (m : Machine K R ω) : m.frames.length ≤ m.forms.length + 1 := by
  cases m <;> simp [Machine.frames, Machine.forms]

omit [Scalar K] in
theorem moves_within {m n : Machine K R ω} (moves : Moves host resolver limit m n)
    (within : m.forms.length ≤ limit) : n.forms.length ≤ limit := by
  cases moves with
  | finished | stopped => exact within
  | operated => rwa [goOn_forms]
  | entered _ below => exact below
  | left =>
    rw [goOn_forms]
    exact Nat.le_of_succ_le within

theorem reaches_within {below : List (OpenForm K R)} {m n : Machine K R ω}
    (reaches : Reaches host resolver limit below m n) (within : m.forms.length ≤ limit) :
    n.forms.length ≤ limit := by
  induction reaches with
  | refl => exact within
  | tail _ taken ih => exact moves_within (step_moves taken.1) ih

theorem reaches_end {m n last : Machine K R ω} (stops : step host resolver limit last = none)
    (ends : Reaches host resolver limit [] m last) (reaches : Reaches host resolver limit [] m n) :
    Reaches host resolver limit [] n last := by
  have unique : Relator.RightUnique (StepAbove host resolver limit ([] : List (OpenForm K R))) :=
    fun _ _ _ first second => Option.some.inj (first.1.symm.trans second.1)
  refine (Relation.ReflTransGen.total_of_right_unique unique reaches ends).elim id fun beyond => ?_
  rcases Relation.ReflTransGen.cases_head beyond with rfl | ⟨next, taken, _⟩
  · exact .refl
  · rw [StepAbove, stops] at taken
    cases taken.1

/-- A machine that comes to a stop has no run that goes on for ever. -/
theorem no_endless_run {m last : Machine K R ω} (stops : step host resolver limit last = none)
    (ends : Reaches host resolver limit [] m last) (run : Nat → Machine K R ω) (first : run 0 = m) :
    ¬ ∀ n, step host resolver limit (run n) = some (run (n + 1)) := by
  induction ends using Relation.ReflTransGen.head_induction_on generalizing run with
  | refl =>
    intro goes
    have taken := goes 0
    rw [first, stops] at taken
    cases taken
  | head taken _ ih =>
    intro goes
    have second := goes 0
    rw [first, taken.1] at second
    exact ih (fun n => run (n + 1)) (Option.some.inj second).symm fun n => goes (n + 1)

/-- The operation draws a form of a name, and the device wants to know about it. -/
structure DrawsForm (resolver : Resolver K R) (features : Features) (scope : R) (op : Operation)
    (name : String) (form : Form K R) : Prop where
  kind : op.kind? = some .paintXObject
  named : op.name 0 = .ok name
  wanted : features .xobject = true
  found : resolver.xobject scope name = .ok (some (.form form))

theorem plan_form {features : Features} {frame : Frame R} {op : Operation} {name : String}
    {form : Form K R} (draws : DrawsForm resolver features frame.scope op name form) :
    plan resolver features frame op =
      .ok ⟨[.drawXObject name (some (.form form))], .enter name form, frame.sections⟩ := by
  have found : resource features .xobject name (resolver.xobject frame.scope) =
      .ok (some (.form form)) := by
    simp only [resource, search, draws.wanted, if_true]
    rw [draws.found]
    rfl
  simp only [plan, draws.kind, paintXObject, draws.named]
  change (resource features .xobject name (resolver.xobject frame.scope) >>= _) = _
  rw [found]
  rfl

def skipped (limit : Nat) (name : String) : Outcome → Outcome
  | .ok () => depthExceeded limit name
  | refused => refused

theorem step_skips {forms : List (OpenForm K R)} (full : forms.length = limit) {frame : Frame R}
    {index : Nat} {op : Operation} {rest : List Operation} {v : ω} {name : String} {form : Form K R}
    (going : host.cancelled v = false)
    (draws : DrawsForm resolver (host.features (host.note (.dispatch op.operator index) v)) frame.scope
      op name form) {answer : Outcome} {u : ω}
    (called : host.call (.drawXObject name (some (.form form)))
      (host.note (.dispatch op.operator index) v) = (answer, u)) :
    step host resolver limit (.running ⟨frame, index, op :: rest⟩ forms v) =
      some (goOn ⟨frame, index + 1, rest⟩ forms
        (settle host ⟨op.operator, index⟩ frame.sections (skipped limit name answer, u))) := by
  have deep : limit < forms.length + 1 := by omega
  simp only [step, going, Bool.false_eq_true, if_false, takeUp, plan_form draws, perform, called]
  rcases answer with signal | ⟨⟨⟩⟩
  · rfl
  · simp only [enter, if_pos deep]
    rfl

/-- The machine stops, from wherever it is, where `process` says; there are never more frames than the
limit and one; and what is skipped at the limit is nothing but announced and warned about, where the
device answers that it would draw it. -/
theorem nesting_bounded (host : Host K R ω) (resolver : Resolver K R) (limit : Nat) (scope : R)
    (content : List Operation) (w : ω) :
    (∀ m, Reaches host resolver limit [] (start host resolver scope content w) m →
      m.frames.length ≤ limit + 1 ∧
      Reaches host resolver limit [] m (.ended (process host resolver limit scope content w).1 []
        (process host resolver limit scope content w).2)) ∧
    (∀ run : Nat → Machine K R ω, run 0 = start host resolver scope content w →
      ¬ ∀ n, step host resolver limit (run n) = some (run (n + 1))) ∧
    ∀ forms frame index op rest v name form answer u, forms.length = limit →
      host.cancelled v = false →
      DrawsForm resolver (host.features (host.note (.dispatch op.operator index) v)) frame.scope op name
        form →
      host.call (.drawXObject name (some (.form form)))
        (host.note (.dispatch op.operator index) v) = (answer, u) →
      step host resolver limit (.running ⟨frame, index, op :: rest⟩ forms v) =
        some (match answer with
          | .ok () => .running ⟨frame, index + 1, rest⟩ forms
            (host.warn ⟨.formDepthExceeded, "form nesting deeper than " ++ toString limit,
              some op.operator, some index, some name⟩ u)
          | refused => goOn ⟨frame, index + 1, rest⟩ forms
            (settle host ⟨op.operator, index⟩ frame.sections (refused, u))) := by
  have ends := process_reached host resolver limit scope content w
  refine ⟨fun m reaches => ⟨?_, reaches_end rfl ends reaches⟩,
    fun run first => no_endless_run rfl ends run first, ?_⟩
  · have within := reaches_within reaches (Nat.zero_le limit)
    exact Nat.le_trans (frames_le m) (Nat.succ_le_succ within)
  · intro forms frame index op rest v name form answer u full going draws called
    rw [step_skips full going draws called]
    rcases answer with signal | ⟨⟨⟩⟩ <;> rfl

def drawF : Operation := ⟨"Do", [.name [70]]⟩

def selfDrawing : Form Float Unit := ⟨⟨1, 0, 0, 1, 0, 0⟩, none, [drawF], none⟩

def selfDrawn : Resolver Float Unit :=
  { Resolver.none Float Unit with xobject := fun _ _ => .ok (some (.form selfDrawing)) }

def hearing {R : Type} (device : Device Float R Unit) : Host Float R (Unit × Records) :=
  .of device (Records.handler false) fun _ => false

def bareFrame : Frame Unit := ⟨(), none, none, none, 0⟩

/-- The second time over, with room for one form. -/
theorem nesting_bounded_itself :
    step (hearing (.silent Float Unit)) selfDrawn 1
      (.running ⟨bareFrame, 0, [drawF]⟩ [⟨⟨"Do", 0⟩, "F", selfDrawing, ⟨bareFrame, 1, []⟩⟩]
        ((), .empty)) =
      some (.running ⟨bareFrame, 1, []⟩ [⟨⟨"Do", 0⟩, "F", selfDrawing, ⟨bareFrame, 1, []⟩⟩]
        ((), ⟨[⟨.formDepthExceeded, "form nesting deeper than 1", some "Do", some 0, some "F"⟩], []⟩)) :=
  (nesting_bounded (hearing (.silent Float Unit)) selfDrawn 1 () [drawF] ((), .empty)).2.2
    [⟨⟨"Do", 0⟩, "F", selfDrawing, ⟨bareFrame, 1, []⟩⟩] bareFrame 0 drawF [] ((), .empty) "F"
    selfDrawing (.ok ()) ((), .empty) rfl rfl ⟨rfl, rfl, rfl, rfl⟩ rfl

def refusing : Device Float Unit Unit where
  features _ _ := true
  call
    | .drawXObject .., s => (.error (.warn .other "draw_xobject warned"), s)
    | _, s => (.ok (), s)

/-- There is no room for the form, but all that is heard of it is what the device says. -/
theorem refused_form_unreported :
    DrawsForm selfDrawn ((hearing refusing).features ((), .empty)) () drawF "F" selfDrawing ∧
      step (hearing refusing) selfDrawn 0
        (start (hearing refusing) selfDrawn () [drawF] ((), .empty)) =
        some (.running ⟨bareFrame, 1, []⟩ []
          ((), ⟨[⟨.other, "draw_xobject warned", some "Do", some 0, none⟩], []⟩)) ∧
      ∀ warning ∈ (process (hearing refusing) selfDrawn 0 () [drawF] ((), .empty)).2.2.warnings,
        warning.code ≠ .formDepthExceeded := by
  have heard : (process (hearing refusing) selfDrawn 0 () [drawF] ((), .empty)).2.2.warnings =
      [⟨.other, "draw_xobject warned", some "Do", some 0, none⟩] := rfl
  refine ⟨⟨rfl, rfl, rfl, rfl⟩, rfl, ?_⟩
  rw [heard]
  simp

end PageMarks.Interpreter
