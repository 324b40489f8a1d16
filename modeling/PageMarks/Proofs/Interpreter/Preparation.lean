import PageMarks.Proofs.Interpreter.Bracketing
import PageMarks.Proofs.Interpreter.Depth

/-!
Going into a form. The interpreter makes callbacks of its own for it, and a device may answer them with
warnings. The main statement says what becomes of the form: a warning about the save or the transform
is reported and passed over, a warning about one of the callbacks that clip to the form's box is
reported and the form's content dropped.
-/

namespace PageMarks.Interpreter

variable {K R ω : Type}

def heard (site : Site) (answered : List (Callback K R × Outcome)) : Log K R :=
  answered.flatMap fun (c, answer) => .call c answer :: (tolerated site answer).2

def carried (calls : List (Callback K R)) : Log K R := calls.map (.call · (.ok ()))

theorem performed_carried {calls : List (Callback K R)} {log : Log K R}
    (performed : Performed calls (.ok ()) log) : log = carried calls := by
  generalize outcome : (.ok () : Outcome) = answer at performed
  induction performed with
  | done => rfl
  | next _ ih => exact congrArg _ (ih outcome)
  | broken => cases outcome

theorem performed_broken {calls : List (Callback K R)} {signal : Signal} {log : Log K R}
    (performed : Performed calls (.error signal) log) :
    ∃ first c later, calls = first ++ c :: later ∧
      log = carried first ++ [.call c (.error signal)] := by
  generalize outcome : (.error signal : Outcome) = answer at performed
  induction performed with
  | done => cases outcome
  | @next c _ _ _ _ ih =>
    obtain ⟨first, broken, later, rfl, rfl⟩ := ih outcome
    exact ⟨c :: first, broken, later, rfl, rfl⟩
  | @broken c rest =>
    cases outcome
    exact ⟨[], c, rest, rfl, rfl⟩

section

variable [Scalar K]

def boxCalls (form : Form K R) : List (Callback K R) := form.box.elim [] clipToBox

/-- What is logged between the announcement of a form and its content, or after it if the content is not
run: with `.ok ()` it is. -/
inductive Begun (site : Site) (name : String) (form : Form K R) :
    Except Outcome Unit → Log K R → Prop
  | content {saved moved} : accepted saved = true → accepted moved = true →
    Begun site name form (.ok ())
      (heard site [(.save, saved), (.concat form.matrix, moved)] ++ carried (boxCalls form))
  | dropped {saved moved first c later warning restored} : accepted saved = true →
    accepted moved = true → boxCalls form = first ++ c :: later →
    Begun site name form (.error (.error (.warning warning)))
      (heard site [(.save, saved), (.concat form.matrix, moved)] ++ carried first ++
        [.call c (.error (.warning warning)), .call .restore restored, .note (.leave name)])
  | refused {outcome c answer log} : c ∈ .save :: .concat form.matrix :: boxCalls form →
    .call c answer ∈ log → accepted answer = false → Begun site name form (.error outcome) log

variable {host : Host K R ω} {resolver : Resolver K R} {limit : Nat} {site : Site} {name : String}
  {form : Form K R}

omit [Scalar K] in
theorem not_accepted {answer : Outcome} {signal : Signal}
    (refused : (tolerated site answer : Outcome × Log K R).1 = .error signal) :
    accepted answer = false := by
  rcases answer with (_ | _ | _ | _) | _ <;> cases refused <;> rfl

theorem prepared_begun (name : String) {saved outcome : Outcome} {log : Log K R} (entered : accepted saved = true)
    (prepared : Prepared site form outcome log) :
    (outcome = .ok () ∧ Begun site name form (.ok ()) (heard site [(.save, saved)] ++ log)) ∨
      ∃ signal, outcome = .error signal ∧ ∀ restored,
        Begun site name form (.error (.error signal))
          (heard site [(.save, saved)] ++ log ++ [.call .restore restored, .note (.leave name)]) := by
  cases prepared with
  | @refused moved signal broken =>
    refine .inr ⟨signal, rfl, fun restored => ?_⟩
    have own : .concat form.matrix ∈ .save :: .concat form.matrix :: boxCalls form := by simp
    exact .refused own (by simp) (not_accepted broken)
  | @plain moved fine boxless =>
    have calls : boxCalls form = [] := by rw [boxCalls, boxless]; rfl
    have begun : Begun site name form (.ok ()) _ :=
      .content entered ((accepted_iff site moved).mpr fine)
    refine .inl ⟨rfl, ?_⟩
    rw [calls] at begun
    simpa [heard, carried] using begun
  | @boxed moved box _ log fine boxed performed =>
    have moves := (accepted_iff site moved).mpr fine
    have calls : boxCalls form = clipToBox box := by rw [boxCalls, boxed]; rfl
    rcases outcome with signal | ⟨⟨⟩⟩
    · obtain ⟨first, c, later, split, rfl⟩ := performed_broken performed
      refine .inr ⟨signal, rfl, fun restored => ?_⟩
      rw [← calls] at split
      cases warned : accepted (.error signal) with
      | false =>
        have own : c ∈ .save :: .concat form.matrix :: boxCalls form := by simp [split]
        exact .refused own (by simp) warned
      | true =>
        obtain ⟨warning, rfl⟩ : ∃ warning, signal = .warning warning := by
          cases signal with
          | warning warning => exact ⟨warning, rfl⟩
          | _ => cases warned
        have begun : Begun site name form (.error (.error (.warning warning)))
            (heard site [(.save, saved), (.concat form.matrix, moved)] ++ carried first ++
              [.call c (.error (.warning warning)), .call .restore restored, .note (.leave name)]) :=
          .dropped entered moves split
        simpa [heard] using begun
    · have begun : Begun site name form (.ok ()) _ := .content entered moves
      refine .inl ⟨rfl, ?_⟩
      rw [calls, ← performed_carried performed] at begun
      simpa [heard] using begun

def goWith (host : Host K R ω) (resolver : Resolver K R) (site : Site) (name : String)
    (form : Form K R) (next : Activity R) (forms : List (OpenForm K R)) :
    Except Outcome Unit → ω → Machine K R ω
  | .ok (), w =>
    let (inner, w) := openFrame host resolver (form.scope.getD next.frame.scope) w
    .running ⟨inner, 0, form.content⟩ (⟨site, name, form, next⟩ :: forms) w
  | .error outcome, w => goOn next forms (settle host site next.frame.sections (outcome, w))

theorem enter_begun (host : Host K R ω) (resolver : Resolver K R) (site : Site) (name : String)
    (form : Form K R) {forms : List (OpenForm K R)} (within : forms.length < limit)
    (next : Activity R) (w : ω × Log K R) :
    ∃ way made t, Begun site name form way made ∧
      enter host.logged resolver limit site name form next forms w =
        goWith host.logged resolver site name form next forms way
          (t, w.2 ++ .note (.enter name (forms.length + 1)) :: made) := by
  have shallow : ¬ limit < forms.length + 1 := by omega
  obtain ⟨saved, v, called⟩ := call_logged host .save
    (host.note (.enter name (forms.length + 1)) w.1,
      w.2 ++ [.note (.enter name (forms.length + 1))])
  obtain ⟨u, heardSave⟩ := tolerate_logged host site saved
    (v, w.2 ++ [.note (.enter name (forms.length + 1))] ++ [.call .save saved])
  simp only [enter, if_neg shallow, goInto, called, note_logged, heardSave]
  rcases entered : (tolerated site saved : Outcome × Log K R).1 with signal | ⟨⟨⟩⟩
  · have own : .save ∈ .save :: .concat form.matrix :: boxCalls form := List.mem_cons_self
    refine ⟨.error (.error signal), [.call .save saved], u,
      .refused own List.mem_cons_self (not_accepted entered), ?_⟩
    simp [goWith, tolerated_silent entered]
  · have entered := (accepted_iff site saved).mpr entered
    obtain ⟨outcome, t, log, ready, prepared⟩ := setUp_logged host site form
      (u, w.2 ++ [.note (.enter name (forms.length + 1))] ++ [.call .save saved] ++
        (tolerated site saved).2)
    simp only [ready]
    rcases prepared_begun name entered prepared with ⟨rfl, begun⟩ | ⟨signal, rfl, begun⟩
    · refine ⟨.ok (), _, t, begun, ?_⟩
      simp [goWith, heard]
    · obtain ⟨restored, r, left⟩ := leaveForm_logged host site name (.error signal)
        (t, w.2 ++ [.note (.enter name (forms.length + 1))] ++ [.call .save saved] ++
          (tolerated site saved).2 ++ log)
      refine ⟨.error (.error signal), _, r, begun restored, ?_⟩
      simp only [left]
      simp [goWith, heard, formOutcome]

theorem step_begun {forms : List (OpenForm K R)} (within : forms.length < limit) (frame : Frame R)
    (index : Nat) (op : Operation) (rest : List Operation) {v u : ω} (log : Log K R)
    (going : host.cancelled v = false)
    (draws : DrawsForm resolver (host.features (host.note (.dispatch op.operator index) v)) frame.scope
      op name form)
    (drawn : host.call (.drawXObject name (some (.form form)))
      (host.note (.dispatch op.operator index) v) = (.ok (), u)) :
    ∃ way made t, Begun ⟨op.operator, index⟩ name form way made ∧
      step host.logged resolver limit (.running ⟨frame, index, op :: rest⟩ forms (v, log)) =
        some (goWith host.logged resolver ⟨op.operator, index⟩ name form ⟨frame, index + 1, rest⟩ forms
          way (t, log ++ [.note (.dispatch op.operator index),
            .call (.drawXObject name (some (.form form))) (.ok ()),
            .note (.enter name (forms.length + 1))] ++ made)) := by
  obtain ⟨way, made, t, begun, entered⟩ := enter_begun host resolver ⟨op.operator, index⟩ name form
    within ⟨frame, index + 1, rest⟩ (u, log ++ [.note (.dispatch op.operator index)] ++
      [.call (.drawXObject name (some (.form form))) (.ok ())])
  have going : host.logged.cancelled (v, log) = false := going
  have draws : DrawsForm resolver (host.logged.features
      (host.logged.note (.dispatch op.operator index) (v, log))) frame.scope op name form := draws
  have drawn : host.logged.call (.drawXObject name (some (.form form)))
      (host.logged.note (.dispatch op.operator index) (v, log)) =
      (.ok (), u, log ++ [.note (.dispatch op.operator index)] ++
        [.call (.drawXObject name (some (.form form))) (.ok ())]) := by
    simp only [Host.logged, drawn]
  refine ⟨way, made, t, begun, ?_⟩
  simp only [step, going, Bool.false_eq_true, if_false, takeUp, plan_form draws, perform, drawn,
    entered]
  simp

/-- A form that the device is willing to draw, with room for it. Its content is run if the save and the
transform are answered with warnings at most and the callbacks for its box are carried out; a warning
about one of these is reported as well, but the form is left. -/
theorem form_warnings {forms : List (OpenForm K R)} (within : forms.length < limit) (frame : Frame R)
    (index : Nat) (op : Operation) (rest : List Operation) {v u : ω} (log : Log K R)
    (going : host.cancelled v = false)
    (draws : DrawsForm resolver (host.features (host.note (.dispatch op.operator index) v)) frame.scope
      op name form)
    (drawn : host.call (.drawXObject name (some (.form form)))
      (host.note (.dispatch op.operator index) v) = (.ok (), u)) :
    let site : Site := ⟨op.operator, index⟩
    let next : Activity R := ⟨frame, index + 1, rest⟩
    let announced := log ++ [.note (.dispatch op.operator index),
      .call (.drawXObject name (some (.form form))) (.ok ()), .note (.enter name (forms.length + 1))]
    let taken := step host.logged resolver limit (.running ⟨frame, index, op :: rest⟩ forms (v, log))
    (∃ saved moved t inner w, accepted saved = true ∧ accepted moved = true ∧
      (inner, w) = openFrame host.logged resolver (form.scope.getD frame.scope) (t, announced ++
        heard site [(.save, saved), (.concat form.matrix, moved)] ++ carried (boxCalls form)) ∧
      taken = some (.running ⟨inner, 0, form.content⟩ (⟨site, name, form, next⟩ :: forms) w)) ∨
    (∃ saved moved first c later warning restored t, accepted saved = true ∧ accepted moved = true ∧
      boxCalls form = first ++ c :: later ∧
      taken = some (.running next forms (t, announced ++
        heard site [(.save, saved), (.concat form.matrix, moved)] ++ carried first ++
          [.call c (.error (.warning warning)), .call .restore restored, .note (.leave name),
            .warning (warning.attach op.operator index)]))) ∨
    ∃ c answer made outcome t, c ∈ .save :: .concat form.matrix :: boxCalls form ∧
      .call c answer ∈ made ∧ accepted answer = false ∧
      taken = some (goOn next forms
        (settle host.logged site frame.sections (outcome, t, announced ++ made))) := by
  intro site next announced taken
  obtain ⟨way, made, t, begun, stepped⟩ := step_begun within frame index op rest log going draws drawn
  cases begun with
  | @content saved moved saves moves =>
    refine .inl ⟨saved, moved, t, _, _, saves, moves, rfl, ?_⟩
    rw [List.append_assoc announced]
    exact stepped
  | @dropped saved moved first c later warning restored saves moves split =>
    refine .inr (.inl ⟨saved, moved, first, c, later, warning, restored,
      host.warn (warning.attach op.operator index) t, saves, moves, split, ?_⟩)
    rw [show taken = _ from stepped]
    simp [goWith, settle, report, goOn, Host.logged, announced, site, next]
  | @refused outcome c answer made own asked refused =>
    exact .inr (.inr ⟨c, answer, made, outcome, t, own, asked, refused, stepped⟩)

end

def remark : Warning := .plain .other "so be it"

def remarking (about : Callback Float Unit → Bool) : Device Float Unit Unit where
  features _ _ := true
  call c s := (if about c then .error (.warning remark) else .ok (), s)

def closing : Operation := ⟨"h", []⟩

def closingForm (box : Option (Rect Float)) : Form Float Unit := ⟨⟨1, 0, 0, 1, 0, 0⟩, box, [closing], none⟩

def closingDrawn (box : Option (Rect Float)) : Resolver Float Unit :=
  { Resolver.none Float Unit with xobject := fun _ _ => .ok (some (.form (closingForm box))) }

def aboutSave : Callback Float Unit → Bool
  | .save => true
  | _ => false

def aboutRectangle : Callback Float Unit → Bool
  | .rectangle .. => true
  | _ => false

/-- The device remarks on the save, and the content is run. -/
theorem form_warnings_save :
    DrawsForm (closingDrawn none) (fun _ => true) () drawF "F" (closingForm none) ∧
    ∃ inner w, step (hearing (remarking aboutSave)).logged (closingDrawn none) 1
        (.running ⟨bareFrame, 0, [drawF]⟩ [] (((), .empty), [])) =
      some (.running ⟨inner, 0, [closing]⟩
        [⟨⟨"Do", 0⟩, "F", closingForm none, ⟨bareFrame, 1, []⟩⟩] w) := by
  have draws : DrawsForm (closingDrawn none) (fun _ => true) () drawF "F" (closingForm none) :=
    ⟨rfl, rfl, rfl, rfl⟩
  refine ⟨draws, ?_⟩
  have within : ([] : List (OpenForm Float Unit)).length < 1 := by decide
  have going : (hearing (remarking aboutSave)).cancelled ((), .empty) = false := rfl
  rcases form_warnings within bareFrame 0 drawF [] [] going draws rfl with
    ⟨_, _, _, inner, w, -, -, -, taken⟩ | ⟨_, _, first, c, later, _, _, _, -, -, split, -⟩ |
      ⟨_, _, _, _, _, -, -, -, taken⟩
  · exact ⟨inner, w, taken⟩
  · have none : boxCalls (closingForm none) = [] := rfl
    rw [none] at split
    simp at split
  · -- The form was gone into, and is not passed over.
    have forms := congrArg (Option.map Machine.forms) taken
    rw [Option.map_some, goOn_forms] at forms
    cases forms

def droppedLog (box : Rect Float) : Log Float Unit :=
  [.note (.dispatch "Do" 0),
    .call (.drawXObject "F" (some (.form (closingForm (some box))))) (.ok ()),
    .note (.enter "F" 1), .call .save (.ok ()), .call (.concat ⟨1, 0, 0, 1, 0, 0⟩) (.ok ()),
    .call (.rectangle box.x0 box.y0 box.width box.height) (.error (.warning remark)),
    .call .restore (.ok ()), .note (.leave "F"), .warning (remark.attach "Do" 0)]

/-- The device accepts all that it is asked, and the content of the form is not run. -/
theorem box_remark_drops :
    let log := droppedLog ⟨0, 0, 1, 1⟩
    history (hearing (remarking aboutRectangle)) (closingDrawn (some ⟨0, 0, 1, 1⟩)) 1 () [drawF]
        ((), .empty) = log ∧
      (∀ c answer, .call c answer ∈ log → accepted answer = true) ∧ .closePath ∉ callbacks log := by
  refine ⟨rfl, fun c answer made => ?_, by simp [callbacks, droppedLog]⟩
  simp only [droppedLog, List.mem_cons, List.not_mem_nil, reduceCtorEq, Entry.call.injEq, false_or,
    or_false] at made
  rcases made with ⟨-, rfl⟩ | ⟨-, rfl⟩ | ⟨-, rfl⟩ | ⟨-, rfl⟩ | ⟨-, rfl⟩ <;> rfl

end PageMarks.Interpreter
