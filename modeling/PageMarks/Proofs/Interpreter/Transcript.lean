import PageMarks.Proofs.Interpreter.Lockstep

/-!
What a run can leave in a log. The rules below say it once, for every host at a time: answers of the
device and of the handler are whatever they are, and so is the moment of a request to stop. The main
statement is that the log of every run follows the rules.
-/

namespace PageMarks.Interpreter

variable {K R ω : Type}

/-- Callbacks in order up to the first that does not go well. -/
inductive Performed : List (Callback K R) → Outcome → Log K R → Prop
  | done : Performed [] (.ok ()) []
  | next {c : Callback K R} {rest answer log} :
    Performed rest answer log → Performed (c :: rest) answer (.call c (.ok ()) :: log)
  | broken {c : Callback K R} {rest signal} :
    Performed (c :: rest) (.error signal) [.call c (.error signal)]

def tolerated (site : Site) : Outcome → Outcome × Log K R
  | .error (.warning warning) => (.ok (), [.warning (warning.attach site.operator site.index)])
  | other => (other, [])

theorem tolerated_silent {site : Site} {answer : Outcome} {signal : Signal}
    (refused : (tolerated site answer : Outcome × Log K R).1 = .error signal) :
    (tolerated site answer : Outcome × Log K R).2 = [] := by
  rcases answer with (_ | _ | _ | _) | _
  case error.warning => cases refused
  all_goals rfl

def unsupported (site : Site) : Warning :=
  (Warning.plain .unsupportedOperator ("operator '" ++ site.operator ++ "' is not supported")).attach
    site.operator site.index

inductive Settled (site : Site) (sections : Nat) :
    Outcome → Except Failure Unit → Log K R → Prop
  | ok : Settled site sections (.ok ()) (.ok ()) []
  | unsupported : sections = 0 →
    Settled site sections (.error .unsupported) (.ok ()) [.warning (unsupported site)]
  | ignored : sections ≠ 0 → Settled site sections (.error .unsupported) (.ok ()) []
  | warning {warning} : Settled site sections (.error (.warning warning)) (.ok ())
      [.warning (warning.attach site.operator site.index)]
  | fatal {failure answer} :
    Settled site sections (.error (.fatal failure)) answer [.offer failure answer]
  | abort {failure} : Settled site sections (.error (.abort failure)) (.error failure) []

def defaultOf (resolver : Resolver K R) (scope : R) (name : String) (wanted : Nat) :
    Option ColorSpace × Log K R :=
  let refused (problem : String) : Log K R :=
    [.warning (.aboutResource .defaultColorSpace problem name)]
  match resolver.colorSpace scope name with
  | .error error => (none, refused (unresolved name error))
  | .ok none => (none, [])
  | .ok (some space) =>
    if space.components = wanted then (some space, [])
    else (none, refused (wrongCount name space wanted))

/-- The frame of a scope, with the warnings of opening it. -/
inductive Opened (resolver : Resolver K R) (scope : R) : Frame R → Log K R → Prop
  | wanted :
    Opened resolver scope
      ⟨scope, (defaultOf resolver scope "DefaultGray" 1).1,
        (defaultOf resolver scope "DefaultRGB" 3).1, (defaultOf resolver scope "DefaultCMYK" 4).1, 0⟩
      ((defaultOf resolver scope "DefaultGray" 1).2 ++ (defaultOf resolver scope "DefaultRGB" 3).2 ++
        (defaultOf resolver scope "DefaultCMYK" 4).2)
  | declined : Opened resolver scope ⟨scope, none, none, none, 0⟩ []

variable [Scalar K]

inductive Prepared (site : Site) (form : Form K R) : Outcome → Log K R → Prop
  | refused {answer signal} : (tolerated site answer : Outcome × Log K R).1 = .error signal →
    Prepared site form (.error signal) [.call (.concat form.matrix) answer]
  | plain {answer} : (tolerated site answer : Outcome × Log K R).1 = .ok () → form.box = none →
    Prepared site form (.ok ()) (.call (.concat form.matrix) answer :: (tolerated site answer).2)
  | boxed {answer box outcome log} : (tolerated site answer : Outcome × Log K R).1 = .ok () →
    form.box = some box → Performed (clipToBox box) outcome log →
    Prepared site form outcome
      (.call (.concat form.matrix) answer :: ((tolerated site answer).2 ++ log))

/-- How a form's content ends for the operation that invoked it: it matters only whether a failure
was raised. -/
def Ending.outcome : Ending → Outcome
  | .ok _ => .ok ()
  | .error failure => .error (.abort failure)

def formOutcome (site : Site) (body restored : Outcome) : Outcome × Log K R :=
  match body with
  | .ok () => tolerated site restored
  | .error signal => (.error signal, [])

def bracket (name : String) (depth : Nat) (saved restored : Outcome) (inside : Log K R) : Log K R :=
  .note (.enter name depth) :: .call .save saved :: inside ++
    [.call .restore restored, .note (.leave name)]

/-- Operations still to be performed, one operation, or one form, at a depth that counts the forms
open around it, and what it ends in. -/
inductive Part (K R : Type)
  | content (depth : Nat) (frame : Frame R) (index : Nat) (content : List Operation)
      (ending : Ending)
  | operation (depth : Nat) (frame : Frame R) (site : Site) (op : Operation)
      (answer : Except Failure Unit) (sections : Nat)
  | form (depth : Nat) (site : Site) (name : String) (form : Form K R) (scope : R)
      (outcome : Outcome)

def depthExceeded (limit : Nat) (name : String) : Outcome :=
  .error (.warning (.aboutResource .formDepthExceeded
    ("form nesting deeper than " ++ toString limit) name))

def Sequel.outcome? : Sequel K R → Option Outcome
  | .nothing => some (.ok ())
  | .report warning => some (.error (.warning warning))
  | .enter .. => none

inductive Transcript (resolver : Resolver K R) (limit : Nat) : Part K R → Log K R → Prop
  | finished {depth frame index} :
    Transcript resolver limit (.content depth frame index [] (.ok .finished)) []
  | stopped {depth frame index op rest} :
    Transcript resolver limit (.content depth frame index (op :: rest) (.ok .cancelled))
      [.note (.stop index)]
  | raised {depth frame index op rest failure sections log} :
    Transcript resolver limit
      (.operation depth frame ⟨op.operator, index⟩ op (.error failure) sections) log →
    Transcript resolver limit (.content depth frame index (op :: rest) (.error failure))
      (.note (.dispatch op.operator index) :: log)
  | next {depth frame index op rest sections ending log later} :
    Transcript resolver limit (.operation depth frame ⟨op.operator, index⟩ op (.ok ()) sections) log →
    Transcript resolver limit (.content depth { frame with sections } (index + 1) rest ending) later →
    Transcript resolver limit (.content depth frame index (op :: rest) ending)
      (.note (.dispatch op.operator index) :: (log ++ later))
  | refused {depth features frame site op signal answer log} :
    plan resolver features frame op = .error signal →
    Settled site frame.sections (.error signal) answer log →
    Transcript resolver limit (.operation depth frame site op answer frame.sections) log
  | broken {depth features frame site op p signal answer log heard} :
    plan resolver features frame op = .ok p → Performed p.calls (.error signal) log →
    Settled site p.sections (.error signal) answer heard →
    Transcript resolver limit (.operation depth frame site op answer p.sections) (log ++ heard)
  | performed {depth features frame site op p outcome answer log heard} :
    plan resolver features frame op = .ok p → Performed p.calls (.ok ()) log →
    p.sequel.outcome? = some outcome → Settled site p.sections outcome answer heard →
    Transcript resolver limit (.operation depth frame site op answer p.sections) (log ++ heard)
  | invoked {depth features frame site op p name form outcome answer log inside heard} :
    plan resolver features frame op = .ok p → Performed p.calls (.ok ()) log →
    p.sequel = .enter name form →
    Transcript resolver limit (.form depth site name form frame.scope outcome) inside →
    Settled site p.sections outcome answer heard →
    Transcript resolver limit (.operation depth frame site op answer p.sections)
      (log ++ inside ++ heard)
  | tooDeep {depth site name form scope} : limit ≤ depth →
    Transcript resolver limit (.form depth site name form scope (depthExceeded limit name)) []
  | shut {depth site name form scope saved signal} : depth < limit →
    (tolerated site saved : Outcome × Log K R).1 = .error signal →
    Transcript resolver limit (.form depth site name form scope (.error signal))
      [.note (.enter name (depth + 1)), .call .save saved]
  | unready {depth site name form scope saved signal restored log} : depth < limit →
    (tolerated site saved : Outcome × Log K R).1 = .ok () → Prepared site form (.error signal) log →
    Transcript resolver limit (.form depth site name form scope (.error signal))
      (bracket name (depth + 1) saved restored ((tolerated site saved).2 ++ log))
  | form {depth site name form scope frame ending saved restored log opening inside} : depth < limit →
    (tolerated site saved : Outcome × Log K R).1 = .ok () → Prepared site form (.ok ()) log →
    Opened resolver (form.scope.getD scope) frame opening →
    Transcript resolver limit (.content (depth + 1) frame 0 form.content ending) inside →
    Transcript resolver limit
      (.form depth site name form scope
        (formOutcome site ending.outcome restored : Outcome × Log K R).1)
      (bracket name (depth + 1) saved restored
        ((tolerated site saved).2 ++ log ++ opening ++ inside) ++
        (formOutcome site ending.outcome restored).2)

theorem content_split {resolver : Resolver K R} {limit depth index : Nat} {frame : Frame R}
    {init rest : List Operation} {log : Log K R}
    (transcript : Transcript resolver limit
      (.content depth frame index (init ++ rest) (.ok .finished)) log) :
    ∃ sections first second, log = first ++ second ∧
      Transcript resolver limit (.content depth frame index init (.ok .finished)) first ∧
        Transcript resolver limit
          (.content depth { frame with sections } (index + init.length) rest (.ok .finished))
          second := by
  induction init generalizing frame index log with
  | nil => exact ⟨frame.sections, [], log, rfl, .finished, transcript⟩
  | cons op init ih =>
    cases transcript with
    | @next _ _ _ _ _ _ _ log _ operation later =>
      obtain ⟨sections, first, second, rfl, initial, later⟩ := ih later
      have shifted : index + 1 + init.length = index + (op :: init).length := by
        simp only [List.length_cons]; omega
      rw [shifted] at later
      exact ⟨sections, .note (.dispatch op.operator index) :: (log ++ first), second, by simp,
        .next operation initial, later⟩

section

variable (host : Host K R ω) (site : Site)

omit [Scalar K] in
theorem call_logged (c : Callback K R) (w : ω × Log K R) :
    ∃ answer v, host.logged.call c w = (answer, v, w.2 ++ [.call c answer]) := ⟨_, _, rfl⟩

omit [Scalar K] in
theorem note_logged (note : Note) (w : ω × Log K R) :
    host.logged.note note w = (host.note note w.1, w.2 ++ [.note note]) := rfl

omit [Scalar K] in
theorem perform_logged (calls : List (Callback K R)) (w : ω × Log K R) :
    ∃ answer v log, perform host.logged calls w = (answer, v, w.2 ++ log) ∧
      Performed calls answer log := by
  induction calls generalizing w with
  | nil => exact ⟨.ok (), w.1, [], by simp [perform], .done⟩
  | cons c rest ih =>
    obtain ⟨answer, v, e⟩ := call_logged host c w
    simp only [perform, e]
    rcases answer with signal | ⟨⟨⟩⟩
    · exact ⟨_, _, _, rfl, .broken⟩
    · obtain ⟨answer, u, log, e, performed⟩ := ih (v, w.2 ++ [.call c (.ok ())])
      exact ⟨answer, u, _, by simp only [e, List.append_assoc]; rfl, performed.next⟩

omit [Scalar K] in
theorem tolerate_logged (answer : Outcome) (w : ω × Log K R) :
    ∃ v, tolerate host.logged site (answer, w) =
      ((tolerated site answer : Outcome × Log K R).1, v, w.2 ++ (tolerated site answer).2) := by
  rcases answer with (_ | warning | _ | _) | _
  case error.warning => exact ⟨_, rfl⟩
  all_goals exact ⟨w.1, by simp [tolerate, tolerated]⟩

omit [Scalar K] in
theorem settle_logged (sections : Nat) (outcome : Outcome) (w : ω × Log K R) :
    ∃ answer v log, settle host.logged site sections (outcome, w) = (answer, v, w.2 ++ log) ∧
      Settled site sections outcome answer log := by
  rcases outcome with (_ | warning | failure | failure) | ⟨⟨⟩⟩
  case error.unsupported =>
    by_cases none : sections = 0
    · exact ⟨_, _, _, by simp only [settle, if_pos none]; rfl, .unsupported none⟩
    · exact ⟨.ok (), w.1, [], by simp [settle, none], .ignored none⟩
  case error.warning => exact ⟨_, _, _, rfl, .warning⟩
  case error.fatal => exact ⟨_, _, _, rfl, .fatal⟩
  case error.abort => exact ⟨.error failure, w.1, [], by simp [settle], .abort⟩
  case ok => exact ⟨.ok (), w.1, [], by simp [settle], .ok⟩

variable (resolver : Resolver K R)

omit [Scalar K] in
theorem defaultSpace_logged (scope : R) (name : String) (wanted : Nat) (w : ω × Log K R) :
    ∃ v, defaultSpace host.logged resolver scope name wanted w =
      ((defaultOf resolver scope name wanted).1, v,
        w.2 ++ (defaultOf resolver scope name wanted).2) := by
  simp only [defaultSpace, defaultOf, badDefault]
  rcases resolver.colorSpace scope name with error | _ | space
  · exact ⟨_, rfl⟩
  · exact ⟨w.1, by simp⟩
  · by_cases fits : space.components = wanted
    · exact ⟨w.1, by simp [fits]⟩
    · exact ⟨_, by simp only [if_neg fits]; rfl⟩

omit [Scalar K] in
theorem openFrame_logged (scope : R) (w : ω × Log K R) :
    ∃ frame v log, openFrame host.logged resolver scope w = (frame, v, w.2 ++ log) ∧
      Opened resolver scope frame log := by
  simp only [openFrame]
  split
  · obtain ⟨v₁, gray⟩ := defaultSpace_logged host resolver scope "DefaultGray" 1 w
    simp only [gray]
    obtain ⟨v₂, rgb⟩ := defaultSpace_logged host resolver scope "DefaultRGB" 3
      (v₁, w.2 ++ (defaultOf resolver scope "DefaultGray" 1).2)
    simp only [rgb]
    obtain ⟨v₃, cmyk⟩ := defaultSpace_logged host resolver scope "DefaultCMYK" 4
      (v₂, w.2 ++ (defaultOf resolver scope "DefaultGray" 1).2 ++
        (defaultOf resolver scope "DefaultRGB" 3).2)
    simp only [cmyk]
    exact ⟨_, v₃, _, by simp only [List.append_assoc], .wanted⟩
  · exact ⟨_, w.1, [], by simp, .declined⟩

theorem setUp_logged (form : Form K R) (w : ω × Log K R) :
    ∃ outcome v log, setUp host.logged site form w = (outcome, v, w.2 ++ log) ∧
      Prepared site form outcome log := by
  obtain ⟨answer, v, called⟩ := call_logged host (.concat form.matrix) w
  obtain ⟨u, heard⟩ :=
    tolerate_logged host site answer (v, w.2 ++ [.call (.concat form.matrix) answer])
  simp only [setUp, called, heard]
  rcases outcome : (tolerated site answer : Outcome × Log K R).1 with signal | ⟨⟨⟩⟩
  · exact ⟨_, u, _, by simp [tolerated_silent outcome], .refused outcome⟩
  · rcases boxed : form.box with _ | box
    · exact ⟨_, u, _, by simp, .plain outcome boxed⟩
    · obtain ⟨last, t, log, e, performed⟩ := perform_logged host (clipToBox box)
        (u, w.2 ++ [.call (.concat form.matrix) answer] ++ (tolerated site answer).2)
      exact ⟨last, t, _, by simp only [e]; simp, .boxed outcome boxed performed⟩

variable {resolver} {limit depth : Nat} {forms : FormRunner K R (ω × Log K R)}

def FormsLogged (resolver : Resolver K R) (limit depth : Nat)
    (forms : FormRunner K R (ω × Log K R)) : Prop :=
  ∀ site name form scope w, ∃ outcome v log, forms site name form scope w = (outcome, v, w.2 ++ log) ∧
    Transcript resolver limit (.form depth site name form scope outcome) log

theorem carryOut_logged (logged : FormsLogged resolver limit depth forms) (scope : R)
    (p : Plan K R) (w : ω × Log K R) :
    ∃ outcome v log, carryOut host.logged forms site scope p w = (outcome, v, w.2 ++ log) ∧
      ((∃ signal, outcome = .error signal ∧ Performed p.calls (.error signal) log) ∨
        (Performed p.calls (.ok ()) log ∧ p.sequel.outcome? = some outcome) ∨
        ∃ name form own inside, log = own ++ inside ∧ Performed p.calls (.ok ()) own ∧
          p.sequel = .enter name form ∧
          Transcript resolver limit (.form depth site name form scope outcome) inside) := by
  obtain ⟨called, v, log, e, performed⟩ := perform_logged host p.calls w
  simp only [carryOut, e]
  rcases called with signal | ⟨⟨⟩⟩
  · exact ⟨_, v, log, rfl, .inl ⟨signal, rfl, performed⟩⟩
  · simp only [follow]
    rcases sequel : p.sequel with _ | warning | ⟨name, form⟩
    · exact ⟨_, v, log, rfl, .inr (.inl ⟨performed, rfl⟩)⟩
    · exact ⟨_, v, log, rfl, .inr (.inl ⟨performed, rfl⟩)⟩
    · obtain ⟨outcome, u, inside, e, transcript⟩ := logged site name form scope (v, w.2 ++ log)
      exact ⟨outcome, u, log ++ inside, by simp only [e, List.append_assoc],
        .inr (.inr ⟨name, form, log, inside, rfl, performed, rfl, transcript⟩)⟩

theorem operate_logged (logged : FormsLogged resolver limit depth forms) (frame : Frame R)
    (op : Operation) (w : ω × Log K R) :
    ∃ answer sections v log,
      operate host.logged resolver forms frame site op w = (answer, sections, v, w.2 ++ log) ∧
        Transcript resolver limit (.operation depth frame site op answer sections) log := by
  simp only [operate]
  rcases planned : plan resolver (host.logged.features w) frame op with signal | p
  · obtain ⟨answer, v, log, e, settled⟩ :=
      settle_logged host site frame.sections (.error signal) w
    exact ⟨answer, frame.sections, v, log, by simp only [e], .refused planned settled⟩
  · obtain ⟨outcome, v, log, e, carried⟩ := carryOut_logged host site logged frame.scope p w
    obtain ⟨answer, u, heard, e', settled⟩ :=
      settle_logged host site p.sections outcome (v, w.2 ++ log)
    refine ⟨answer, p.sections, u, log ++ heard, by simp only [e, e', List.append_assoc], ?_⟩
    rcases carried with ⟨signal, rfl, performed⟩ | ⟨performed, sequel⟩ |
      ⟨name, form, own, inside, rfl, performed, sequel, transcript⟩
    · exact .broken planned performed settled
    · exact .performed planned performed sequel settled
    · exact .invoked planned performed sequel transcript settled

theorem execute_logged (logged : FormsLogged resolver limit depth forms) (frame : Frame R)
    (index : Nat) (content : List Operation) (w : ω × Log K R) :
    ∃ ending v log,
      execute host.logged resolver forms frame index content w = (ending, v, w.2 ++ log) ∧
        Transcript resolver limit (.content depth frame index content ending) log := by
  induction content generalizing frame index w with
  | nil => exact ⟨_, w.1, [], by simp [execute], .finished⟩
  | cons op rest ih =>
    simp only [execute, note_logged]
    split
    · exact ⟨_, _, _, rfl, .stopped⟩
    · obtain ⟨answer, sections, v, log, e, operation⟩ :=
        operate_logged host ⟨op.operator, index⟩ logged frame op
          (host.note (.dispatch op.operator index) w.1, w.2 ++ [.note (.dispatch op.operator index)])
      simp only [e]
      rcases answer with failure | ⟨⟨⟩⟩
      · exact ⟨_, v, _, by simp, .raised operation⟩
      · obtain ⟨ending, u, later, e, rest⟩ := ih { frame with sections } (index + 1)
          (v, w.2 ++ [.note (.dispatch op.operator index)] ++ log)
        exact ⟨ending, u, _, by simp only [e]; simp, .next operation rest⟩

def RunsLogged (resolver : Resolver K R) (limit depth : Nat)
    (run : R → List Operation → ω × Log K R → Ending × ω × Log K R) : Prop :=
  ∀ scope content w, ∃ frame ending v opening log,
    run scope content w = (ending, v, w.2 ++ (opening ++ log)) ∧ Opened resolver scope frame opening ∧
      Transcript resolver limit (.content depth frame 0 content ending) log

theorem runBody_logged {run : R → List Operation → ω × Log K R → Ending × ω × Log K R}
    (logged : RunsLogged resolver limit (depth + 1) run) (form : Form K R) (scope : R)
    (w : ω × Log K R) :
    ∃ outcome v log, runBody host.logged run site form scope w = (outcome, v, w.2 ++ log) ∧
      ((∃ signal, outcome = .error signal ∧ Prepared site form (.error signal) log) ∨
        ∃ frame ending ready opening inside, log = ready ++ opening ++ inside ∧
          outcome = ending.outcome ∧ Prepared site form (.ok ()) ready ∧
          Opened resolver (form.scope.getD scope) frame opening ∧
          Transcript resolver limit (.content (depth + 1) frame 0 form.content ending) inside) := by
  obtain ⟨outcome, v, log, ready, prepared⟩ := setUp_logged host site form w
  simp only [runBody, ready]
  rcases outcome with signal | ⟨⟨⟩⟩
  · exact ⟨_, v, log, rfl, .inl ⟨signal, rfl, prepared⟩⟩
  · obtain ⟨frame, ending, u, opening, inside, e, opened, transcript⟩ :=
      logged (form.scope.getD scope) form.content (v, w.2 ++ log)
    refine ⟨ending.outcome, u, log ++ opening ++ inside, ?_,
      .inr ⟨frame, ending, log, opening, inside, rfl, rfl, prepared, opened, transcript⟩⟩
    simp only [e, List.append_assoc]
    cases ending <;> rfl

omit [Scalar K] in
theorem leaveForm_logged (name : String) (body : Outcome) (w : ω × Log K R) :
    ∃ restored v, leaveForm host.logged site name body w =
      ((formOutcome site body restored : Outcome × Log K R).1, v,
        w.2 ++ [.call .restore restored, .note (.leave name)] ++
          (formOutcome site body restored).2) := by
  obtain ⟨restored, v, e⟩ := call_logged host .restore w
  simp only [leaveForm, e, note_logged]
  rcases body with signal | ⟨⟨⟩⟩
  · exact ⟨restored, _, by simp [formOutcome]; rfl⟩
  · obtain ⟨u, e⟩ := tolerate_logged host site restored
      (host.note (.leave name) v, w.2 ++ [.call .restore restored] ++ [.note (.leave name)])
    exact ⟨restored, u, by simp only [e]; simp [formOutcome]⟩

theorem runForm_logged {run : R → List Operation → ω × Log K R → Ending × ω × Log K R}
    (logged : RunsLogged resolver limit (depth + 1) run) (below : depth < limit) :
    FormsLogged resolver limit depth (runForm host.logged (depth + 1) run) := by
  intro site name form scope w
  obtain ⟨saved, v, called⟩ := call_logged host .save
    (host.note (.enter name (depth + 1)) w.1, w.2 ++ [.note (.enter name (depth + 1))])
  obtain ⟨u, heard⟩ := tolerate_logged host site saved
    (v, w.2 ++ [.note (.enter name (depth + 1))] ++ [.call .save saved])
  simp only [runForm, note_logged, called, heard]
  rcases entered : (tolerated site saved : Outcome × Log K R).1 with signal | ⟨⟨⟩⟩
  · exact ⟨_, u, _, by simp [tolerated_silent entered], .shut below entered⟩
  · obtain ⟨outcome, t, log, e, body⟩ := runBody_logged host site logged form scope
      (u, w.2 ++ [.note (.enter name (depth + 1))] ++ [.call .save saved] ++ (tolerated site saved).2)
    simp only [e]
    obtain ⟨restored, s, e⟩ := leaveForm_logged host site name outcome (t, w.2 ++
      [.note (.enter name (depth + 1))] ++ [.call .save saved] ++ (tolerated site saved).2 ++ log)
    simp only [e]
    rcases body with ⟨signal, rfl, prepared⟩ |
      ⟨frame, ending, ready, opening, inside, rfl, rfl, prepared, opened, transcript⟩
    · have rule : Transcript resolver limit (.form depth site name form scope (.error signal))
          (bracket name (depth + 1) saved restored ((tolerated site saved).2 ++ log)) :=
        .unready below entered prepared
      exact ⟨_, s, _, by simp [bracket, formOutcome], rule⟩
    · have rule : Transcript resolver limit (.form depth site name form scope
            (formOutcome site ending.outcome restored : Outcome × Log K R).1)
          (bracket name (depth + 1) saved restored
            ((tolerated site saved).2 ++ ready ++ opening ++ inside) ++
              (formOutcome site ending.outcome restored).2) :=
        .form below entered prepared opened transcript
      exact ⟨_, s, _, by simp [bracket], rule⟩

theorem tooDeep_logged (full : limit ≤ depth) :
    FormsLogged resolver limit depth (tooDeep limit : FormRunner K R (ω × Log K R)) :=
  fun _ name _ _ w => ⟨depthExceeded limit name, w.1, [], by simp [tooDeep, depthExceeded],
    .tooDeep full⟩

theorem run_logged_of {room : Nat}
    (logged : FormsLogged resolver limit depth (formRunner host.logged resolver limit room)) :
    RunsLogged resolver limit depth (run host.logged resolver limit room) := by
  intro scope content w
  obtain ⟨frame, v, opening, e, opened⟩ := openFrame_logged host resolver scope w
  obtain ⟨ending, u, log, e', transcript⟩ :=
    execute_logged host logged frame 0 content (v, w.2 ++ opening)
  exact ⟨frame, ending, u, opening, log, by simp only [run_eq, e, e', List.append_assoc], opened,
    transcript⟩

theorem formRunner_logged (room : Nat) (within : room ≤ limit) :
    FormsLogged resolver limit (limit - room) (formRunner host.logged resolver limit room) := by
  induction room with
  | zero => exact tooDeep_logged (Nat.le_refl limit)
  | succ room ih =>
    have deeper : limit - (room + 1) + 1 = limit - room := by omega
    have inner : RunsLogged resolver limit (limit - (room + 1) + 1)
        (run host.logged resolver limit room) := run_logged_of host (deeper ▸ ih (by omega))
    have forms := runForm_logged host inner (by omega)
    rwa [deeper] at forms

theorem run_logged (resolver : Resolver K R) (room : Nat) (within : room ≤ limit) :
    RunsLogged resolver limit (limit - room) (run host.logged resolver limit room) :=
  run_logged_of host (formRunner_logged host room within)

theorem history_logged (resolver : Resolver K R) (limit : Nat) (scope : R)
    (content : List Operation) (w : ω) :
    ∃ frame opening log, history host resolver limit scope content w = opening ++ log ∧
      Opened resolver scope frame opening ∧
      Transcript resolver limit
        (.content 0 frame 0 content (process host resolver limit scope content w).1) log := by
  obtain ⟨frame, ending, v, opening, log, e, opened, transcript⟩ :=
    run_logged host resolver limit (Nat.le_refl limit) scope content (w, [])
  have same := (process_logged host resolver limit scope content w []).1
  simp only [process, e] at same
  rw [Nat.sub_self, same] at transcript
  exact ⟨frame, opening, log, by simp [history, process, e], opened, transcript⟩

end
end PageMarks.Interpreter
