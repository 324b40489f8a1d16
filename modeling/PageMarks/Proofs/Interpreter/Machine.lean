import Mathlib.Logic.Relation
import PageMarks.Proofs.Interpreter.Plan
import PageMarks.Proofs.Interpreter.Transcript

/-!
The interpreter as a machine with a stack. A step takes up one operation, goes into one form or leaves
one; whether a form is nested too deep is asked of the stack, and nothing counts down. The main
statement is that from content at its beginning the machine comes to the ending that `execute` has
for it, and leaves what lies below on the stack alone until then.
-/

namespace PageMarks.Interpreter

structure Activity (R : Type) where
  frame : Frame R
  index : Nat
  rest : List Operation

/-- A form whose content is being run: where its name came up, and what goes on after it. -/
structure OpenForm (K R : Type) where
  site : Site
  name : String
  form : Form K R
  around : Activity R

inductive Machine (K R ω : Type)
  | running (inner : Activity R) (forms : List (OpenForm K R)) (w : ω)
  | ended (ending : Ending) (forms : List (OpenForm K R)) (w : ω)

namespace Machine

variable {K R ω : Type}

def forms : Machine K R ω → List (OpenForm K R)
  | running _ forms _ | ended _ forms _ => forms

def frames : Machine K R ω → List (Frame R)
  | running inner forms _ => inner.frame :: forms.map (·.around.frame)
  | ended _ forms _ => forms.map (·.around.frame)

end Machine

variable {K R ω : Type} (host : Host K R ω)

def goOn (next : Activity R) (forms : List (OpenForm K R)) :
    Except Failure Unit × ω → Machine K R ω
  | (.ok (), w) => .running next forms w
  | (.error failure, w) => .ended (.error failure) forms w

variable (resolver : Resolver K R) (limit : Nat)

section

variable [Scalar K]

def goInto (depth : Nat) (site : Site) (name : String) (form : Form K R) (scope : R) (w : ω) :
    Except Outcome (Frame R) × ω :=
  match tolerate host site (host.call .save (host.note (.enter name depth) w)) with
  | (.error signal, w) => (.error (.error signal), w)
  | (.ok (), w) =>
    match setUp host site form w with
    | (.error signal, w) =>
      let (outcome, w) := leaveForm host site name (.error signal) w
      (.error outcome, w)
    | (.ok (), w) =>
      let (frame, w) := openFrame host resolver (form.scope.getD scope) w
      (.ok frame, w)

def enter (site : Site) (name : String) (form : Form K R) (next : Activity R)
    (forms : List (OpenForm K R)) (w : ω) : Machine K R ω :=
  if limit < forms.length + 1 then
    goOn next forms (settle host site next.frame.sections
      (tooDeep limit site name form next.frame.scope w))
  else
    match goInto host resolver (forms.length + 1) site name form next.frame.scope w with
    | (.error outcome, w) => goOn next forms (settle host site next.frame.sections (outcome, w))
    | (.ok inner, w) => .running ⟨inner, 0, form.content⟩ (⟨site, name, form, next⟩ :: forms) w

def takeUp (frame : Frame R) (index : Nat) (op : Operation) (rest : List Operation)
    (forms : List (OpenForm K R)) (w : ω) : Machine K R ω :=
  let site : Site := ⟨op.operator, index⟩
  match plan resolver (host.features w) frame op with
  | .error signal =>
    goOn ⟨frame, index + 1, rest⟩ forms (settle host site frame.sections (.error signal, w))
  | .ok p =>
    let next : Activity R := ⟨{ frame with sections := p.sections }, index + 1, rest⟩
    match perform host p.calls w with
    | (.error signal, w) => goOn next forms (settle host site p.sections (.error signal, w))
    | (.ok (), w) =>
      match p.sequel with
      | .nothing => goOn next forms (settle host site p.sections (.ok (), w))
      | .report warning =>
        goOn next forms (settle host site p.sections (.error (.warning warning), w))
      | .enter name form => enter host resolver limit site name form next forms w

def step : Machine K R ω → Option (Machine K R ω)
  | .running ⟨_, _, []⟩ forms w => some (.ended (.ok .finished) forms w)
  | .running ⟨frame, index, op :: rest⟩ forms w =>
    if host.cancelled w then some (.ended (.ok .cancelled) forms (host.note (.stop index) w))
    else
      let w := host.note (.dispatch op.operator index) w
      some (takeUp host resolver limit frame index op rest forms w)
  | .ended ending (inner :: forms) w =>
    some (goOn inner.around forms (settle host inner.site inner.around.frame.sections
      (leaveForm host inner.site inner.name ending.outcome w)))
  | .ended _ [] _ => none

end

def start (scope : R) (content : List Operation) (w : ω) : Machine K R ω :=
  let (frame, w) := openFrame host resolver scope w
  .running ⟨frame, 0, content⟩ [] w

variable [Scalar K]

/-- Steps that leave alone what is on the stack. -/
def StepAbove (below : List (OpenForm K R)) (m n : Machine K R ω) : Prop :=
  step host resolver limit m = some n ∧ below <:+ n.forms

/-- Steps of which none goes below a stack. -/
abbrev Reaches (below : List (OpenForm K R)) : Machine K R ω → Machine K R ω → Prop :=
  Relation.ReflTransGen (StepAbove host resolver limit below)

/-- An operation is given up, is performed to its end, or goes into the content of a form; content
comes to its end, and a form is left. -/
inductive Moves : Machine K R ω → Machine K R ω → Prop
  | finished {frame index forms w} :
    Moves (.running ⟨frame, index, []⟩ forms w) (.ended (.ok .finished) forms w)
  | stopped {frame index op rest forms w} : host.cancelled w = true →
    Moves (.running ⟨frame, index, op :: rest⟩ forms w)
      (.ended (.ok .cancelled) forms (host.note (.stop index) w))
  | operated {frame index op rest forms w sections answered} : host.cancelled w = false →
    (op.kind? = some .paintXObject → sections = frame.sections) →
    Moves (.running ⟨frame, index, op :: rest⟩ forms w)
      (goOn ⟨{ frame with sections }, index + 1, rest⟩ forms answered)
  | entered {frame index op rest forms w name form u v} : host.cancelled w = false →
    forms.length < limit → op.kind? = some .paintXObject → op.name 0 = .ok name →
    resolver.xobject frame.scope name = .ok (some (.form form)) →
    Moves (.running ⟨frame, index, op :: rest⟩ forms w)
      (.running ⟨(openFrame host resolver (form.scope.getD frame.scope) u).1, 0, form.content⟩
        (⟨⟨op.operator, index⟩, name, form, ⟨frame, index + 1, rest⟩⟩ :: forms) v)
  | left {ending inner forms w} :
    Moves (.ended ending (inner :: forms) w)
      (goOn inner.around forms (settle host inner.site inner.around.frame.sections
        (leaveForm host inner.site inner.name ending.outcome w)))

section

variable {host resolver limit}

theorem goInto_ok {depth : Nat} {site : Site} {name : String} {form : Form K R} {scope : R} {w v : ω}
    {frame : Frame R} (gone : goInto host resolver depth site name form scope w = (.ok frame, v)) :
    ∃ u, frame = (openFrame host resolver (form.scope.getD scope) u).1 := by
  unfold goInto at gone
  split at gone
  · cases gone
  · split at gone
    · cases gone
    · cases gone
      exact ⟨_, rfl⟩

theorem paint_sections {features : Features} {frame : Frame R} {op : Operation}
    (paints : op.kind? = some .paintXObject) :
    Yields (fun p : Plan K R => p.sections = frame.sections) (plan resolver features frame op) := by
  rw [plan, paints]
  refine yields_bind fun _ => yields_bind fun _ => ?_
  split <;> exact yields_ok rfl

theorem takeUp_moves {frame : Frame R} {index : Nat} {op : Operation} {rest : List Operation}
    {forms : List (OpenForm K R)} {w : ω} (going : host.cancelled w = false) (v : ω) :
    Moves host resolver limit (.running ⟨frame, index, op :: rest⟩ forms w)
      (takeUp host resolver limit frame index op rest forms v) := by
  unfold takeUp
  rcases planned : plan resolver (host.features v) frame op with signal | p
  · exact .operated going fun _ => rfl
  · have same (paints : op.kind? = some .paintXObject) := paint_sections paints p planned
    dsimp only
    rcases perform host p.calls v with ⟨signal | ⟨⟨⟩⟩, v⟩
    · exact .operated going same
    · dsimp only
      rcases sequel : p.sequel with _ | warning | ⟨name, form⟩
      · exact .operated going same
      · exact .operated going same
      · have enters := plan_enters _ _ _ _ _ planned name form sequel
        dsimp only [enter]
        split
        · exact .operated going same
        · split
          · exact .operated going same
          · rename_i within _ inner v gone
            obtain ⟨u, rfl⟩ := goInto_ok gone
            rw [enters.sections]
            exact .entered going (by omega) enters.kind enters.named enters.found

theorem step_moves {m n : Machine K R ω} (taken : step host resolver limit m = some n) :
    Moves host resolver limit m n := by
  match m with
  | .running ⟨frame, index, []⟩ forms w =>
    cases taken
    exact .finished
  | .running ⟨frame, index, op :: rest⟩ forms w =>
    rw [step] at taken
    split at taken
    · cases taken
      exact .stopped ‹_›
    · cases taken
      exact takeUp_moves (eq_false_of_ne_true ‹_›) _
  | .ended ending (inner :: forms) w =>
    cases taken
    exact .left
  | .ended ending [] w => cases taken

omit [Scalar K] in
@[simp] theorem goOn_forms (next : Activity R) (forms : List (OpenForm K R))
    (answered : Except Failure Unit × ω) :
    (goOn next forms answered : Machine K R ω).forms = forms := by
  obtain ⟨_ | ⟨⟨⟩⟩, _⟩ := answered <;> rfl

theorem running_keeps {inner : Activity R} {forms : List (OpenForm K R)} {w : ω}
    {n : Machine K R ω} (taken : step host resolver limit (.running inner forms w) = some n) :
    forms <:+ n.forms := by
  cases step_moves taken with
  | finished | stopped => exact List.suffix_rfl
  | operated => simp only [goOn_forms, List.suffix_rfl]
  | entered => exact List.suffix_cons _ _

end

def resume (runner : FormRunner K R ω) (next : Activity R) :
    Except Failure Unit × ω → Ending × ω
  | (.error failure, w) => (.error failure, w)
  | (.ok (), w) => execute host resolver runner next.frame next.index next.rest w

/-- The machine comes to an ending of the content that is run on top of a stack. -/
def Completes (forms : List (OpenForm K R)) (m : Machine K R ω) (result : Ending × ω) : Prop :=
  Reaches host resolver limit forms m (.ended result.1 forms result.2)

variable {host resolver limit} {runner : FormRunner K R ω} {forms : List (OpenForm K R)}

theorem reaches_mono {below : List (OpenForm K R)} (within : forms <:+ below) {m n : Machine K R ω}
    (reaches : Reaches host resolver limit below m n) : Reaches host resolver limit forms m n := by
  induction reaches with
  | refl => exact .refl
  | tail _ above ih => exact .tail ih ⟨above.1, within.trans above.2⟩

theorem completes_step {m n : Machine K R ω} {result : Ending × ω}
    (taken : step host resolver limit m = some n) (above : forms <:+ n.forms)
    (completes : Completes host resolver limit forms n result) :
    Completes host resolver limit forms m result :=
  .head ⟨taken, above⟩ completes

theorem goOn_completes {next : Activity R} {answered : Except Failure Unit × ω}
    (content : ∀ v, Completes host resolver limit forms (.running next forms v)
      (execute host resolver runner next.frame next.index next.rest v)) :
    Completes host resolver limit forms (goOn next forms answered)
      (resume host resolver runner next answered) := by
  obtain ⟨failure | ⟨⟨⟩⟩, v⟩ := answered
  · exact .refl
  · exact content v

def operateAndResume (host : Host K R ω) (resolver : Resolver K R) (runner : FormRunner K R ω)
    (frame : Frame R) (index : Nat) (op : Operation) (rest : List Operation) (w : ω) : Ending × ω :=
  let (answer, sections, w) := operate host resolver runner frame ⟨op.operator, index⟩ op w
  resume host resolver runner ⟨{ frame with sections }, index + 1, rest⟩ (answer, w)

theorem execute_cons {frame : Frame R} {index : Nat} {op : Operation} {rest : List Operation} {w : ω}
    (going : host.cancelled w = false) :
    execute host resolver runner frame index (op :: rest) w =
      operateAndResume host resolver runner frame index op rest
        (host.note (.dispatch op.operator index) w) := by
  simp only [execute, going, Bool.false_eq_true, if_false, operateAndResume]
  rcases operate host resolver runner frame ⟨op.operator, index⟩ op
    (host.note (.dispatch op.operator index) w) with ⟨_ | ⟨⟨⟩⟩, _, _⟩ <;> rfl

theorem formRunner_succ (room : Nat) (site : Site) (name : String) (form : Form K R) (scope : R)
    (w : ω) :
    formRunner host resolver limit (room + 1) site name form scope w =
      match goInto host resolver (limit - room) site name form scope w with
      | (.error outcome, v) => (outcome, v)
      | (.ok frame, v) =>
        let (ending, u) :=
          execute host resolver (formRunner host resolver limit room) frame 0 form.content v
        leaveForm host site name ending.outcome u := by
  change runForm host (limit - room) (run host resolver limit room) site name form scope w = _
  simp only [runForm, goInto, runBody, run_eq]
  rcases tolerate host site (host.call .save (host.note (.enter name (limit - room)) w)) with
    ⟨_ | ⟨⟨⟩⟩, v⟩
  · rfl
  · dsimp only
    rcases setUp host site form v with ⟨_ | ⟨⟨⟩⟩, u⟩
    · rfl
    · dsimp only
      rcases execute host resolver (formRunner host resolver limit room)
        (openFrame host resolver (form.scope.getD scope) u).1 0 form.content
        (openFrame host resolver (form.scope.getD scope) u).2 with ⟨_ | _, t⟩ <;> rfl

def FormsComplete (host : Host K R ω) (resolver : Resolver K R) (limit : Nat)
    (forms : List (OpenForm K R)) (room : Nat) : Prop :=
  ∀ inner smaller, room = smaller + 1 → ∀ frame content w,
    Completes host resolver limit (inner :: forms) (.running ⟨frame, 0, content⟩ (inner :: forms) w)
      (execute host resolver (formRunner host resolver limit smaller) frame 0 content w)

variable {room : Nat} (fits : forms.length + room = limit)
  (inside : FormsComplete host resolver limit forms room)
include fits inside

theorem enter_completes {next : Activity R}
    (content : ∀ v, Completes host resolver limit forms (.running next forms v)
      (execute host resolver (formRunner host resolver limit room) next.frame next.index next.rest v))
    (site : Site) (name : String) (form : Form K R) (w : ω) :
    Completes host resolver limit forms (enter host resolver limit site name form next forms w)
      (resume host resolver (formRunner host resolver limit room) next
        (settle host site next.frame.sections
          (formRunner host resolver limit room site name form next.frame.scope w))) := by
  cases room with
  | zero =>
    have full : limit < forms.length + 1 := by omega
    rw [enter, if_pos full]
    exact goOn_completes content
  | succ room =>
    have within : ¬ limit < forms.length + 1 := by omega
    have depth : limit - room = forms.length + 1 := by omega
    rw [enter, if_neg within, formRunner_succ, depth]
    rcases goInto host resolver (forms.length + 1) site name form next.frame.scope w with
      ⟨outcome | frame, v⟩
    · exact goOn_completes content
    · have run := inside ⟨site, name, form, next⟩ room rfl frame form.content v
      exact (reaches_mono (List.suffix_cons _ _) run).trans
        (completes_step rfl (by simp) (goOn_completes content))

theorem takeUp_completes {rest : List Operation}
    (content : ∀ frame index v, Completes host resolver limit forms
      (.running ⟨frame, index, rest⟩ forms v)
      (execute host resolver (formRunner host resolver limit room) frame index rest v))
    (frame : Frame R) (index : Nat) (op : Operation) (w : ω) :
    Completes host resolver limit forms (takeUp host resolver limit frame index op rest forms w)
      (operateAndResume host resolver (formRunner host resolver limit room) frame index op rest w) := by
  unfold takeUp operateAndResume operate
  rcases plan resolver (host.features w) frame op with signal | p
  · exact goOn_completes fun v => content _ _ v
  · dsimp only [carryOut]
    rcases perform host p.calls w with ⟨signal | ⟨⟨⟩⟩, v⟩
    · exact goOn_completes fun v => content _ _ v
    · dsimp only [follow]
      rcases p.sequel with _ | warning | ⟨name, form⟩
      · exact goOn_completes fun v => content _ _ v
      · exact goOn_completes fun v => content _ _ v
      · let next : Activity R := ⟨{ frame with sections := p.sections }, index + 1, rest⟩
        have goesOn (v : ω) : Completes host resolver limit forms (.running next forms v)
            (execute host resolver (formRunner host resolver limit room) next.frame next.index
              next.rest v) :=
          content _ _ v
        exact enter_completes fits inside goesOn _ name form v

theorem content_completes (frame : Frame R) (index : Nat) (content : List Operation) (w : ω) :
    Completes host resolver limit forms (.running ⟨frame, index, content⟩ forms w)
      (execute host resolver (formRunner host resolver limit room) frame index content w) := by
  induction content generalizing frame index w with
  | nil => exact completes_step rfl List.suffix_rfl .refl
  | cons op rest ih =>
    cases asked : host.cancelled w with
    | true =>
      simp only [execute, asked, if_true]
      exact completes_step (by simp only [step, asked, if_true]) List.suffix_rfl .refl
    | false =>
      rw [execute_cons asked]
      have taken : step host resolver limit (.running ⟨frame, index, op :: rest⟩ forms w) =
          some (takeUp host resolver limit frame index op rest forms
            (host.note (.dispatch op.operator index) w)) := by
        simp only [step, asked, Bool.false_eq_true, if_false]
      exact completes_step taken (running_keeps taken)
        (takeUp_completes fits inside ih frame index op _)

omit fits inside

/-- The machine runs content on top of any stack to the ending that `execute` has for it, if there
is room for as many forms as `execute` would nest. -/
theorem execute_completes (fits : forms.length + room = limit) (frame : Frame R) (index : Nat)
    (content : List Operation) (w : ω) :
    Completes host resolver limit forms (.running ⟨frame, index, content⟩ forms w)
      (execute host resolver (formRunner host resolver limit room) frame index content w) := by
  induction room generalizing forms frame index content w with
  | zero => exact content_completes fits (fun _ _ none => nomatch none) frame index content w
  | succ room ih =>
    refine content_completes fits ?_ frame index content w
    rintro inner _ ⟨⟩ frame content w
    have deeper : (inner :: forms).length + room = limit := by
      rw [List.length_cons]; omega
    exact ih deeper frame 0 content w

theorem process_reached (host : Host K R ω) (resolver : Resolver K R) (limit : Nat) (scope : R)
    (content : List Operation) (w : ω) :
    Reaches host resolver limit [] (start host resolver scope content w)
      (.ended (process host resolver limit scope content w).1 []
        (process host resolver limit scope content w).2) := by
  have fits : ([] : List (OpenForm K R)).length + limit = limit := Nat.zero_add limit
  rw [process, run_eq]
  exact execute_completes fits _ 0 content _

end PageMarks.Interpreter
