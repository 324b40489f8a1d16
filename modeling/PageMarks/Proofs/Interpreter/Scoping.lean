import PageMarks.Proofs.Interpreter.Asking
import PageMarks.Proofs.Interpreter.Depth

/-!
Whose resources a name means. The scope in force is that of the innermost open form that brings one,
or else the page's; it is worked out below from the stack of forms alone. The main statement is that
every frame is of the scope in force at its place, that all lookups are made in it, and that content
that goes into a form comes back to the frame it had.
-/

namespace PageMarks.Interpreter

variable {K R ω : Type}

/-- The scope in force inside open forms, the innermost first, on a page with a scope. -/
def inForce (page : R) (forms : List (OpenForm K R)) : R :=
  (forms.findSome? (·.form.scope)).getD page

theorem inForce_cons (page : R) (inner : OpenForm K R) (forms : List (OpenForm K R)) :
    inForce page (inner :: forms) = inner.form.scope.getD (inForce page forms) := by
  unfold inForce
  rw [List.findSome?_cons]
  cases inner.form.scope <;> rfl

def defaultsOf (resolver : Resolver K R) (scope : R) :
    Option ColorSpace × Option ColorSpace × Option ColorSpace :=
  ((defaultOf resolver scope "DefaultGray" 1).1, (defaultOf resolver scope "DefaultRGB" 3).1,
    (defaultOf resolver scope "DefaultCMYK" 4).1)

def Frame.defaults (frame : Frame R) : Option ColorSpace × Option ColorSpace × Option ColorSpace :=
  (frame.gray, frame.rgb, frame.cmyk)

structure FrameOf (host : Host K R ω) (resolver : Resolver K R) (scope : R) (frame : Frame R) :
    Prop where
  is : frame.scope = scope
  defaults : ∃ opened, frame.defaults =
    if host.features opened .colorSpace then defaultsOf resolver scope else (none, none, none)

def FramesOf (host : Host K R ω) (resolver : Resolver K R) (page : R) :
    List (OpenForm K R) → Prop
  | [] => True
  | inner :: forms =>
    FrameOf host resolver (inForce page forms) inner.around.frame ∧ FramesOf host resolver page forms

/-- All frames of a machine are of the scopes in force. -/
def InScope (host : Host K R ω) (resolver : Resolver K R) (page : R) : Machine K R ω → Prop
  | .running inner forms _ =>
    FrameOf host resolver (inForce page forms) inner.frame ∧ FramesOf host resolver page forms
  | .ended _ forms _ => FramesOf host resolver page forms

section

variable {host : Host K R ω} {resolver : Resolver K R}

theorem defaultSpace_fst (scope : R) (name : String) (wanted : Nat) (w : ω) :
    (defaultSpace host resolver scope name wanted w).1 = (defaultOf resolver scope name wanted).1 := by
  unfold defaultSpace defaultOf
  rcases resolver.colorSpace scope name with error | _ | space
  · rfl
  · rfl
  · dsimp only
    split <;> rfl

theorem openFrame_of (scope : R) (w : ω) :
    FrameOf host resolver scope (openFrame host resolver scope w).1 := by
  unfold openFrame
  cases wanted : host.features w .colorSpace with
  | false => exact ⟨rfl, w, by rw [wanted]; rfl⟩
  | true =>
    refine ⟨rfl, w, ?_⟩
    simp only [wanted, if_true, Frame.defaults, defaultsOf, defaultSpace_fst]

theorem FrameOf.withSections {scope : R} {frame : Frame R} (frameOf : FrameOf host resolver scope frame)
    (sections : Nat) : FrameOf host resolver scope { frame with sections } :=
  ⟨frameOf.is, frameOf.defaults⟩

theorem goOn_inScope {page : R} {next : Activity R} {forms : List (OpenForm K R)}
    (frameOf : FrameOf host resolver (inForce page forms) next.frame)
    (framesOf : FramesOf host resolver page forms) (answered : Except Failure Unit × ω) :
    InScope host resolver page (goOn next forms answered) := by
  obtain ⟨_ | ⟨⟨⟩⟩, _⟩ := answered
  · exact framesOf
  · exact ⟨frameOf, framesOf⟩

variable [Scalar K] {limit : Nat} {page : R}

omit [Scalar K] in
theorem moves_inScope {m n : Machine K R ω} (moves : Moves host resolver limit m n)
    (placed : InScope host resolver page m) : InScope host resolver page n := by
  cases moves with
  | finished | stopped => exact placed.2
  | operated => exact goOn_inScope (placed.1.withSections _) placed.2 _
  | @entered frame _ _ _ forms _ name form u =>
    refine ⟨?_, placed⟩
    rw [inForce_cons, ← placed.1.is]
    exact openFrame_of _ u
  | left => exact goOn_inScope placed.1 placed.2 _

theorem reaches_inScope {below : List (OpenForm K R)} {m n : Machine K R ω}
    (reaches : Reaches host resolver limit below m n) (placed : InScope host resolver page m) :
    InScope host resolver page n := by
  induction reaches with
  | refl => exact placed
  | tail _ taken ih => exact moves_inScope (step_moves taken.1) ih

omit [Scalar K] in
theorem start_inScope (content : List Operation) (w : ω) :
    InScope host resolver page (start host resolver page content w) :=
  ⟨openFrame_of page w, trivial⟩

/-- A machine is at content that goes on with `next` or has had a failure raised, or comes to that from
inside a form, and does not touch what lies below the form until then. -/
inductive ComesBack (host : Host K R ω) (resolver : Resolver K R) (limit : Nat) (next : Activity R)
    (forms : List (OpenForm K R)) : Machine K R ω → Prop
  | now {answered} : ComesBack host resolver limit next forms (goOn next forms answered)
  | later {inner opened v ending u answered} :
    Reaches host resolver limit (opened :: forms) (.running inner (opened :: forms) v)
      (.ended ending (opened :: forms) u) →
    step host resolver limit (.ended ending (opened :: forms) u) =
      some (goOn next forms answered) →
    ComesBack host resolver limit next forms (.running inner (opened :: forms) v)

theorem entered_comesBack {opened : OpenForm K R} {forms : List (OpenForm K R)}
    (within : forms.length < limit) (frame : Frame R) (content : List Operation) (v : ω) :
    ComesBack host resolver limit opened.around forms
      (.running ⟨frame, 0, content⟩ (opened :: forms) v) := by
  have fits : (opened :: forms).length + (limit - (forms.length + 1)) = limit := by
    rw [List.length_cons]; omega
  exact .later (execute_completes fits frame 0 content v) rfl

theorem paint_comesBack {frame : Frame R} {index : Nat} {op : Operation} {rest : List Operation}
    {forms : List (OpenForm K R)} {v : ω} {n : Machine K R ω}
    (paints : op.kind? = some .paintXObject) (going : host.cancelled v = false)
    (taken : step host resolver limit (.running ⟨frame, index, op :: rest⟩ forms v) = some n) :
    ComesBack host resolver limit ⟨frame, index + 1, rest⟩ forms n := by
  cases step_moves taken with
  | stopped asked => rw [going] at asked; cases asked
  | operated _ same =>
    rw [same paints]
    exact .now
  | @entered _ _ _ _ _ _ name form _ _ _ within =>
    let opened : OpenForm K R := ⟨⟨op.operator, index⟩, name, form, ⟨frame, index + 1, rest⟩⟩
    have back (inner : Frame R) (v : ω) : ComesBack host resolver limit opened.around forms
        (.running ⟨inner, 0, form.content⟩ (opened :: forms) v) := entered_comesBack within inner _ v
    exact back _ _

/-- On a page with a scope, content is run in a frame of the scope in force; an operation comes to what
the resolver answers in that scope, whatever it says of others; and an operation that draws a form
comes back to the frame it was made in, unless a failure is raised. -/
theorem scopes_nested (host : Host K R ω) (resolver : Resolver K R) (limit : Nat) (page : R)
    (content : List Operation) (w : ω) :
    Reaches host resolver limit [] (start host resolver page content w)
      (.ended (process host resolver limit page content w).1 []
        (process host resolver limit page content w).2) ∧
    ∀ frame index rest forms v,
      Reaches host resolver limit [] (start host resolver page content w)
        (.running ⟨frame, index, rest⟩ forms v) →
      FrameOf host resolver (inForce page forms) frame ∧
      (∀ features op,
        (∀ other, resolver.SameIn (inForce page forms) other →
          plan resolver features frame op = plan other features frame op) ∧
        ∀ kind name, Asks K op kind name → features kind = true →
          Answered kind name (resolver.find (inForce page forms) kind name)
            (plan resolver features frame op)) ∧
      ∀ op later n, rest = op :: later → op.kind? = some .paintXObject → host.cancelled v = false →
        step host resolver limit (.running ⟨frame, index, rest⟩ forms v) = some n →
        ComesBack host resolver limit ⟨frame, index + 1, later⟩ forms n := by
  refine ⟨process_reached host resolver limit page content w, ?_⟩
  intro frame index rest forms v reaches
  have placed : FrameOf host resolver (inForce page forms) frame :=
    (reaches_inScope reaches (start_inScope content w)).1
  refine ⟨placed, fun features op => ⟨fun other same => ?_, fun kind name asks wanted => ?_⟩, ?_⟩
  · rw [← placed.is] at same
    exact plan_sameIn same
  · rw [← placed.is]
    exact plan_answered resolver asks wanted
  · rintro op later n rfl paints going taken
    exact paint_comesBack paints going taken

end

def selectS : Operation := ⟨"cs", [.name [83]]⟩

def ownScope : Form Float Bool := ⟨⟨1, 0, 0, 1, 0, 0⟩, none, [selectS], some true⟩

def inOwn : Resolver Float Bool :=
  { Resolver.none Float Bool with
    xobject := fun _ _ => .ok (some (.form ownScope))
    colorSpace := fun
      | true, "DefaultGray" | true, "S" => .ok (some .deviceGray)
      | _, _ => .ok none }

/-- In the form the name is looked up in the form's scope, and so is the default. -/
theorem scopes_nested_own :
    FrameOf (hearing (.silent Float Bool)) inOwn true ⟨true, some .deviceGray, none, none, 0⟩ ∧
      Answered .colorSpace "S" (.ok (some .deviceGray))
        (plan inOwn (fun _ => true) ⟨true, some .deviceGray, none, none, 0⟩ selectS) := by
  have inside := (scopes_nested (hearing (.silent Float Bool)) inOwn 1 false [drawF] ((), .empty)).2
    ⟨true, some .deviceGray, none, none, 0⟩ 0 [selectS]
    [⟨⟨"Do", 0⟩, "F", ownScope, ⟨⟨false, none, none, none, 0⟩, 1, []⟩⟩] ((), .empty)
    (.single ⟨rfl, List.nil_suffix⟩)
  have asks : Asks Float selectS .colorSpace "S" := .space (.inr rfl) rfl rfl
  exact ⟨inside.1, (inside.2.1 (fun _ => true) selectS).2 .colorSpace "S" asks rfl⟩

end PageMarks.Interpreter
