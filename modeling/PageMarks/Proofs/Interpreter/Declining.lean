import PageMarks.Proofs.Interpreter.Scoping

/-!
Kinds of resources that a device declines. A scope is a name, and a resolver says what it stands for:
two resolvers that say the same of the kinds that are wanted, in every scope that forms lead to, may
differ in all else. The main statement is that content is then run to the same end with the same log.
-/

namespace PageMarks.Interpreter

section

variable {K R ω : Type} [Scalar K]

/-- Resolvers that say the same of the kinds that are wanted, in scopes that forms do not lead out
of. -/
structure Agree (wanted : Features) (first second : Resolver K R) (scopes : R → Prop) : Prop where
  same : ∀ scope, scopes scope → ∀ kind, wanted kind = true →
    first.find scope kind = second.find scope kind
  own : wanted .xobject = true → ∀ scope, scopes scope → ∀ name form own,
    first.xobject scope name = .ok (some (.form form)) → form.scope = some own → scopes own

theorem entered_wanted {resolver : Resolver K R} {features : Features} {frame : Frame R}
    {op : Operation} {p : Plan K R} {name : String} {form : Form K R}
    (planned : plan resolver features frame op = .ok p) (enters : p.sequel = .enter name form) :
    features .xobject = true := by
  cases declined : features .xobject with
  | true => rfl
  | false =>
    -- Nothing is different with a resolver that knows no external objects.
    let without : Resolver K R := { resolver with xobject := fun _ _ => .ok none }
    have same : plan resolver features frame op = plan without features frame op := by
      apply plan_agreeing
      intro kind wanted
      cases kind with
      | xobject =>
        rw [declined] at wanted
        cases wanted
      | _ => rfl
    rw [same] at planned
    have found := (plan_enters without features frame op p planned name form enters).found
    cases found

variable {host : Host K R ω} {wanted : Features} {first second : Resolver K R} {scopes : R → Prop}
  (steady : ∀ w, host.features w = wanted) (agree : Agree wanted first second scopes)
include steady agree

omit [Scalar K] in
theorem openFrame_agree {scope : R} (within : scopes scope) (w : ω) :
    openFrame host first scope w = openFrame host second scope w := by
  unfold openFrame
  rw [steady]
  cases spaces : wanted .colorSpace with
  | false => rfl
  | true =>
    have same : first.colorSpace scope = second.colorSpace scope :=
      agree.same scope within .colorSpace spaces
    simp only [defaultSpace, same]

def FormsAgree (wanted : Features) (first : Resolver K R) (scopes : R → Prop)
    (forms others : FormRunner K R ω) : Prop :=
  wanted .xobject = true → ∀ scope, scopes scope → ∀ found form,
    first.xobject scope found = .ok (some (.form form)) →
    ∀ site name w, forms site name form scope w = others site name form scope w

variable {forms others : FormRunner K R ω} (formsAgree : FormsAgree wanted first scopes forms others)
include formsAgree

theorem operate_agree {frame : Frame R} (within : scopes frame.scope) (site : Site) (op : Operation)
    (w : ω) :
    operate host first forms frame site op w = operate host second others frame site op w := by
  have same : plan first wanted frame op = plan second wanted frame op :=
    plan_agreeing (agree.same frame.scope within)
  unfold operate
  rw [steady, ← same]
  cases planned : plan first wanted frame op with
  | error signal => rfl
  | ok p =>
    have followed (v : ω) : follow forms site frame.scope p.sequel v =
        follow others site frame.scope p.sequel v := by
      cases sequel : p.sequel with
      | nothing | report => rfl
      | enter name form =>
        have found := (plan_enters first wanted frame op p planned name form sequel).found
        exact formsAgree (entered_wanted planned sequel) frame.scope within _ form found site name v
    simp only [carryOut, followed]

theorem execute_agree (content : List Operation) {frame : Frame R} (within : scopes frame.scope)
    (index : Nat) (w : ω) :
    execute host first forms frame index content w =
      execute host second others frame index content w := by
  induction content generalizing frame index w with
  | nil => rfl
  | cons op rest ih =>
    have rest (sections index : Nat) (w : ω) :
        execute host first forms { frame with sections } index rest w =
          execute host second others { frame with sections } index rest w :=
      @ih { frame with sections } within index w
    simp only [execute, operate_agree steady agree formsAgree within, rest]

omit formsAgree

theorem run_agree {limit room : Nat}
    (formsAgree : FormsAgree wanted first scopes (formRunner host first limit room)
      (formRunner host second limit room))
    {scope : R} (within : scopes scope) (content : List Operation) (w : ω) :
    run host first limit room scope content w = run host second limit room scope content w := by
  have opened : scopes (openFrame host first scope w).1.scope := by
    rw [(openFrame_of scope w).is]
    exact within
  rw [run_eq, run_eq, ← openFrame_agree steady agree within w]
  exact execute_agree steady agree formsAgree content opened 0 _

theorem formRunner_agree (limit room : Nat) :
    FormsAgree wanted first scopes (formRunner host first limit room)
      (formRunner host second limit room) := by
  induction room with
  | zero => exact fun _ _ _ _ _ _ _ _ _ => rfl
  | succ room ih =>
    intro objects scope within name form found site _ w
    have inner : scopes (form.scope.getD scope) := by
      cases brings : form.scope with
      | none => exact within
      | some own => exact agree.own objects scope within name form own found brings
    simp only [formRunner, runForm, runBody, run_agree steady agree ih inner]

/-- What resolvers say of kinds that the device declines makes no difference: content runs to the same
end, with the same callbacks and answers, warnings and offers. -/
theorem declined_unread (limit : Nat) {scope : R} (within : scopes scope) (content : List Operation)
    (w : ω) :
    process host first limit scope content w = process host second limit scope content w ∧
      history host first limit scope content w = history host second limit scope content w := by
  have logged : ∀ w, host.logged.features w = wanted := fun w => steady w.1
  have same := run_agree logged agree (formRunner_agree logged agree limit limit) within content (w, [])
  exact ⟨run_agree steady agree (formRunner_agree steady agree limit limit) within content w,
    congrArg (fun result => result.2.2) same⟩

end

def setA : Operation := ⟨"Tf", [.name [65], .integer 12]⟩

def inA : Form Float Bool := ⟨⟨1, 0, 0, 1, 0, 0⟩, none, [setA], some true⟩

/-- Every form brings the second of two scopes, and there alone the font is asked for. -/
def fontless (font : Lookup (Font Float)) : Resolver Float Bool :=
  { Resolver.none Float Bool with
    xobject := fun _ _ => .ok (some (.form inA))
    font := fun scope _ => if scope then font else .ok none }

def withoutFonts : Features := fun kind => kind != .font

def declining : Device Float Bool Unit :=
  { Device.silent Float Bool with features := fun _ => withoutFonts }

/-- A lookup that would fail is as good as one that would find nothing. -/
theorem declined_unread_font :
    (fontless (.error .outsideDocument)).find true .font "A" ≠
        (fontless (.ok none)).find true .font "A" ∧
      Agree withoutFonts (fontless (.error .outsideDocument)) (fontless (.ok none))
        (fun _ => True) ∧
      history (hearing declining) (fontless (.error .outsideDocument)) 1 false [drawF] ((), .empty) =
        history (hearing declining) (fontless (.ok none)) 1 false [drawF] ((), .empty) := by
  have agree : Agree withoutFonts (fontless (.error .outsideDocument)) (fontless (.ok none))
      (fun _ => True) := by
    refine ⟨fun scope _ kind wanted => ?_, fun _ _ _ _ _ _ _ _ => trivial⟩
    cases kind with
    | font => cases wanted
    | _ => rfl
  have steady : ∀ w, (hearing declining).features w = withoutFonts := fun _ => rfl
  exact ⟨nofun, agree, (declined_unread steady agree 1 trivial [drawF] ((), .empty)).2⟩

end PageMarks.Interpreter
