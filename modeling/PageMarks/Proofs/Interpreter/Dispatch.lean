import PageMarks.Proofs.Interpreter.Depth
import PageMarks.Proofs.Interpreter.Signature

/-!
One operation, all or nothing. Whatever keeps an operation from its callbacks is found out before
the first of them, and then the device hears of none and the stack of frames is as it was. Otherwise
the callbacks of the operation are made in their order, up to the first that does not go well; there
is one, unless the operator is among a few.
-/

namespace PageMarks.Interpreter

variable {K R ω : Type}

/-- The operators that do not always have one callback, or have it even if a name is missing. -/
def irregular : List Operator :=
  [.inlineImageData, .endInlineImage, .nextLineShowText, .spacedNextLineShowText, .setFont]

variable [Scalar K]

section

variable (resolver : Resolver K R) (features : Features) (frame : Frame R) (op : Operation)

/-- The callbacks of an operation that nothing keeps from them, in order. -/
inductive Series : List (Callback K R) → Prop
  | data : op.kind? = some .inlineImageData ∨ op.kind? = some .endInlineImage → Series []
  | nextLine {bytes} : op.kind? = some .nextLineShowText → op.string 0 = .ok bytes →
    Series [.nextLine, .showText bytes]
  | spaced {word char bytes} : op.kind? = some .spacedNextLineShowText → op.number 0 = .ok word →
    op.number 1 = .ok char → op.string 2 = .ok bytes →
    Series [.wordSpacing word, .charSpacing char, .nextLine, .showText bytes]
  | font {name size slot} : op.kind? = some .setFont → op.name 0 = .ok name →
    op.number 1 = .ok size → (features .font = true → resolver.font frame.scope name = .ok slot) →
    (features .font = false → slot = none) → Series [.font name slot size]
  | one {c} : (∀ operator, op.kind? = some operator → operator ∉ irregular) → Own op c →
    Series [c]

variable {op} in
theorem two_numbers {α : Type} {f : K → K → α} {a : α} (read : op.two Object.number? f = .ok a) :
    ∃ x y, op.number 0 = .ok x ∧ op.number 1 = .ok y ∧ a = f x y := by
  obtain ⟨operator, _ | ⟨first, _ | ⟨second, rest⟩⟩⟩ := op
  · cases read
  · cases read
  · simp only [Operation.number, Operation.operand, Operation.two, Operation.leading?] at read ⊢
    cases x : (first.number? : Option K) with
    | none => simp [x, Operation.require, Operation.malformed] at read
    | some x' =>
      cases y : (second.number? : Option K) with
      | none => simp [x, y, Operation.require, Operation.malformed] at read
      | some y' =>
        simp only [List.length_cons, Nat.le_add_left, if_true, List.take_succ_cons, List.take_zero,
          List.mapM_cons, List.mapM_nil, x, y] at read
        cases read
        exact ⟨x', y', by simp [x, Operation.require], by simp [y, Operation.require], rfl⟩

theorem plan_series :
    Yields (fun p : Plan K R => Series resolver features frame op p.calls)
      (plan resolver features frame op) := by
  have owns : Yields (fun p : Plan K R => ∀ c ∈ p.calls, Own op c)
    (plan resolver features frame op) := plan_own resolver features frame op
  suffices each : Yields (fun p : Plan K R => (∀ c ∈ p.calls, Own op c) →
      Series resolver features frame op p.calls) (plan resolver features frame op) from
    fun p planned => each p planned (owns p planned)
  unfold plan
  split <;> rename_i is
  case h_1 =>
    have none (operator : Operator) (same : op.kind? = some operator) : operator ∉ irregular :=
      nomatch is.symm.trans same
    exact yields_ok fun own => .one none (own _ (List.mem_singleton_self _))
  case h_2 =>
    refine yields_bind_of fun name named => yields_bind_of fun size sized => ?_
    have searched := search_searched features .font name (resolver.font frame.scope)
    generalize answer : resolver.font frame.scope name = found at searched
    generalize search features .font name (resolver.font frame.scope) = outcome at searched ⊢
    cases searched with
    | failed => exact yields_error _
    | declined unwanted =>
      exact yields_ok fun _ => .font is named sized (by simp [unwanted]) fun _ => rfl
    | missing wanted | present wanted =>
      exact yields_ok fun _ => .font is named sized (fun _ => answer) (by simp [wanted])
  case h_3 => exact yields_bind_of fun bytes spelled => yields_ok fun _ => .nextLine is spelled
  case h_4 =>
    refine yields_bind_of fun spacing read => yields_bind_of fun bytes spelled => ?_
    obtain ⟨word, char, first, second, rfl⟩ := two_numbers read
    exact yields_ok fun _ => .spaced is first second spelled
  case h_5 => exact yields_ok fun _ => .data (.inl is)
  case h_6 => exact yields_ok fun _ => .data (.inr is)
  -- the operators that are left have one callback, which is their own
  all_goals
    have regular : ∀ operator, op.kind? = some operator → operator ∉ irregular := by
      intro operator same
      cases is.symm.trans same
      simp only [irregular, List.mem_cons, List.not_mem_nil, or_false, not_or]
      and_intros <;> first | assumption | nofun
  case h_7 =>
    refine yields_bind fun name => yields_bind fun found => ?_
    split <;> exact yields_ok fun own => .one regular (own _ (List.mem_singleton_self _))
  case h_8 => exact yields_ok fun own => .one regular (own _ (List.mem_singleton_self _))
  case h_9 =>
    unfold endCompatibility
    split
    · exact yields_error _
    · exact yields_ok fun own => .one regular (own _ (List.mem_singleton_self _))
  case h_10 =>
    exact yields_bind fun c => yields_ok fun own => .one regular (own _ (List.mem_singleton_self _))

variable {resolver features frame op}

theorem plan_reports : Yields (fun p : Plan K R => ∀ warning, p.sequel = .report warning →
    op.kind? = some .setFont) (plan resolver features frame op) := by
  unfold plan
  split <;> rename_i is
  case h_2 => exact yields_bind fun _ => yields_bind fun _ => yields_bind fun _ p _ _ _ => is
  case h_3 => exact yields_bind fun _ => yields_ok (by rintro _ ⟨⟩)
  case h_4 => exact yields_bind fun _ => yields_bind fun _ => yields_ok (by rintro _ ⟨⟩)
  case h_7 =>
    refine yields_bind fun _ => yields_bind fun _ => ?_
    split <;> exact yields_ok (by rintro _ ⟨⟩)
  case h_9 =>
    unfold endCompatibility
    split
    · exact yields_error _
    · exact yields_ok (by rintro _ ⟨⟩)
  case h_10 => exact yields_bind fun _ => yields_ok (by rintro _ ⟨⟩)
  all_goals exact yields_ok (by rintro _ ⟨⟩)

theorem asks_font {kind : ResourceKind} {name : String} (asks : Asks K op kind name)
    (other : kind ≠ .font) : op.kind? ≠ some .setFont := by
  intro is
  cases asks with
  | font => exact other rfl
  | space kind | pattern kind | properties kind =>
    rcases kind with kind | kind <;> cases is.symm.trans kind
  | inlineSpace kind | shading kind | parameters kind | xobject kind => cases is.symm.trans kind

theorem hindered_plan {signal : Signal} (hindered : Hindered K resolver features frame op signal) :
    plan resolver features frame op = .error signal := by
  cases hindered with
  | @missing kind name asks wanted other answer =>
    have answered : Answered kind name (resolver.find frame.scope kind name)
      (plan resolver features frame op) := plan_answered resolver asks wanted
    rw [answer] at answered
    generalize planned : plan resolver features frame op = outcome at answered
    cases answered with
    | missing => rfl
    | missingAfter reports => exact absurd (plan_reports _ planned _ reports) (asks_font asks other)
  | @failed kind name _ asks wanted answer =>
    have answered : Answered kind name (resolver.find frame.scope kind name)
      (plan resolver features frame op) := plan_answered resolver asks wanted
    rw [answer] at answered
    generalize plan resolver features frame op = outcome at answered ⊢
    cases answered
    rfl
  | unbalanced is none =>
    rw [plan, is]
    simp only [endCompatibility, none]

theorem entering {p : Plan K R} (planned : plan resolver features frame op = .ok p) {name : String}
    {form : Form K R} (enters : p.sequel = .enter name form) :
    DrawsForm resolver features frame.scope op name form := by
  have found := plan_enters resolver features frame op p planned name form enters
  refine ⟨found.kind, found.named, ?_, found.found⟩
  cases wanted : features .xobject with
  | true => rfl
  | false =>
    -- a kind that is declined leaves nothing to go into
    simp only [plan, found.kind, paintXObject, found.named, resource, search, wanted] at planned
    cases planned
    cases enters

end

variable (host : Host K R ω) (resolver : Resolver K R) (limit : Nat) (frame : Frame R) (index : Nat)
  (op : Operation) (rest : List Operation) (forms : List (OpenForm K R)) (w : ω) (log : Log K R)

/-- The callbacks of an operation are made and nothing after them, or its form is gone into. -/
inductive Made : Machine K R (ω × Log K R) → Prop
  | performed {calls outcome own answer v heard} :
    Series resolver (host.features w) frame op calls → Performed calls outcome own →
    (∀ name form, DrawsForm resolver (host.features w) frame.scope op name form →
      outcome ≠ .ok ()) →
    callbacks heard = [] →
    Made (goOn ⟨{ frame with sections := sectionsAfter frame.sections op }, index + 1, rest⟩ forms
      (answer, v, log ++ own ++ heard))
  | entered {name form v} : DrawsForm resolver (host.features w) frame.scope op name form →
    Made (enter host.logged resolver limit ⟨op.operator, index⟩ name form ⟨frame, index + 1, rest⟩
      forms (v, log ++ [.call (.drawXObject name (some (.form form))) (.ok ())]))

structure AllOrNothing (taken : Machine K R (ω × Log K R)) : Prop where
  rejected : ¬ Accepted K op → ∃ warning : Warning, warning.code = .malformedOperands ∧
    taken = .running ⟨frame, index + 1, rest⟩ forms (host.warn warning w, log ++ [.warning warning])
  hindered : ∀ signal, Hindered K resolver (host.features w) frame op signal →
    ∃ answer v heard, Settled ⟨op.operator, index⟩ frame.sections (.error signal) answer heard ∧
      callbacks heard = [] ∧
      taken = goOn ⟨frame, index + 1, rest⟩ forms (answer, v, log ++ heard)
  made : Accepted K op → (∀ signal, ¬ Hindered K resolver (host.features w) frame op signal) →
    Made host resolver limit frame index op rest forms w log taken

omit [Scalar K] in
theorem settled_quiet {site : Site} {sections : Nat} {outcome : Outcome}
    {answer : Except Failure Unit} {heard : Log K R}
    (settled : Settled site sections outcome answer heard) : callbacks heard = [] := by
  cases settled <;> rfl

theorem takeUp_made {p : Plan K R} (planned : plan resolver (host.features w) frame op = .ok p) :
    Made host resolver limit frame index op rest forms w log
      (takeUp host.logged resolver limit frame index op rest forms (w, log)) := by
  have series := plan_series resolver (host.features w) frame op p planned
  have sections := plan_sections p planned
  obtain ⟨called, v, own, ran, performed⟩ := perform_logged host p.calls (w, log)
  have same : plan resolver (host.logged.features (w, log)) frame op = .ok p := planned
  have goesOn (outcome : Outcome) (undrawn : ∀ name form,
      DrawsForm resolver (host.features w) frame.scope op name form → called ≠ .ok ()) :
      Made host resolver limit frame index op rest forms w log
        (goOn ⟨{ frame with sections := sectionsAfter frame.sections op }, index + 1, rest⟩ forms
          (settle host.logged ⟨op.operator, index⟩ (sectionsAfter frame.sections op)
            (outcome, (v, log ++ own)))) := by
    obtain ⟨answer, u, heard, settles, settled⟩ := settle_logged host ⟨op.operator, index⟩
      (sectionsAfter frame.sections op) outcome (v, log ++ own)
    rw [settles]
    exact .performed series performed undrawn (settled_quiet settled)
  have drawn {name : String} {form : Form K R}
      (draws : DrawsForm resolver (host.features w) frame.scope op name form) :
      p.sequel = .enter name form := by
    cases planned.symm.trans (plan_form draws)
    rfl
  simp only [takeUp, same, ran, sections]
  rcases called with signal | ⟨⟨⟩⟩
  · exact goesOn _ fun _ _ _ done => by cases done
  · dsimp only
    rcases sequel : p.sequel with _ | warning | ⟨name, form⟩
    · exact goesOn _ fun name form draws => by cases sequel.symm.trans (drawn draws)
    · exact goesOn _ fun name form draws => by cases sequel.symm.trans (drawn draws)
    · have draws := entering planned sequel
      have enters := plan_enters resolver (host.features w) frame op p planned name form sequel
      have made : own = [.call (.drawXObject name (some (.form form))) (.ok ())] := by
        rw [enters.calls] at performed
        cases performed with
        | next last => cases last; rfl
      rw [made, ← sections, enters.sections]
      exact .entered draws

/-- An operation whose operands are rejected, or that is kept from its callbacks by a name or by a
section that is not open, leaves the device alone and the stack as it was. Any other makes its
callbacks, up to the first that does not go well, and goes into the form that it draws. -/
theorem takeUp_allOrNothing : AllOrNothing host resolver limit frame index op rest forms w log
    (takeUp host.logged resolver limit frame index op rest forms (w, log)) where
  rejected rejected := by
    obtain ⟨warning, refused, code⟩ :=
      (plan_checked resolver (host.logged.features (w, log)) frame).refuses rejected
    refine ⟨warning.attach op.operator index, (attach_code ..).trans code, ?_⟩
    rw [takeUp, refused]
    rfl
  hindered signal hindered := by
    have refused : plan resolver (host.logged.features (w, log)) frame op = .error signal :=
      hindered_plan hindered
    obtain ⟨answer, v, heard, settles, settled⟩ := settle_logged host ⟨op.operator, index⟩
      frame.sections (.error signal) (w, log)
    refine ⟨answer, v, heard, settled, settled_quiet settled, ?_⟩
    simp only [takeUp, refused, settles]
  made accepted unhindered := by
    have checked : Checked (Accepted K op) (Hindered K resolver (host.features w) frame op)
      (plan resolver (host.features w) frame op) := plan_checked resolver (host.features w) frame
    generalize planned : plan resolver (host.features w) frame op = outcome at checked
    cases checked with
    | ok => exact takeUp_made host resolver limit frame index op rest forms w log planned
    | malformed unfit => exact absurd accepted unfit
    | later _ hindered => exact absurd hindered (unhindered _)

end PageMarks.Interpreter
