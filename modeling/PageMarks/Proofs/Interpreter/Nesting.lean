import Mathlib.Logic.Relation
import PageMarks.Proofs.Balance
import PageMarks.Proofs.Interpreter.Cancellation

/-!
Saves and restores that a run asks for. Content whose own saves and restores are balanced, and whose
forms' are, asks for a balanced sequence of them, whatever else it does.
-/

namespace PageMarks

def Operation.step (op : Operation) : Step :=
  match op.kind? with
  | some .save => .up
  | some .restore => .down
  | _ => .level

def Entry.asked {K R : Type} : Entry K R → Step
  | .call .save _ => .up
  | .call .restore _ => .down
  | _ => .level

/-- Anything but a save that is refused. -/
def Entry.unrefused {K R : Type} : Entry K R → Bool
  | .call .save answer => accepted answer
  | _ => true

namespace Interpreter

variable {K R : Type}

/-- The content of a form, in its scope, that content in a scope names. -/
inductive Invokes (resolver : Resolver K R) : R × List Operation → R × List Operation → Prop
  | form {scope content op name form} : op ∈ content → op.kind? = some .paintXObject →
    op.name 0 = .ok name → resolver.xobject scope name = .ok (some (.form form)) →
    Invokes resolver (scope, content) (form.scope.getD scope, form.content)

def FormsBalanced (resolver : Resolver K R) (scope : R) (content : List Operation) : Prop :=
  ∀ inner, Relation.TransGen (Invokes resolver) (scope, content) inner →
    Balanced Operation.step inner.2

def SavesAccepted (log : Log K R) : Prop := ∀ answer, .call .save answer ∈ log → accepted answer

theorem savesAccepted_iff (log : Log K R) : log.all Entry.unrefused = true ↔ SavesAccepted log := by
  rw [List.all_eq_true]
  refine ⟨fun all answer member => all _ member, fun saves entry member => ?_⟩
  cases entry with
  | call c answer =>
    cases c
    case save => exact saves answer member
    all_goals rfl
  | note | warning | offer => rfl

instance (log : Log K R) : Decidable (SavesAccepted log) :=
  decidable_of_iff _ (savesAccepted_iff log)

theorem savesAccepted_mono {log larger : Log K R} (within : log ⊆ larger)
    (accepted : SavesAccepted larger) : SavesAccepted log :=
  fun answer member => accepted answer (within member)

theorem formsBalanced_mono {resolver : Resolver K R} {scope : R} {content larger : List Operation}
    (within : content ⊆ larger) (balanced : FormsBalanced resolver scope larger) :
    FormsBalanced resolver scope content := by
  intro inner reached
  obtain ⟨next, invokes, rest⟩ := Relation.TransGen.head'_iff.mp reached
  cases invokes with
  | form member kind named found =>
    exact balanced inner (.head' (.form (within member) kind named found) rest)

theorem formsBalanced_form {resolver : Resolver K R} {scope : R} {op : Operation} {name : String}
    {form : Form K R} (kind : op.kind? = some .paintXObject) (named : op.name 0 = .ok name)
    (found : resolver.xobject scope name = .ok (some (.form form)))
    (balanced : FormsBalanced resolver scope [op]) :
    Balanced Operation.step form.content ∧
      FormsBalanced resolver (form.scope.getD scope) form.content := by
  have first : Invokes resolver (scope, [op]) (form.scope.getD scope, form.content) :=
    .form List.mem_cons_self kind named found
  exact ⟨balanced _ (.single first), fun inner reached => balanced inner (.head first reached)⟩

def Flat (log : Log K R) : Prop := ∀ entry ∈ log, entry.asked = .level

theorem flat_append {log later : Log K R} (first : Flat log) (second : Flat later) :
    Flat (log ++ later) :=
  fun entry member => (List.mem_append.mp member).elim (first entry) (second entry)

theorem flat_of_callbacks {log : Log K R}
    (others : ∀ c ∈ callbacks log, c ≠ .save ∧ c ≠ .restore) : Flat log := by
  intro entry member
  cases entry with
  | call c answer =>
    obtain ⟨saveless, restoreless⟩ := others c (List.mem_filterMap.mpr ⟨_, member, rfl⟩)
    cases c
    case save => exact absurd rfl saveless
    case restore => exact absurd rfl restoreless
    all_goals rfl
  | note | warning | offer => rfl

theorem hushed_flat {log : Log K R} (hushed : Hushed log) : Flat log :=
  flat_of_callbacks (by rw [hushed.1]; exact fun _ member => absurd member List.not_mem_nil)

theorem setUpCalls_others [Scalar K] (form : Form K R) :
    ∀ c ∈ setUpCalls form, c ≠ .save ∧ c ≠ .restore := by
  unfold setUpCalls clipToBox
  cases form.box <;> simp

theorem own_save {op : Operation} (own : Own op (.save : Callback K R)) :
    op.kind? = some .save := by
  unfold Own at own
  split at own
  · cases own
  · rename_i operator kind
    cases List.mem_singleton.mp own
    exact kind

theorem own_restore {op : Operation} (own : Own op (.restore : Callback K R)) :
    op.kind? = some .restore := by
  unfold Own at own
  split at own
  · cases own
  · rename_i operator kind
    cases List.mem_singleton.mp own
    exact kind

theorem own_others {op : Operation} {c : Callback K R} (own : Own op c) (level : op.step = .level) :
    c ≠ .save ∧ c ≠ .restore := by
  constructor <;> rintro rfl
  · simp [Operation.step, own_save own] at level
  · simp [Operation.step, own_restore own] at level

variable [Scalar K] {resolver : Resolver K R} {limit : Nat}

theorem step_up {op : Operation} (up : op.step = .up) : op.kind? = some .save := by
  unfold Operation.step at up
  split at up
  · assumption
  · cases up
  · cases up

theorem step_down {op : Operation} (down : op.step = .down) : op.kind? = some .restore := by
  unfold Operation.step at down
  split at down
  · cases down
  · assumption
  · cases down

theorem plan_save {features : Features} {frame : Frame R} {op : Operation}
    (kind : op.kind? = some .save) : plan resolver features frame op = .ok (calls frame [.save]) := by
  unfold plan
  rw [kind]
  rfl

theorem plan_restore {features : Features} {frame : Frame R} {op : Operation}
    (kind : op.kind? = some .restore) :
    plan resolver features frame op = .ok (calls frame [.restore]) := by
  unfold plan
  rw [kind]
  rfl

omit [Scalar K] in
theorem performed_one {c : Callback K R} {answer : Outcome} {log : Log K R}
    (performed : Performed [c] answer log) : log = [.call c answer] := by
  cases performed with
  | next rest => cases rest; rfl
  | broken => rfl

theorem one_call {depth : Nat} {frame : Frame R} {site : Site} {op : Operation}
    {answer : Except Failure Unit} {sections : Nat} {log : Log K R} {c : Callback K R}
    (transcript : Transcript resolver limit (.operation depth frame site op answer sections) log)
    (planned : ∀ features, plan resolver features frame op = .ok (calls frame [c])) :
    ∃ given heard, log = .call c given :: heard ∧ Hushed heard := by
  cases transcript with
  | refused failed => rw [planned] at failed; cases failed
  | broken found performed settled =>
    rw [planned] at found
    cases found
    rw [performed_one performed]
    exact ⟨_, _, rfl, settled_hushed settled⟩
  | performed found performed _ settled =>
    rw [planned] at found
    cases found
    rw [performed_one performed]
    exact ⟨_, _, rfl, settled_hushed settled⟩
  | invoked found _ sequel =>
    rw [planned] at found
    cases found
    cases sequel

theorem operation_height {depth : Nat} {frame : Frame R} {site : Site} {op : Operation}
    {answer : Except Failure Unit} {sections : Nat} {log : Log K R}
    (transcript : Transcript resolver limit (.operation depth frame site op answer sections) log)
    {n m : Nat} (level : op.step = .level → height Entry.asked n log = some n)
    (reached : height Operation.step n [op] = some m) : height Entry.asked n log = some m := by
  cases turn : op.step with
  | level =>
    rw [height_level turn] at reached
    cases reached
    exact level turn
  | up =>
    obtain ⟨given, heard, rfl, hushed⟩ :=
      one_call transcript fun _ => plan_save (step_up turn)
    rw [height_up turn] at reached
    cases reached
    rw [height_up rfl]
    exact height_flat (hushed_flat hushed) (n + 1)
  | down =>
    obtain ⟨given, heard, rfl, hushed⟩ :=
      one_call transcript fun _ => plan_restore (step_down turn)
    cases n with
    | zero => rw [height_down_zero turn] at reached; cases reached
    | succ n =>
      rw [height_down turn] at reached
      cases reached
      rw [height_down rfl]
      exact height_flat (hushed_flat hushed) _

theorem own_flat {features : Features} {frame : Frame R} {site : Site} {sections : Nat}
    {op : Operation} {p : Plan K R} {given outcome : Outcome} {answer : Except Failure Unit}
    {own heard : Log K R} (planned : plan resolver features frame op = .ok p)
    (performed : Performed p.calls given own) (settled : Settled site sections outcome answer heard)
    (level : op.step = .level) : Flat (own ++ heard) := by
  have own := own_of_initial planned (performed_callbacks performed)
  exact flat_append (flat_of_callbacks fun c member => own_others (own c member) level)
    (hushed_flat (settled_hushed settled))

/-- Content that is performed to its end asks for saves and restores as it says itself, and a form
that is not left by a failure takes back what it asked for. -/
def Part.Nested (resolver : Resolver K R) : Part K R → Log K R → Prop
  | .content _ frame _ ops ending, log =>
    ending = .ok .finished → ¬Skipped log → SavesAccepted log →
      FormsBalanced resolver frame.scope ops →
        ∀ n m, height Operation.step n ops = some m → height Entry.asked n log = some m
  | .operation _ frame _ op answer _, log =>
    answer = .ok () → ¬Skipped log → SavesAccepted log →
      FormsBalanced resolver frame.scope [op] →
        ∀ n m, height Operation.step n [op] = some m → height Entry.asked n log = some m
  | .form _ _ _ inner scope outcome, log =>
    (∀ failure, outcome ≠ .error (.abort failure)) → ¬Skipped log → SavesAccepted log →
      Balanced Operation.step inner.content →
        FormsBalanced resolver (inner.scope.getD scope) inner.content →
          ∀ n, height Entry.asked n log = some n

omit [Scalar K] in
theorem bracket_height {name : String} {depth : Nat} {saved restored : Outcome} {inside : Log K R}
    {n : Nat} (level : height Entry.asked (n + 1) inside = some (n + 1)) :
    height Entry.asked n (bracket name depth saved restored inside) = some n := by
  rw [bracket, List.cons_append, height_level rfl, List.cons_append, height_up rfl, height_append,
    level]
  rfl

theorem body_height {site : Site} (saved : Outcome) {form : Form K R} {scope : R} {frame : Frame R}
    {ready opening inside : Log K R} {n m : Nat} (prepared : Prepared site form (.ok ()) ready)
    (opened : Opened resolver scope frame opening) (reached : height Entry.asked n inside = some m) :
    height Entry.asked n ((tolerated site saved).2 ++ ready ++ opening ++ inside) = some m := by
  obtain ⟨-, -, all⟩ := prepared_callbacks prepared
  have ready := flat_of_callbacks fun c member => setUpCalls_others form c (all rfl ▸ member)
  have before := flat_append (flat_append (hushed_flat (tolerated_hushed site saved)) ready)
    (hushed_flat (opened_hushed opened))
  rw [height_append, height_flat before, Option.bind_some, reached]

theorem unready_height {site : Site} {saved : Outcome} {form : Form K R} {signal : Signal}
    {ready : Log K R} (prepared : Prepared site form (.error signal) ready) (n : Nat) :
    height Entry.asked n ((tolerated site saved).2 ++ ready) = some n := by
  obtain ⟨-, initial, -⟩ := prepared_callbacks prepared
  have ready := flat_of_callbacks fun c member => setUpCalls_others _ c (initial.subset member)
  exact height_flat (flat_append (hushed_flat (tolerated_hushed site saved)) ready) n

theorem content_finished {depth index : Nat} {frame : Frame R} {content : List Operation}
    {ending : Ending} {log : Log K R}
    (transcript : Transcript resolver limit (.content depth frame index content ending) log)
    (unskipped : ¬Skipped log) (unraised : ∀ failure, ending ≠ .error failure) :
    ending = .ok .finished := by
  rcases ending with failure | _ | _
  · exact absurd rfl (unraised failure)
  · rfl
  · obtain ⟨index, last⟩ := (part_toldApart transcript).mpr rfl
    have skipped : Skipped log :=
      ⟨index, List.mem_filterMap.mpr ⟨_, List.mem_of_getLast? last, rfl⟩⟩
    exact absurd skipped unskipped

theorem part_nested {part : Part K R} {log : Log K R}
    (transcript : Transcript resolver limit part log) : part.Nested resolver log := by
  induction transcript with
  | finished => exact fun _ _ _ _ n m reached => reached
  | stopped | raised => exact nofun
  | @next _ _ index op rest _ _ own later _ _ operation content =>
    intro ended unskipped accepted balanced n m reached
    have ownWithin : own ⊆ .note (.dispatch op.operator index) :: (own ++ later) :=
      fun entry member => by simp [member]
    have laterWithin : later ⊆ .note (.dispatch op.operator index) :: (own ++ later) :=
      fun entry member => by simp [member]
    rw [← List.singleton_append, height_append] at reached
    obtain ⟨k, between, reached⟩ := Option.bind_eq_some_iff.mp reached
    have first := operation rfl (mt (skipped_mono ownWithin) unskipped)
      (savesAccepted_mono ownWithin accepted) (formsBalanced_mono (by simp) balanced) n k between
    rw [height_level rfl, height_append, first]
    exact content ended (mt (skipped_mono laterWithin) unskipped)
      (savesAccepted_mono laterWithin accepted)
      (formsBalanced_mono (List.subset_cons_self op rest) balanced) k m reached
  | @refused depth _ _ _ _ _ _ _ planned settled =>
    intro _ _ _ _ n m reached
    have transcript : Transcript resolver limit (.operation depth ..) _ := .refused planned settled
    exact operation_height transcript
      (fun _ => height_flat (hushed_flat (settled_hushed settled)) n) reached
  | @broken depth _ _ _ _ _ _ _ _ _ planned performed settled =>
    intro _ _ _ _ n m reached
    have transcript : Transcript resolver limit (.operation depth ..) _ :=
      .broken planned performed settled
    exact operation_height transcript
      (fun level => height_flat (own_flat planned performed settled level) n) reached
  | @performed depth _ _ _ _ _ _ _ _ _ planned performed sequel settled =>
    intro _ _ _ _ n m reached
    have transcript : Transcript resolver limit (.operation depth ..) _ :=
      .performed planned performed sequel settled
    exact operation_height transcript
      (fun level => height_flat (own_flat planned performed settled level) n) reached
  | @invoked depth _ _ _ _ _ _ _ outcome _ own inside heard planned performed sequel form settled ih =>
    intro answered unskipped accepted balanced n m reached
    have transcript : Transcript resolver limit (.operation depth ..) _ :=
      .invoked planned performed sequel form settled
    have enters := plan_enters _ _ _ _ _ planned _ _ sequel
    obtain ⟨contents, forms⟩ := formsBalanced_form enters.kind enters.named enters.found balanced
    have unaborted : ∀ failure, outcome ≠ .error (.abort failure) := by
      rintro failure rfl
      cases settled
      cases answered
    have within : inside ⊆ own ++ inside ++ heard := fun entry member => by simp [member]
    have unchanged := ih unaborted (mt (skipped_mono within) unskipped)
      (savesAccepted_mono within accepted) contents forms n
    refine operation_height transcript (fun level => ?_) reached
    have before : Flat own := flat_of_callbacks fun c member =>
      own_others (own_of_initial planned (performed_callbacks performed) c member) level
    rw [height_append, height_append, height_flat before, Option.bind_some, unchanged,
      Option.bind_some]
    exact height_flat (hushed_flat (settled_hushed settled)) n
  | tooDeep => exact fun _ _ _ _ _ n => rfl
  | @shut _ site _ _ _ saved _ below refused =>
    intro _ _ allowed _ _ n
    have entered := (accepted_iff (K := K) (R := R) site saved).mp (allowed saved (by simp))
    rw [refused] at entered
    cases entered
  | @unready _ site _ _ _ saved _ _ _ below entered prepared =>
    intro _ _ _ _ _ n
    exact bracket_height (unready_height prepared (n + 1))
  | @form depth site name form _ _ ending saved restored ready opening inside below entered prepared
      opened content ih =>
    intro unaborted unskipped accepted balanced forms n
    have within : inside ⊆ bracket name (depth + 1) saved restored
        ((tolerated site saved).2 ++ ready ++ opening ++ inside) ++
          (formOutcome site ending.outcome restored).2 :=
      fun entry member => by simp [bracket, member]
    have ended := content_finished content (mt (skipped_mono within) unskipped)
      (by rintro failure rfl; exact unaborted failure rfl)
    have balancedInside := ih ended (mt (skipped_mono within) unskipped)
      (savesAccepted_mono within accepted) ((opened_scope opened).symm ▸ forms) (n + 1) (n + 1)
      (balanced.height (n + 1))
    have level := body_height saved prepared opened balancedInside
    rw [height_append, bracket_height level, Option.bind_some]
    exact height_flat (hushed_flat (formOutcome_hushed site ending.outcome restored)) n

end Interpreter
end PageMarks
