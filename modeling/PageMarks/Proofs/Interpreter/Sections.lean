import PageMarks.Proofs.Interpreter.Dispatch
import PageMarks.Proofs.Interpreter.Reuse

/-!
Compatibility sections. Each content counts the sections that it has open, from none at its beginning;
so does the content of a form, and when the form is left the count is what it was. The count after an
operation decides whether it is told that the device does not support it, and an end that finds no
section open is told without a callback. The main statement is that all warnings of a run come about
in this way, save those about default spaces and those that the device answers with.
-/

namespace PageMarks.Interpreter

variable {K R ω : Type}

def warnings (log : Log K R) : List Warning :=
  log.filterMap fun
    | .warning warning => some warning
    | _ => none

theorem warnings_append (log later : Log K R) :
    warnings (log ++ later) = warnings log ++ warnings later := List.filterMap_append

/-- An operation that has been performed, with the sections that were open before it and the outcome
that it came to. -/
structure Act where
  site : Site
  op : Operation
  before : Nat
  outcome : Outcome

namespace Act

def Unmatched (act : Act) : Prop := act.op.kind? = some .endCompatibility ∧ act.before = 0

instance (act : Act) : Decidable act.Unmatched := inferInstanceAs (Decidable (_ ∧ _))

def after (act : Act) : Nat := sectionsAfter act.before act.op

def told (act : Act) : List Warning :=
  match act.outcome with
  | .error .unsupported => if act.after = 0 then [unsupported act.site] else []
  | .error (.warning warning) => [warning.attach act.site.operator act.site.index]
  | _ => []

end Act

/-- What may be told in a run. -/
inductive Event
  | act (done : Act)
  /-- Warnings about default spaces, or about callbacks that the interpreter makes on its own account. -/
  | aside (warnings : List Warning)

namespace Event

def told : Event → List Warning
  | .act done => done.told
  | .aside warnings => warnings

def unsupported : Event → List Warning
  | .act ⟨site, op, before, .error .unsupported⟩ =>
    if sectionsAfter before op = 0 then [Interpreter.unsupported site] else []
  | _ => []

end Event

def unmatchedEnd : Warning := .plain .unbalancedCompatibility "'EX' without a matching 'BX'"

def Event.unmatched : Event → List Warning
  | .act done =>
    if done.Unmatched then [unmatchedEnd.attach done.site.operator done.site.index] else []
  | .aside _ => []

variable [Scalar K]

/-- Parts of a run with the operations performed in them. The count goes from one operation to the next
by what these are, whatever has happened in forms; the content of a form begins with none. -/
inductive Tallied (resolver : Resolver K R) (limit : Nat) : Part K R → List Event → Log K R → Prop
  | finished {depth frame index} :
    Tallied resolver limit (.content depth frame index [] (.ok .finished)) [] []
  | stopped {depth frame index op rest} :
    Tallied resolver limit (.content depth frame index (op :: rest) (.ok .cancelled)) []
      [.note (.stop index)]
  | raised {depth frame index op rest failure sections events log} :
    Tallied resolver limit
      (.operation depth frame ⟨op.operator, index⟩ op (.error failure) sections) events log →
    Tallied resolver limit (.content depth frame index (op :: rest) (.error failure)) events
      (.note (.dispatch op.operator index) :: log)
  | next {depth frame index op rest sections ending events log more later} :
    Tallied resolver limit
      (.operation depth frame ⟨op.operator, index⟩ op (.ok ()) sections) events log →
    Tallied resolver limit
      (.content depth { frame with sections := sectionsAfter frame.sections op } (index + 1) rest
        ending) more later →
    Tallied resolver limit (.content depth frame index (op :: rest) ending) (events ++ more)
      (.note (.dispatch op.operator index) :: (log ++ later))
  | unmatched {depth frame site op} : op.kind? = some .endCompatibility → frame.sections = 0 →
    Tallied resolver limit (.operation depth frame site op (.ok ()) 0)
      [.act ⟨site, op, 0, .error (.warning unmatchedEnd)⟩]
      [.warning (unmatchedEnd.attach site.operator site.index)]
  | refused {depth features frame site op signal answer log} :
    ¬ (op.kind? = some .endCompatibility ∧ frame.sections = 0) →
    plan resolver features frame op = .error signal →
    Settled site (sectionsAfter frame.sections op) (.error signal) answer log →
    Tallied resolver limit
      (.operation depth frame site op answer (sectionsAfter frame.sections op))
      [.act ⟨site, op, frame.sections, .error signal⟩] log
  | broken {depth features frame site op p signal answer log heard} :
    plan resolver features frame op = .ok p → Performed p.calls (.error signal) log →
    Settled site (sectionsAfter frame.sections op) (.error signal) answer heard →
    Tallied resolver limit
      (.operation depth frame site op answer (sectionsAfter frame.sections op))
      [.act ⟨site, op, frame.sections, .error signal⟩] (log ++ heard)
  | performed {depth features frame site op p outcome answer log heard} :
    plan resolver features frame op = .ok p → Performed p.calls (.ok ()) log →
    p.sequel.outcome? = some outcome →
    Settled site (sectionsAfter frame.sections op) outcome answer heard →
    Tallied resolver limit
      (.operation depth frame site op answer (sectionsAfter frame.sections op))
      [.act ⟨site, op, frame.sections, outcome⟩] (log ++ heard)
  | invoked {depth features frame site op p name form outcome answer log events inside heard} :
    plan resolver features frame op = .ok p → Performed p.calls (.ok ()) log →
    p.sequel = .enter name form →
    Tallied resolver limit (.form depth site name form frame.scope outcome) events inside →
    Settled site (sectionsAfter frame.sections op) outcome answer heard →
    Tallied resolver limit
      (.operation depth frame site op answer (sectionsAfter frame.sections op))
      (events ++ [.act ⟨site, op, frame.sections, outcome⟩]) (log ++ inside ++ heard)
  | tooDeep {depth site name form scope} : limit ≤ depth →
    Tallied resolver limit (.form depth site name form scope (depthExceeded limit name)) [] []
  | shut {depth site name form scope saved signal} : depth < limit →
    (tolerated site saved : Outcome × Log K R).1 = .error signal →
    Tallied resolver limit (.form depth site name form scope (.error signal)) []
      [.note (.enter name (depth + 1)), .call .save saved]
  | unready {depth site name form scope saved signal restored log} : depth < limit →
    (tolerated site saved : Outcome × Log K R).1 = .ok () → Prepared site form (.error signal) log →
    Tallied resolver limit (.form depth site name form scope (.error signal))
      [.aside (warnings ((tolerated site saved).2 ++ log))]
      (bracket name (depth + 1) saved restored ((tolerated site saved).2 ++ log))
  | form {depth site name form scope frame ending saved restored log opening events inside} :
    depth < limit →
    (tolerated site saved : Outcome × Log K R).1 = .ok () → Prepared site form (.ok ()) log →
    Opened resolver (form.scope.getD scope) frame opening →
    Tallied resolver limit
      (.content (depth + 1) { frame with sections := 0 } 0 form.content ending) events inside →
    Tallied resolver limit
      (.form depth site name form scope
        (formOutcome site ending.outcome restored : Outcome × Log K R).1)
      (.aside (warnings ((tolerated site saved).2 ++ log ++ opening)) :: events ++
        [.aside (warnings (formOutcome site ending.outcome restored : Outcome × Log K R).2)])
      (bracket name (depth + 1) saved restored
        ((tolerated site saved).2 ++ log ++ opening ++ inside) ++
          (formOutcome site ending.outcome restored).2)

section

variable {resolver : Resolver K R} {limit : Nat}

theorem operation_sections {depth sections : Nat} {frame : Frame R} {site : Site} {op : Operation}
    {answer : Except Failure Unit} {log : Log K R}
    (transcript : Transcript resolver limit (.operation depth frame site op answer sections) log) :
    sections = sectionsAfter frame.sections op := by
  cases transcript with
  | refused planned => exact (refused_sections planned).symm
  | broken planned | performed planned | invoked planned => exact plan_sections _ planned

omit [Scalar K] in
theorem opened_sections {scope : R} {frame : Frame R} {log : Log K R}
    (opened : Opened resolver scope frame log) : { frame with sections := 0 } = frame := by
  cases opened <;> rfl

theorem plan_unmatched {features : Features} {frame : Frame R} {op : Operation}
    (ends : op.kind? = some .endCompatibility) (none : frame.sections = 0) :
    plan resolver features frame op = .error (.warning unmatchedEnd) := by
  rw [plan, ends]
  change endCompatibility frame = _
  rw [endCompatibility, none]
  rfl

theorem part_tallied {part : Part K R} {log : Log K R} (transcript : Transcript resolver limit part log) :
    ∃ events, Tallied resolver limit part events log := by
  induction transcript with
  | finished => exact ⟨_, .finished⟩
  | stopped => exact ⟨_, .stopped⟩
  | raised _ operation =>
    obtain ⟨events, operation⟩ := operation
    exact ⟨events, .raised operation⟩
  | next performed _ operation content =>
    obtain ⟨events, operation⟩ := operation
    obtain ⟨more, content⟩ := content
    rw [operation_sections performed] at content
    exact ⟨events ++ more, .next operation content⟩
  | @refused _ _ frame site op signal answer log planned settled =>
    by_cases unmatched : op.kind? = some .endCompatibility ∧ frame.sections = 0
    · rw [plan_unmatched unmatched.1 unmatched.2] at planned
      cases planned
      cases settled
      rw [unmatched.2]
      exact ⟨_, .unmatched unmatched.1 unmatched.2⟩
    · rw [← refused_sections planned] at settled ⊢
      exact ⟨_, .refused unmatched planned settled⟩
  | broken planned performed settled =>
    rw [plan_sections _ planned] at settled ⊢
    exact ⟨_, .broken planned performed settled⟩
  | performed planned performed sequel settled =>
    rw [plan_sections _ planned] at settled ⊢
    exact ⟨_, .performed planned performed sequel settled⟩
  | invoked planned performed sequel _ settled form =>
    obtain ⟨events, form⟩ := form
    rw [plan_sections _ planned] at settled ⊢
    exact ⟨_, .invoked planned performed sequel form settled⟩
  | tooDeep deep => exact ⟨_, .tooDeep deep⟩
  | shut within refused => exact ⟨_, .shut within refused⟩
  | unready within entered prepared => exact ⟨_, .unready within entered prepared⟩
  | form within entered prepared opened _ content =>
    obtain ⟨events, content⟩ := content
    rw [← opened_sections opened] at content
    exact ⟨_, .form within entered prepared opened content⟩

end

omit [Scalar K] in
theorem performed_warnings {calls : List (Callback K R)} {outcome : Outcome} {log : Log K R}
    (performed : Performed calls outcome log) : warnings log = [] := by
  induction performed with
  | done | broken => rfl
  | next _ ih => exact ih

omit [Scalar K] in
theorem settled_told {site : Site} {op : Operation} {before : Nat} {outcome : Outcome}
    {answer : Except Failure Unit} {heard : Log K R}
    (settled : Settled site (sectionsAfter before op) outcome answer heard) :
    warnings heard = [Event.act ⟨site, op, before, outcome⟩].flatMap Event.told := by
  rw [List.flatMap_singleton]
  cases settled with
  | ok | warning | fatal | abort => rfl
  | unsupported none => exact (if_pos none).symm
  | ignored some => exact (if_neg some).symm

omit [Scalar K] in
theorem bracket_warnings (name : String) (depth : Nat) (saved restored : Outcome)
    (inside : Log K R) : warnings (bracket name depth saved restored inside) = warnings inside := by
  change warnings (inside ++ _) = _
  rw [warnings_append]
  exact List.append_nil _

theorem tallied_warnings {resolver : Resolver K R} {limit : Nat} {part : Part K R}
    {events : List Event} {log : Log K R} (tallied : Tallied resolver limit part events log) :
    warnings log = events.flatMap Event.told := by
  induction tallied with
  | finished | stopped | unmatched | tooDeep | shut => rfl
  | raised _ ih => exact ih
  | @next _ _ _ _ _ _ _ _ log _ later _ _ first second =>
    change warnings (log ++ later) = _
    rw [warnings_append, first, second, List.flatMap_append]
  | refused _ _ settled => exact settled_told settled
  | broken _ performed settled | performed _ performed _ settled =>
    rw [warnings_append, performed_warnings performed]
    exact settled_told settled
  | invoked _ performed _ _ settled ih =>
    rw [warnings_append, warnings_append, performed_warnings performed, ih, settled_told settled,
      List.flatMap_append]
    rfl
  | unready => exact (bracket_warnings ..).trans (List.append_nil _).symm
  | form _ _ _ _ _ ih =>
    rw [warnings_append, bracket_warnings, warnings_append, ih, List.cons_append, List.flatMap_cons,
      List.flatMap_append, List.flatMap_singleton]
    exact List.append_assoc ..

section

omit [Scalar K]

def Raised (log : Log K R) (code : WarningCode) : Prop :=
  ∃ c warning, Entry.call c (.error (.warning warning)) ∈ log ∧ warning.code = code

/-- A code that the device has answered with, or that has nothing to do with sections. -/
def Foreign (log : Log K R) (code : WarningCode) : Prop :=
  Raised log code ∨
    code ∈ [.malformedOperands, .missingResource, .formDepthExceeded, .defaultColorSpace]

/-- Only of an end that finds no section open is it told that it does, and nothing is told of sections
that does not come from an outcome. -/
def Event.Accounted (log : Log K R) : Event → Prop
  | .act done =>
    if done.Unmatched then done.outcome = .error (.warning unmatchedEnd)
    else ∀ warning, done.outcome = .error (.warning warning) → Foreign log warning.code
  | .aside warnings => ∀ warning ∈ warnings, Foreign log warning.code

variable {log later : Log K R}

theorem Raised.mono {code : WarningCode} (raised : Raised log code) (within : log ⊆ later) :
    Raised later code := by
  obtain ⟨c, warning, member, is⟩ := raised
  exact ⟨c, warning, within member, is⟩

theorem Foreign.mono {code : WarningCode} (foreign : Foreign log code) (within : log ⊆ later) :
    Foreign later code := foreign.imp_left (·.mono within)

theorem Event.Accounted.mono {event : Event} (accounted : event.Accounted log)
    (within : log ⊆ later) : event.Accounted later := by
  cases event with
  | act done =>
    by_cases unmatched : done.Unmatched
    · simpa only [Event.Accounted, if_pos unmatched] using accounted
    · simp only [Event.Accounted, if_neg unmatched] at accounted ⊢
      exact fun warning is => (accounted warning is).mono within
  | aside => exact fun warning member => (accounted warning member).mono within

theorem accounted_matched {done : Act} (matched : ¬ done.Unmatched)
    (foreign : ∀ warning, done.outcome = .error (.warning warning) → Foreign log warning.code) :
    ∀ event ∈ [Event.act done], event.Accounted log := by
  intro event member
  cases List.mem_singleton.mp member
  rw [Event.Accounted, if_neg matched]
  exact foreign

theorem performed_raised {calls : List (Callback K R)} {warning : Warning}
    (performed : Performed calls (.error (.warning warning)) log) : Raised log warning.code := by
  generalize ended : (Except.error (Signal.warning warning) : Outcome) = outcome at performed
  induction performed with
  | done => cases ended
  | next _ ih => exact (ih ended).mono (List.subset_cons_self _ _)
  | broken =>
    cases ended
    exact ⟨_, warning, List.mem_singleton_self _, rfl⟩

theorem tolerated_outcome (site : Site) (answer : Outcome) (warning : Warning) :
    (tolerated site answer : Outcome × Log K R).1 ≠ .error (.warning warning) := by
  rcases answer with (_ | _ | _ | _) | _ <;> nofun

theorem bracket_within (name : String) (depth : Nat) (saved restored : Outcome)
    (inside : Log K R) : inside ⊆ bracket name depth saved restored inside :=
  fun _ member => by simp [bracket, member]

theorem tolerated_raised {site : Site} {answer : Outcome} {c : Callback K R} {warning : Warning}
    (told : warning ∈ warnings (tolerated site answer : Outcome × Log K R).2) :
    Raised [.call c answer] warning.code := by
  rcases answer with (_ | raised | _ | _) | _
  case error.warning =>
    cases List.mem_singleton.mp told
    exact ⟨c, raised, List.mem_singleton_self _, (attach_code ..).symm⟩
  all_goals cases told

theorem defaultOf_foreign {resolver : Resolver K R} {scope : R} {name : String} {wanted : Nat}
    {warning : Warning} (told : warning ∈ warnings (defaultOf resolver scope name wanted).2) :
    Foreign log warning.code := by
  suffices code : warning.code = .defaultColorSpace by simp [Foreign, code]
  unfold defaultOf at told
  dsimp only at told
  split at told
  · cases List.mem_singleton.mp told
    rfl
  · cases told
  · split at told
    · cases told
    · cases List.mem_singleton.mp told
      rfl

theorem opened_foreign {resolver : Resolver K R} {scope : R} {frame : Frame R} {opening : Log K R}
    (opened : Opened resolver scope frame opening) {warning : Warning}
    (told : warning ∈ warnings opening) : Foreign log warning.code := by
  cases opened with
  | wanted =>
    simp only [warnings_append, List.mem_append] at told
    obtain (told | told) | told := told <;> exact defaultOf_foreign told
  | declined => cases told

end

section

variable {site : Site} {form : Form K R} {log : Log K R} {warning : Warning}

theorem prepared_outcome (prepared : Prepared site form (.error (.warning warning)) log) :
    Raised log warning.code := by
  cases prepared with
  | refused refused => exact absurd refused (tolerated_outcome site _ warning)
  | boxed _ _ performed =>
    exact (performed_raised performed).mono
      (List.Subset.trans (List.subset_append_right ..) (List.subset_cons_self ..))

theorem prepared_raised {outcome : Outcome} (prepared : Prepared site form outcome log)
    (told : warning ∈ warnings log) : Raised log warning.code := by
  cases prepared with
  | refused => cases told
  | plain => exact (tolerated_raised told).mono (List.cons_subset_cons _ (List.nil_subset _))
  | boxed _ _ performed =>
    change warning ∈ warnings (_ ++ _) at told
    rw [warnings_append, performed_warnings performed, List.append_nil] at told
    exact (tolerated_raised told).mono (List.cons_subset_cons _ (List.nil_subset _))

end

section

variable {resolver : Resolver K R} {features : Features} {frame : Frame R} {op : Operation}
  {log : Log K R} {warning : Warning}

theorem plan_refusal (planned : plan resolver features frame op = .error (.warning warning)) :
    Foreign log warning.code ∨ (op.kind? = some .endCompatibility ∧ frame.sections = 0) := by
  have checked : Checked (Accepted K op) (Hindered K resolver features frame op)
    (plan resolver features frame op) := plan_checked resolver features frame
  rw [planned] at checked
  cases checked with
  | malformed _ code => exact .inl (.inr (by simp [code]))
  | later _ hindered =>
    cases hindered with
    | missing => exact .inl (.inr (by simp [missing, Warning.aboutResource]))
    | unbalanced ends none => exact .inr ⟨ends, none⟩

theorem plan_report {p : Plan K R} (planned : plan resolver features frame op = .ok p)
    (reports : p.sequel = .report warning) : warning.code = .missingResource := by
  have font := plan_reports p planned warning reports
  rw [plan, font] at planned
  obtain ⟨name, _, planned⟩ := bind_ok planned
  obtain ⟨size, _, planned⟩ := bind_ok planned
  obtain ⟨found, _, planned⟩ := bind_ok planned
  cases found with
  | missing =>
    cases planned
    cases reports
    rfl
  | present | declined =>
    cases planned
    cases reports

theorem plan_matched {p : Plan K R} (planned : plan resolver features frame op = .ok p) :
    ¬ (op.kind? = some .endCompatibility ∧ frame.sections = 0) := by
  rintro ⟨ends, none⟩
  rw [plan_unmatched ends none] at planned
  cases planned

theorem form_outcome {limit depth : Nat} {site : Site} {name : String} {form : Form K R} {scope : R}
    {events : List Event} (tallied : Tallied resolver limit
      (.form depth site name form scope (.error (.warning warning))) events log) :
    Foreign log warning.code := by
  generalize ended : (Except.error (Signal.warning warning) : Outcome) = outcome at tallied
  cases tallied with
  | tooDeep =>
    cases ended
    exact .inr (by simp [Warning.aboutResource])
  | shut _ refused =>
    cases ended
    exact absurd refused (tolerated_outcome site _ warning)
  | unready _ _ prepared =>
    cases ended
    exact .inl ((prepared_outcome prepared).mono
      (List.Subset.trans (List.subset_append_right ..) (bracket_within ..)))
  | @form _ _ _ _ _ _ ending _ restored =>
    cases ending with
    | ok => exact absurd ended.symm (tolerated_outcome site restored warning)
    | error => cases ended

theorem ready_foreign {site : Site} {form : Form K R} {saved outcome : Outcome} {ready : Log K R}
    (prepared : Prepared site form outcome ready)
    (told : warning ∈ warnings ((tolerated site saved).2 ++ ready)) (saves : .call .save saved ∈ log)
    (within : ready ⊆ log) : Foreign log warning.code := by
  rw [warnings_append] at told
  rcases List.mem_append.mp told with told | told
  · exact .inl ((tolerated_raised told).mono (by simpa using saves))
  · exact .inl ((prepared_raised prepared told).mono within)

end

theorem tallied_accounted {resolver : Resolver K R} {limit : Nat} {part : Part K R}
    {events : List Event} {log : Log K R} (tallied : Tallied resolver limit part events log) :
    ∀ event ∈ events, event.Accounted log := by
  induction tallied with
  | finished | stopped | tooDeep | shut => exact List.forall_mem_nil _
  | raised _ ih => exact fun event member => (ih event member).mono (by simp)
  | next _ _ first second =>
    intro event member
    rcases List.mem_append.mp member with member | member
    · exact (first event member).mono (by simp)
    · exact (second event member).mono (by simp)
  | unmatched ends =>
    intro event member
    cases List.mem_singleton.mp member
    rw [Event.Accounted, if_pos ⟨ends, rfl⟩]
  | refused matched planned =>
    refine accounted_matched matched ?_
    rintro warning ⟨⟩
    exact (plan_refusal planned).resolve_right matched
  | broken planned performed =>
    refine accounted_matched (plan_matched planned) ?_
    rintro warning ⟨⟩
    exact .inl ((performed_raised performed).mono (by simp))
  | @performed _ _ _ _ _ p _ _ _ _ planned _ sequel =>
    refine accounted_matched (plan_matched planned) ?_
    rintro warning ⟨⟩
    rcases following : p.sequel with _ | reported | _ <;> rw [following] at sequel <;> cases sequel
    exact .inr (by simp [plan_report planned following])
  | invoked planned _ _ form _ ih =>
    refine List.forall_mem_append.mpr ⟨fun event member => (ih event member).mono (by simp), ?_⟩
    refine accounted_matched (plan_matched planned) ?_
    rintro warning ⟨⟩
    exact (form_outcome form).mono (by simp)
  | unready _ entered prepared =>
    intro event member
    cases List.mem_singleton.mp member
    exact fun warning told => ready_foreign prepared told (by simp [bracket])
      (List.Subset.trans (List.subset_append_right ..) (bracket_within ..))
  | @form _ _ _ _ _ _ ending _ _ _ _ _ _ _ entered prepared opened _ ih =>
    intro event member
    simp only [List.cons_append, List.mem_cons, List.mem_append, List.not_mem_nil, or_false] at member
    rcases member with rfl | member | rfl
    · intro warning told
      rw [warnings_append] at told
      rcases List.mem_append.mp told with told | told
      · exact ready_foreign prepared told (by simp [bracket]) fun _ member => by simp [bracket, member]
      · exact opened_foreign opened told
    · exact (ih event member).mono fun _ member => by simp [bracket, member]
    · intro warning told
      cases ending with
      | ok => exact .inl ((tolerated_raised (c := .restore) told).mono (by simp [bracket]))
      | error => cases told

def withCode (code : WarningCode) (told : List Warning) : List Warning :=
  told.filter (·.code = code)

omit [Scalar K] in
theorem foreign_other {log : Log K R} {code : WarningCode} {warning : Warning}
    (about : code ∈ [.unsupportedOperator, .unbalancedCompatibility]) (unraised : ¬ Raised log code)
    (foreign : Foreign log warning.code) : warning.code ≠ code := by
  rintro rfl
  rcases foreign with raised | other
  · exact unraised raised
  · generalize warning.code = code at about other
    revert about other
    cases code <;> decide

omit [Scalar K] in
theorem aside_other {log : Log K R} {code : WarningCode} {told : List Warning}
    (about : code ∈ [.unsupportedOperator, .unbalancedCompatibility]) (unraised : ¬ Raised log code)
    (accounted : (Event.aside told).Accounted log) : withCode code told = [] := by
  rw [withCode, List.filter_eq_nil_iff]
  intro warning member
  simpa using foreign_other about unraised (accounted warning member)

omit [Scalar K] in
theorem withCode_one {code : WarningCode} {warning : Warning} (operator : String) (index : Nat) :
    withCode code [warning.attach operator index] =
      if warning.code = code then [warning.attach operator index] else [] := by
  simp [withCode, List.filter_cons, attach_code]

omit [Scalar K] in
theorem warned_other {log : Log K R} {code : WarningCode} {done : Act} {warning : Warning}
    (about : code ∈ [.unsupportedOperator, .unbalancedCompatibility]) (unraised : ¬ Raised log code)
    (accounted : (Event.act done).Accounted log) (matched : ¬ done.Unmatched)
    (warned : done.outcome = .error (.warning warning)) : withCode code done.told = [] := by
  rw [Event.Accounted, if_neg matched] at accounted
  rw [Act.told, warned]
  exact (withCode_one ..).trans (if_neg (foreign_other about unraised (accounted warning warned)))

omit [Scalar K] in
theorem told_unsupported {log : Log K R} {event : Event} (accounted : event.Accounted log)
    (unraised : ¬ Raised log .unsupportedOperator) :
    withCode .unsupportedOperator event.told = event.unsupported := by
  rcases event with ⟨site, op, before, outcome⟩ | told
  · rcases outcome with (_ | warning | failure | failure) | ⟨⟨⟩⟩
    case error.unsupported =>
      change withCode _ (if sectionsAfter before op = 0 then [_] else []) = if _ then [_] else []
      split
      · exact (withCode_one ..).trans (if_pos rfl)
      · rfl
    case error.warning =>
      by_cases unmatched : (⟨site, op, before, .error (.warning warning)⟩ : Act).Unmatched
      · rw [Event.Accounted, if_pos unmatched] at accounted
        cases accounted
        exact (withCode_one ..).trans (if_neg nofun)
      · exact warned_other (by decide) unraised accounted unmatched rfl
    all_goals rfl
  · exact aside_other (by decide) unraised accounted

omit [Scalar K] in
theorem told_unmatched {log : Log K R} {event : Event} (accounted : event.Accounted log)
    (unraised : ¬ Raised log .unbalancedCompatibility) :
    withCode .unbalancedCompatibility event.told = event.unmatched := by
  rcases event with done | told
  · by_cases unmatched : done.Unmatched
    · rw [Event.Accounted, if_pos unmatched] at accounted
      rw [Event.unmatched, if_pos unmatched, Event.told, Act.told, accounted]
      exact (withCode_one ..).trans (if_pos rfl)
    · rw [Event.unmatched, if_neg unmatched]
      obtain ⟨site, op, before, outcome⟩ := done
      rcases outcome with (_ | warning | failure | failure) | ⟨⟨⟩⟩
      case error.unsupported =>
        change withCode _ (if sectionsAfter before op = 0 then [_] else []) = []
        split
        · exact (withCode_one ..).trans (if_neg nofun)
        · rfl
      case error.warning => exact warned_other (by decide) unraised accounted unmatched rfl
      all_goals rfl
  · exact aside_other (by decide) unraised accounted

omit [Scalar K] in
theorem withCode_events {code : WarningCode} {events : List Event} {about : Event → List Warning}
    (each : ∀ event ∈ events, withCode code event.told = about event) :
    withCode code (events.flatMap Event.told) = events.flatMap about := by
  induction events with
  | nil => rfl
  | cons event rest ih =>
    rw [List.flatMap_cons, List.flatMap_cons, withCode, List.filter_append]
    exact congrArg₂ (· ++ ·) (each event List.mem_cons_self)
      (ih fun event member => each event (List.mem_cons_of_mem _ member))

/-- What is told in a run, for every device: of an operation that is not supported, if no section is
open in its own content just after it, that it is not supported; of one that comes to a warning, this
warning; and nothing of any other. Where the device does not itself answer with such a code, the
warnings that operators are not supported are those of the unsupported operations outside of
sections, and the warnings of ends without a beginning those of the ends that find no section open. -/
theorem sections_counted (host : Host K R ω) (resolver : Resolver K R) (limit : Nat) (scope : R)
    (content : List Operation) (w : ω) :
    let whole := history host resolver limit scope content w
    ∃ frame opening log events, whole = opening ++ log ∧ Opened resolver scope frame opening ∧
      Tallied resolver limit
        (.content 0 { frame with sections := 0 } 0 content
          (process host resolver limit scope content w).1) events log ∧
      warnings whole = warnings opening ++ events.flatMap Event.told ∧
      (¬ Raised whole .unsupportedOperator →
        withCode .unsupportedOperator (warnings whole) = events.flatMap Event.unsupported) ∧
      (¬ Raised whole .unbalancedCompatibility →
        withCode .unbalancedCompatibility (warnings whole) = events.flatMap Event.unmatched) := by
  intro whole
  obtain ⟨frame, opening, log, is, opened, transcript⟩ :=
    history_logged host resolver limit scope content w
  obtain ⟨events, tallied⟩ := part_tallied transcript
  have told : warnings whole = warnings opening ++ events.flatMap Event.told := by
    rw [← tallied_warnings tallied, ← warnings_append]
    exact congrArg warnings is
  rw [← opened_sections opened] at tallied
  have accounted (event : Event) (member : event ∈ .aside (warnings opening) :: events) :
      event.Accounted whole := by
    rcases List.mem_cons.mp member with rfl | member
    · exact fun _ told => opened_foreign opened told
    · exact (tallied_accounted tallied event member).mono (by simp [whole, is])
  have coded {code : WarningCode} {about : Event → List Warning}
      (each : ∀ event ∈ .aside (warnings opening) :: events, withCode code event.told = about event) :
      withCode code (warnings whole) = about (.aside (warnings opening)) ++ events.flatMap about := by
    rw [told]
    exact withCode_events each
  exact ⟨frame, opening, log, events, is, opened, tallied, told,
    fun unraised => coded fun event member => told_unsupported (accounted event member) unraised,
    fun unraised => coded fun event member => told_unmatched (accounted event member) unraised⟩

def untidy : Form Float Unit :=
  ⟨⟨1, 0, 0, 1, 0, 0⟩, none, [⟨"EX", []⟩, ⟨"zz", []⟩, ⟨"BX", []⟩, ⟨"zz", []⟩], none⟩

def untidyDrawn : Resolver Float Unit :=
  { Resolver.none Float Unit with xobject := fun _ _ => .ok (some (.form untidy)) }

example :
    warnings (history (.of (.silent Float Unit) (.strict Unit) fun _ => false) untidyDrawn 1 ()
      [⟨"BX", []⟩, ⟨"zz", []⟩, ⟨"Do", [.name [70]]⟩, ⟨"zz", []⟩, ⟨"EX", []⟩, ⟨"zz", []⟩, ⟨"EX", []⟩]
      ((), ())) =
    [unmatchedEnd.attach "EX" 0, unsupported ⟨"zz", 1⟩, unsupported ⟨"zz", 5⟩,
      unmatchedEnd.attach "EX" 6] := rfl

end PageMarks.Interpreter
