import PageMarks.Proofs.Interpreter.Bracketing
import PageMarks.Proofs.Interpreter.Lookup

/-!
The way of fatal conditions. One that an operation gives rise to is offered to the handler as soon as
the forms it has gone into are left, and once. If it is swallowed the content goes on; if it is raised
again the forms that are open are left one after another, and that is the end of the run.
-/

namespace PageMarks.Interpreter

variable {K R ω : Type}

def fatals (log : Log K R) : List Failure :=
  log.filterMap fun
    | .call _ (.error (.fatal failure)) => some failure
    | _ => none

def offers (log : Log K R) : List Failure :=
  log.filterMap fun
    | .offer failure _ => some failure
    | _ => none

def pending : Outcome → List Failure
  | .error (.fatal failure) => [failure]
  | _ => []

/-- What arises when a form is left: the restore matters only if the body has not failed. -/
def leaving (ending : Ending) (restored : Outcome) : List Failure :=
  match ending with
  | .ok _ => pending restored
  | .error _ => []

variable [Scalar K]

/-- Parts of a run with the fatal conditions that arise in them, in order: those that the device
answers callbacks with, and those of lookups that fail. It does not count how a form is left whose
body has failed. Content goes on after an operation whose answer is `.ok ()`, unless a stop is asked
for; the answer to a fatal condition is what the handler made of it. -/
inductive Routed (resolver : Resolver K R) : Part K R → List Failure → Log K R → Prop
  | finished {depth frame index} :
    Routed resolver (.content depth frame index [] (.ok .finished)) [] []
  | stopped {depth frame index op rest} :
    Routed resolver (.content depth frame index (op :: rest) (.ok .cancelled)) []
      [.note (.stop index)]
  | raised {depth frame index op rest failure sections arisen log} :
    Routed resolver (.operation depth frame ⟨op.operator, index⟩ op (.error failure) sections) arisen
      log →
    Routed resolver (.content depth frame index (op :: rest) (.error failure)) arisen
      (.note (.dispatch op.operator index) :: log)
  | next {depth frame index op rest sections ending arisen log more later} :
    Routed resolver (.operation depth frame ⟨op.operator, index⟩ op (.ok ()) sections) arisen log →
    Routed resolver (.content depth { frame with sections } (index + 1) rest ending) more later →
    Routed resolver (.content depth frame index (op :: rest) ending) (arisen ++ more)
      (.note (.dispatch op.operator index) :: (log ++ later))
  | unresolved {depth frame site op sections failure answer} :
    resolver.Fails frame.scope failure →
    Routed resolver (.operation depth frame site op answer sections) [failure]
      [.offer failure answer]
  | called {depth frame site op calls given outcome answer sections log heard} :
    Performed calls given log →
    outcome = given ∨ (given = .ok () ∧ ∃ warning, outcome = .error (.warning warning)) →
    Settled site sections outcome answer heard →
    Routed resolver (.operation depth frame site op answer sections) (fatals log) (log ++ heard)
  | invoked {depth frame site op calls name form outcome answer sections arisen log inside heard} :
    Performed calls (.ok ()) log →
    Routed resolver (.form depth site name form frame.scope outcome) arisen inside →
    Settled site sections outcome answer heard →
    Routed resolver (.operation depth frame site op answer sections) arisen (log ++ inside ++ heard)
  | tooDeep {depth site name form scope limit} :
    Routed resolver (.form depth site name form scope (depthExceeded limit name)) [] []
  | shut {depth site name form scope saved signal} :
    (tolerated site saved : Outcome × Log K R).1 = .error signal →
    Routed resolver (.form depth site name form scope (.error signal)) (pending saved)
      [.note (.enter name (depth + 1)), .call .save saved]
  | unready {depth site name form scope saved signal restored log} :
    (tolerated site saved : Outcome × Log K R).1 = .ok () → Prepared site form (.error signal) log →
    Routed resolver (.form depth site name form scope (.error signal)) (fatals log)
      (bracket name (depth + 1) saved restored ((tolerated site saved).2 ++ log))
  | form {depth site name form scope frame ending saved restored log opening arisen inside} :
    (tolerated site saved : Outcome × Log K R).1 = .ok () → Prepared site form (.ok ()) log →
    Opened resolver (form.scope.getD scope) frame opening →
    Routed resolver (.content (depth + 1) frame 0 form.content ending) arisen inside →
    Routed resolver
      (.form depth site name form scope
        (formOutcome site ending.outcome restored : Outcome × Log K R).1)
      (arisen ++ leaving ending restored)
      (bracket name (depth + 1) saved restored
        ((tolerated site saved).2 ++ log ++ opening ++ inside) ++
          (formOutcome site ending.outcome restored).2)

theorem part_routed {resolver : Resolver K R} {limit : Nat} {part : Part K R} {log : Log K R}
    (transcript : Transcript resolver limit part log) : ∃ arisen, Routed resolver part arisen log := by
  induction transcript with
  | finished => exact ⟨[], .finished⟩
  | stopped => exact ⟨[], .stopped⟩
  | raised _ operation =>
    obtain ⟨arisen, operation⟩ := operation
    exact ⟨arisen, .raised operation⟩
  | next _ _ operation content =>
    obtain ⟨arisen, operation⟩ := operation
    obtain ⟨more, content⟩ := content
    exact ⟨arisen ++ more, .next operation content⟩
  | @refused _ features frame _ op _ _ _ planned settled =>
    cases plan_refuses features frame op planned with
    | warning => exact ⟨[], .called .done (.inr ⟨rfl, _, rfl⟩) settled⟩
    | fatal fails =>
      cases settled
      exact ⟨_, .unresolved fails⟩
  | broken _ performed settled => exact ⟨_, .called performed (.inl rfl) settled⟩
  | @performed _ _ _ _ _ p _ _ _ _ _ performed sequel settled =>
    refine ⟨_, .called performed ?_ settled⟩
    rcases following : p.sequel with _ | warning | _ <;> rw [following] at sequel <;> cases sequel
    · exact .inl rfl
    · exact .inr ⟨rfl, warning, rfl⟩
  | invoked _ performed _ _ settled form =>
    obtain ⟨arisen, form⟩ := form
    exact ⟨arisen, .invoked performed form settled⟩
  | tooDeep => exact ⟨[], .tooDeep⟩
  | shut _ refused => exact ⟨_, .shut refused⟩
  | unready _ entered prepared => exact ⟨_, .unready entered prepared⟩
  | form _ entered prepared opened _ content =>
    obtain ⟨arisen, content⟩ := content
    exact ⟨_, .form entered prepared opened content⟩

omit [Scalar K] in
theorem offers_append (log later : Log K R) : offers (log ++ later) = offers log ++ offers later :=
  List.filterMap_append

omit [Scalar K] in
theorem fatals_append (log later : Log K R) : fatals (log ++ later) = fatals log ++ fatals later :=
  List.filterMap_append

omit [Scalar K] in
theorem performed_fatals {calls : List (Callback K R)} {outcome : Outcome} {log : Log K R}
    (performed : Performed calls outcome log) : fatals log = pending outcome ∧ offers log = [] := by
  induction performed with
  | done => exact ⟨rfl, rfl⟩
  | next _ ih => exact ih
  | @broken _ _ signal => cases signal <;> exact ⟨rfl, rfl⟩

omit [Scalar K] in
theorem settled_offers {site : Site} {sections : Nat} {outcome : Outcome}
    {answer : Except Failure Unit} {log : Log K R}
    (settled : Settled site sections outcome answer log) : offers log = pending outcome := by
  cases settled <;> rfl

omit [Scalar K] in
theorem fatals_call (c : Callback K R) (answer : Outcome) (log : Log K R) :
    fatals (.call c answer :: log) = pending answer ++ fatals log := by
  rcases answer with (_ | _ | _ | _) | _ <;> rfl

omit [Scalar K] in
theorem tolerated_pending (site : Site) (answer : Outcome) :
    pending (tolerated site answer : Outcome × Log K R).1 = pending answer := by
  rcases answer with (_ | _ | _ | _) | _ <;> rfl

omit [Scalar K] in
theorem tolerated_offers (site : Site) (answer : Outcome) :
    fatals (tolerated site answer : Outcome × Log K R).2 = [] ∧
      offers (tolerated site answer : Outcome × Log K R).2 = [] := by
  rcases answer with (_ | _ | _ | _) | _ <;> exact ⟨rfl, rfl⟩

theorem prepared_fatals {site : Site} {form : Form K R} {outcome : Outcome} {log : Log K R}
    (prepared : Prepared site form outcome log) :
    fatals log = pending outcome ∧ offers log = [] := by
  cases prepared with
  | @refused answer _ refused =>
    have same := tolerated_pending (K := K) (R := R) site answer
    rw [refused] at same
    refine ⟨?_, rfl⟩
    rw [fatals_call, same]
    exact List.append_nil _
  | @plain answer entered _ =>
    have same := tolerated_pending (K := K) (R := R) site answer
    obtain ⟨fatals, offers⟩ := tolerated_offers (K := K) (R := R) site answer
    rw [entered] at same
    refine ⟨?_, offers⟩
    rw [fatals_call, ← same, fatals]
    rfl
  | @boxed answer _ _ log entered _ performed =>
    have same := tolerated_pending (K := K) (R := R) site answer
    obtain ⟨fatals, offers⟩ := tolerated_offers (K := K) (R := R) site answer
    obtain ⟨raised, unoffered⟩ := performed_fatals performed
    rw [entered] at same
    constructor
    · rw [fatals_call, ← same, fatals_append, fatals, raised]
      rfl
    · change Interpreter.offers (_ ++ log) = []
      rw [offers_append, offers, unoffered]
      rfl

omit [Scalar K] in
theorem defaultOf_offers (resolver : Resolver K R) (scope : R) (name : String) (wanted : Nat) :
    offers (defaultOf resolver scope name wanted).2 = [] := by
  unfold defaultOf
  dsimp only
  split
  · rfl
  · rfl
  · split <;> rfl

omit [Scalar K] in
theorem opened_offers {resolver : Resolver K R} {scope : R} {frame : Frame R} {log : Log K R}
    (opened : Opened resolver scope frame log) : offers log = [] := by
  cases opened with
  | wanted =>
    rw [offers_append, offers_append, defaultOf_offers, defaultOf_offers, defaultOf_offers]
    rfl
  | declined => rfl

omit [Scalar K] in
theorem bracket_offers (name : String) (depth : Nat) (saved restored : Outcome) (inside : Log K R) :
    offers (bracket name depth saved restored inside) = offers inside := by
  change offers (inside ++ _) = _
  rw [offers_append]
  exact List.append_nil _

def Part.pending : Part K R → List Failure
  | .form _ _ _ _ _ outcome => Interpreter.pending outcome
  | _ => []

theorem routed_offers {resolver : Resolver K R} {part : Part K R} {arisen : List Failure}
    {log : Log K R} (routed : Routed resolver part arisen log) :
    arisen = offers log ++ part.pending := by
  induction routed with
  | finished | stopped | tooDeep | unresolved => rfl
  | raised _ ih => exact ih
  | @next _ _ _ _ _ _ _ _ log _ later _ _ operation content =>
    change _ = offers (log ++ later) ++ []
    rw [operation, content, offers_append]
    simp [Part.pending]
  | @called _ _ _ _ _ given outcome _ _ log heard performed ending settled =>
    obtain ⟨raised, unoffered⟩ := performed_fatals performed
    have same : pending outcome = pending given := by
      rcases ending with rfl | ⟨rfl, warning, rfl⟩ <;> rfl
    change _ = offers (log ++ heard) ++ []
    rw [raised, offers_append, unoffered, settled_offers settled, same, List.append_nil,
      List.nil_append]
  | @invoked _ _ _ _ _ _ _ _ _ _ _ log inside heard performed _ settled ih =>
    change _ = offers (log ++ inside ++ heard) ++ []
    rw [ih, offers_append, offers_append, (performed_fatals performed).2, settled_offers settled,
      List.append_nil, List.nil_append]
    rfl
  | @shut _ site _ _ _ saved _ refused =>
    have same := tolerated_pending (K := K) (R := R) site saved
    rw [refused] at same
    exact same.symm
  | @unready _ site _ _ _ saved _ _ log _ prepared =>
    obtain ⟨raised, unoffered⟩ := prepared_fatals prepared
    rw [raised, bracket_offers, offers_append, (tolerated_offers site saved).2, unoffered]
    rfl
  | @form _ site _ _ _ _ ending saved restored log opening _ inside _ prepared opened _ ih =>
    have unoffered : offers ((tolerated site saved).2 ++ log ++ opening ++ inside) = offers inside := by
      rw [offers_append, offers_append, offers_append, (tolerated_offers site saved).2,
        (prepared_fatals prepared).2, opened_offers opened]
      rfl
    rw [offers_append, bracket_offers, unoffered, ih]
    cases ending with
    | error => simp [Part.pending, leaving, formOutcome, Ending.outcome, pending, offers]
    | ok =>
      have heard := (tolerated_offers (K := K) (R := R) site restored).2
      have same := tolerated_pending (K := K) (R := R) site restored
      simp [Part.pending, leaving, formOutcome, Ending.outcome, heard, same]

/-- The forms that are open, innermost first, and one that is being entered: it is open once its save
has been accepted. -/
def track : List String × Option String → Entry K R → List String × Option String
  | (names, _), .note (.enter name _) => (names, some name)
  | (names, some name), .call .save answer =>
    (if accepted answer then name :: names else names, none)
  | (names, waiting), .note (.leave _) => (names.tail, waiting)
  | forms, _ => forms

def openForms (log : Log K R) : List String := (log.foldl track ([], none)).1

/-- The forms named are left, the innermost first, and nothing else is done or told. -/
inductive Unwinds : List String → Log K R → Prop
  | done : Unwinds [] []
  | leave {name names restored log} : Unwinds names log →
    Unwinds (name :: names) (.call .restore restored :: .note (.leave name) :: log)

omit [Scalar K] in
theorem unwinds_append {names : List String} {log : Log K R} (unwinds : Unwinds names log)
    (name : String) (restored : Outcome) :
    Unwinds (names ++ [name]) (log ++ [.call .restore restored, .note (.leave name)]) := by
  induction unwinds with
  | done => exact .leave .done
  | leave _ ih => exact .leave ih

def Closed (log : Log K R) : Prop := ∀ names, log.foldl track (names, none) = (names, none)

omit [Scalar K] in
theorem closed_append {log later : Log K R} (first : Closed log) (second : Closed later) :
    Closed (log ++ later) := by
  intro names
  rw [List.foldl_append, first, second]

omit [Scalar K] in
theorem closed_silent {log : Log K R} (silent : notes log = []) : Closed log := by
  intro names
  induction log with
  | nil => rfl
  | cons entry rest ih =>
    cases entry with
    | note => cases silent
    | warning | offer => exact ih silent
    | call c => cases c <;> exact ih silent

omit [Scalar K] in
theorem track_entered {name : String} {depth : Nat} {saved : Outcome} (entered : accepted saved)
    (names : List String) (log : Log K R) :
    (.note (.enter name depth) :: .call .save saved :: log).foldl track (names, none) =
      log.foldl track (name :: names, none) := by
  simp only [List.foldl_cons, track, entered, if_true]

omit [Scalar K] in
theorem bracket_closed {name : String} {depth : Nat} {saved restored : Outcome} {inside : Log K R}
    (entered : accepted saved) (closed : Closed inside) :
    Closed (bracket name depth saved restored inside) := by
  intro names
  rw [bracket, List.foldl_append, track_entered entered, closed]
  rfl

theorem part_closed {resolver : Resolver K R} {part : Part K R} {arisen : List Failure}
    {log : Log K R} (routed : Routed resolver part arisen log) : Closed log := by
  induction routed with
  | finished | stopped | unresolved | tooDeep => exact fun _ => rfl
  | raised _ ih => exact ih
  | next _ _ operation content => exact closed_append operation content
  | called performed _ settled =>
    exact closed_append (closed_silent (performed_notes performed))
      (closed_silent (settled_hushed settled).2)
  | invoked performed _ settled ih =>
    exact closed_append (closed_append (closed_silent (performed_notes performed)) ih)
      (closed_silent (settled_hushed settled).2)
  | @shut _ site _ _ _ saved _ refused =>
    intro names
    have unentered : ¬accepted saved := by rw [accepted_iff (K := K) (R := R) site, refused]; nofun
    simp only [List.foldl_cons, List.foldl_nil, track, if_neg unentered]
  | @unready _ site _ _ _ saved _ _ _ entered prepared =>
    exact bracket_closed ((accepted_iff site saved).mpr entered)
      (closed_append (closed_silent (tolerated_hushed site saved).2)
        (closed_silent (prepared_callbacks prepared).1))
  | @form _ site _ _ _ _ ending saved restored _ _ _ _ entered prepared opened _ ih =>
    have ready := closed_append (closed_silent (tolerated_hushed site saved).2)
      (closed_silent (prepared_callbacks prepared).1)
    have inside := closed_append (closed_append ready (closed_silent (opened_hushed opened).2)) ih
    exact closed_append (bracket_closed ((accepted_iff site saved).mpr entered) inside)
      (closed_silent (formOutcome_hushed site ending.outcome restored).2)

/-- Once the handler has raised a failure, which is one that `Ends` allows, the forms that are open
are left. -/
def WayOut (Ends : Failure → Prop) (log : Log K R) : Prop :=
  ∀ before failure raised after, log = before ++ .offer failure (.error raised) :: after →
    Ends raised ∧ ∃ inner, Unwinds inner after ∧
      ∀ names, before.foldl track (names, none) = (inner ++ names, none)

namespace WayOut

variable {Ends Inside : Failure → Prop} {log later : Log K R}

omit [Scalar K] in
theorem quiet (unoffered : offers log = []) : WayOut Ends log := by
  rintro before failure raised after rfl
  rw [offers_append] at unoffered
  simp [offers] at unoffered

omit [Scalar K] in
theorem offered (failure : Failure) (answer : Except Failure Unit) :
    WayOut (fun raised => answer = .error raised) [(.offer failure answer : Entry K R)] := by
  intro before failure raised after split
  rcases before with _ | ⟨first, _ | ⟨second, rest⟩⟩
  · cases split
    exact ⟨rfl, [], .done, fun _ => rfl⟩
  all_goals cases split

omit [Scalar K] in
theorem split {before after : Log K R} {entry : Entry K R}
    (split : log ++ later = before ++ entry :: after) :
    (∃ rest, log = before ++ entry :: rest ∧ after = rest ++ later) ∨
      ∃ rest, before = log ++ rest ∧ later = rest ++ entry :: after := by
  rcases List.append_eq_append_iff.mp split with ⟨rest, rfl, tail⟩ | ⟨rest, rfl, tail⟩
  · exact .inr ⟨rest, rfl, tail⟩
  · cases rest with
    | nil => exact .inr ⟨[], by simp, by simpa using tail.symm⟩
    | cons first rest =>
      obtain ⟨rfl, rfl⟩ := List.cons.inj tail
      exact .inl ⟨rest, by simp, rfl⟩

omit [Scalar K] in
theorem append (closed : Closed log) (first : WayOut Inside log) (second : WayOut Ends later)
    (last : ∀ raised, Inside raised → Ends raised ∧ later = []) : WayOut Ends (log ++ later) := by
  intro before failure raised after whole
  rcases split whole with ⟨rest, inside, rfl⟩ | ⟨rest, rfl, inside⟩
  · obtain ⟨ends, inner, unwinds, tracked⟩ := first before failure raised rest inside
    obtain ⟨ends, rfl⟩ := last raised ends
    exact ⟨ends, inner, by rwa [List.append_nil], tracked⟩
  · obtain ⟨ends, inner, unwinds, tracked⟩ := second rest failure raised after inside
    refine ⟨ends, inner, unwinds, fun names => ?_⟩
    rw [List.foldl_append, closed, tracked]

omit [Scalar K] in
theorem after (closed : Closed log) (unoffered : offers log = []) (wayOut : WayOut Ends later) :
    WayOut Ends (log ++ later) :=
  append closed ((quiet unoffered : WayOut (fun _ => False) log)) wayOut fun _ => False.elim

omit [Scalar K] in
theorem dispatched (operator : String) (index : Nat) (wayOut : WayOut Ends log) :
    WayOut Ends (.note (.dispatch operator index) :: log) := by
  have closed : Closed [(.note (.dispatch operator index) : Entry K R)] := fun _ => rfl
  exact after closed rfl wayOut

omit [Scalar K] in
theorem mono (wayOut : WayOut Inside log) (ends : ∀ raised, Inside raised → Ends raised) :
    WayOut Ends log := by
  intro before failure raised after whole
  obtain ⟨inside, unwinds⟩ := wayOut before failure raised after whole
  exact ⟨ends raised inside, unwinds⟩

omit [Scalar K] in
theorem bracket {name : String} {depth : Nat} {saved restored : Outcome} (entered : accepted saved)
    (wayOut : WayOut Ends log) : WayOut Ends (bracket name depth saved restored log) := by
  intro before failure raised after whole
  rcases before with _ | ⟨first, _ | ⟨second, before⟩⟩
  · cases whole
  · cases whole
  · obtain ⟨enter, tail⟩ := List.cons.inj whole
    obtain ⟨save, content⟩ := List.cons.inj tail
    subst enter save
    rcases split content with ⟨rest, inside, rfl⟩ | ⟨rest, rfl, inside⟩
    · obtain ⟨ends, inner, unwinds, tracked⟩ := wayOut before failure raised rest inside
      refine ⟨ends, inner ++ [name], unwinds_append unwinds name restored, fun names => ?_⟩
      rw [track_entered entered, tracked, List.append_assoc]
      rfl
    · rcases rest with _ | ⟨first, _ | ⟨second, rest⟩⟩
      · cases inside
      · cases inside
      · simp at inside

end WayOut

def Part.EndsIn : Part K R → Failure → Prop
  | .content _ _ _ _ ending, failure => ending = .error failure
  | .operation _ _ _ _ answer _, failure => answer = .error failure
  | .form _ _ _ _ _ outcome, failure => outcome = .error (.abort failure)

omit [Scalar K] in
theorem settled_wayOut {site : Site} {sections : Nat} {outcome : Outcome}
    {answer : Except Failure Unit} {log : Log K R}
    (settled : Settled site sections outcome answer log) :
    WayOut (fun raised => answer = .error raised) log := by
  cases settled with
  | fatal => exact .offered _ _
  | ok | unsupported | ignored | warning | abort => exact .quiet rfl

theorem part_wayOut {resolver : Resolver K R} {part : Part K R} {arisen : List Failure}
    {log : Log K R} (routed : Routed resolver part arisen log) : WayOut part.EndsIn log := by
  induction routed with
  | finished | stopped | tooDeep | shut => exact .quiet rfl
  | raised _ ih =>
    refine .dispatched _ _ (ih.mono fun _ answered => ?_)
    cases answered
    rfl
  | next operation _ first second =>
    exact .dispatched _ _ (.append (part_closed operation) first second nofun)
  | unresolved => exact .offered _ _
  | called performed _ settled =>
    exact .after (closed_silent (performed_notes performed)) (performed_fatals performed).2
      (settled_wayOut settled)
  | @invoked _ _ _ _ _ _ _ outcome _ _ _ _ _ _ performed form settled ih =>
    have inside := WayOut.after (closed_silent (performed_notes performed))
      (performed_fatals performed).2 ih
    have closed := closed_append (closed_silent (performed_notes performed)) (part_closed form)
    refine .append closed inside (settled_wayOut settled) fun raised aborted => ?_
    cases aborted
    cases settled
    exact ⟨rfl, rfl⟩
  | @unready _ site _ _ _ saved _ _ _ entered prepared =>
    refine .quiet ?_
    rw [bracket_offers, offers_append, (tolerated_offers site saved).2, (prepared_fatals prepared).2]
    rfl
  | @form _ site _ _ _ _ ending saved restored log opening _ inside entered prepared opened content ih =>
    have preface : offers ((tolerated site saved).2 ++ log ++ opening) = [] := by
      rw [offers_append, offers_append, (tolerated_offers site saved).2,
        (prepared_fatals prepared).2, opened_offers opened]
      rfl
    have closed := closed_append (closed_append (closed_silent (tolerated_hushed site saved).2)
      (closed_silent (prepared_callbacks prepared).1)) (closed_silent (opened_hushed opened).2)
    have entered := (accepted_iff site saved).mpr entered
    have heard : offers (formOutcome site ending.outcome restored : Outcome × Log K R).2 = [] := by
      cases ending with
      | error => rfl
      | ok => exact (tolerated_offers site restored).2
    refine .append (bracket_closed entered (closed_append closed (part_closed content)))
      (.bracket entered (.after closed preface ih)) (.quiet heard) fun raised ends => ?_
    cases ends
    exact ⟨rfl, rfl⟩

end PageMarks.Interpreter
