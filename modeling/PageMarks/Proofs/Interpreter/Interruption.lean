import PageMarks.Proofs.Interpreter.Cancellation
import PageMarks.Proofs.Interpreter.Settling

/-!
Runs that are interrupted. A stop that is asked for during a callback is not heeded before the
operation that the callback belongs to is over, or the set-up of the form that the operation goes
into. Up to there the run is the one that nobody stops; from there on it only leaves the forms that
are open, the innermost first.
-/

namespace PageMarks

section

variable {K R ω : Type} (host : Host K R ω)

def Host.unstopped : Host K R ω := { host with cancelled := fun _ => false }

/-- A stop is asked for during the callback of that number, and not taken back. The count is kept
beside the world, where no answer depends on it. -/
def Host.stoppedAt (n : Nat) : Host K R (ω × Nat) where
  features w := host.features w.1
  call c w :=
    let (answer, v) := host.call c w.1
    (answer, v, w.2 + 1)
  warn warning w := (host.warn warning w.1, w.2)
  offer failure w :=
    let (answer, v) := host.offer failure w.1
    (answer, v, w.2)
  note note w := (host.note note w.1, w.2)
  cancelled w := decide (n ≤ w.2)

end

def Host.polled {K R ω : Type} (host : Host K R ω) (asked : Log K R → Bool) :
    Host K R (ω × Log K R) :=
  { host.logged with cancelled := fun w => asked w.2 }

namespace Interpreter

variable {K R ω : Type} (host : Host K R ω)

def never (_ : Log K R) : Bool := false

/-- A log that has reached a number of callbacks. -/
def reached (n : Nat) (log : Log K R) : Bool := decide (n ≤ (callbacks log).length)

theorem stoppedAt_lockstep (n : Nat) :
    Lockstep (host.stoppedAt n).logged (host.polled (reached n))
      fun v w => v = ((w.1, (callbacks w.2).length), w.2) where
  features := by rintro _ w rfl; rfl
  call := by
    rintro _ w c rfl
    exact ⟨rfl, by simp [Host.polled, Host.logged, Host.stoppedAt, callbacks]⟩
  warn := by rintro _ w warning rfl; simp [Host.polled, Host.logged, Host.stoppedAt, callbacks]
  offer := by
    rintro _ w failure rfl
    exact ⟨rfl, by simp [Host.polled, Host.logged, Host.stoppedAt, callbacks]⟩
  note := by rintro _ w note rfl -; simp [Host.polled, Host.logged, Host.stoppedAt, callbacks]
  cancelled := by rintro _ w rfl; rfl

section

variable (asked : Log K R → Bool) (site : Site)

theorem perform_polled (calls : List (Callback K R)) (w : ω × Log K R) :
    perform (host.polled asked) calls w = perform host.logged calls w := by
  induction calls generalizing w with
  | nil => rfl
  | cons c rest ih =>
    simp only [perform, ih]
    rfl

theorem call_polled (c : Callback K R) (w : ω × Log K R) :
    (host.polled asked).call c w = host.logged.call c w := rfl

theorem note_polled (note : Note) (w : ω × Log K R) :
    (host.polled asked).note note w = host.logged.note note w := rfl

theorem settle_polled (sections : Nat) (x : Outcome × ω × Log K R) :
    settle (host.polled asked) site sections x = settle host.logged site sections x := rfl

theorem tolerate_polled (x : Outcome × ω × Log K R) :
    tolerate (host.polled asked) site x = tolerate host.logged site x := rfl

theorem leaveForm_polled (name : String) (body : Outcome) (w : ω × Log K R) :
    leaveForm (host.polled asked) site name body w = leaveForm host.logged site name body w := rfl

theorem openFrame_polled (resolver : Resolver K R) (scope : R) (w : ω × Log K R) :
    openFrame (host.polled asked) resolver scope w = openFrame host.logged resolver scope w := rfl

theorem setUp_polled [Scalar K] (form : Form K R) (w : ω × Log K R) :
    setUp (host.polled asked) site form w = setUp host.logged site form w := by
  simp only [setUp, perform_polled]
  rfl

theorem polled_grows (log : Log K R) : Kept (host.polled asked) fun w => log <+: w.2 where
  call _ grown := grown.trans (List.prefix_append _ _)
  warn _ grown := grown.trans (List.prefix_append _ _)
  offer _ grown := grown.trans (List.prefix_append _ _)
  note _ grown _ := grown.trans (List.prefix_append _ _)

end

/-- Two runs from one point end alike, or have parted. Their results hold the logs. -/
def Parted {α : Type} (n : Nat) (names : List String) (log : α → Log K R) (x y : α) : Prop :=
  (x = y ∧ Standing n names (log x)) ∨ Apart n names (log x) (log y)

variable {n : Nat} {names : List String}

theorem parted_of {α : Type} {log : α → Log K R} {x y : α} {going leaving : Log K R}
    (first : log x = going) (second : log y = leaving) (apart : Apart n names going leaving) :
    Parted n names log x y := .inr (by rwa [first, second])

theorem settle_parted (site : Site) (sections : Nat) {x y : Outcome × ω × Log K R}
    (parted : Parted n names (·.2.2) x y) :
    Parted n names (·.2.2) (settle host.logged site sections x)
      (settle host.logged site sections y) := by
  obtain ⟨_, _, heard₁, e₁, settled₁⟩ := settle_logged host site sections x.1 x.2
  rcases parted with ⟨rfl, standing⟩ | apart
  · refine .inl ⟨rfl, ?_⟩
    rw [e₁]
    exact standing.silent (settled_hushed settled₁).2
  · obtain ⟨_, _, heard₂, e₂, settled₂⟩ := settle_logged host site sections y.1 y.2
    rw [e₁, e₂]
    exact .inr (apart.append heard₁ (settled_hushed settled₂).1)

def FormsParted (n : Nat) (forms₁ forms₂ : FormRunner K R (ω × Log K R)) : Prop :=
  ∀ names site name form scope w, Standing n names w.2 →
    Parted n names (·.2.2) (forms₁ site name form scope w) (forms₂ site name form scope w)

section

variable {forms₁ forms₂ : FormRunner K R (ω × Log K R)} (asked₁ asked₂ : Log K R → Bool)

theorem carryOut_parted (alike : FormsParted n forms₁ forms₂) (site : Site) (scope : R)
    (p : Plan K R) {w : ω × Log K R} (standing : Standing n names w.2) :
    Parted n names (·.2.2) (carryOut (host.polled asked₁) forms₁ site scope p w)
      (carryOut (host.polled asked₂) forms₂ site scope p w) := by
  obtain ⟨called, v, log, e, performed⟩ := perform_logged host p.calls w
  have after := standing.silent (performed_notes performed)
  simp only [carryOut, perform_polled, e]
  rcases called with signal | ⟨⟨⟩⟩
  · exact .inl ⟨rfl, after⟩
  · simp only [follow]
    rcases p.sequel with _ | warning | ⟨name, form⟩
    · exact .inl ⟨rfl, after⟩
    · exact .inl ⟨rfl, after⟩
    · exact alike names site name form scope (v, w.2 ++ log) after

variable [Scalar K]

theorem operate_parted (resolver : Resolver K R) (alike : FormsParted n forms₁ forms₂)
    (frame : Frame R) (site : Site) (op : Operation) {w : ω × Log K R}
    (standing : Standing n names w.2) :
    Parted n names (·.2.2.2) (operate (host.polled asked₁) resolver forms₁ frame site op w)
      (operate (host.polled asked₂) resolver forms₂ frame site op w) := by
  have same : (host.polled asked₁).features = (host.polled asked₂).features := rfl
  simp only [operate, settle_polled, same]
  split
  · rename_i signal _
    have refused : Parted n names (·.2.2) ((.error signal : Outcome), w) (.error signal, w) :=
      .inl ⟨rfl, standing⟩
    exact (settle_parted host site frame.sections refused).imp
      (fun together => ⟨rfl, together.2⟩) id
  · rename_i p _
    have carried := carryOut_parted host asked₁ asked₂ alike site frame.scope p standing
    exact (settle_parted host site p.sections carried).imp
      (fun together => ⟨by rw [together.1], together.2⟩) id

end

variable [Scalar K]

section

variable (asked : Log K R → Bool) (resolver : Resolver K R) (limit room : Nat)

theorem execute_grows (frame : Frame R) (index : Nat) (content : List Operation)
    (w : ω × Log K R) :
    ∃ later, (execute (host.polled asked) resolver
      (formRunner (host.polled asked) resolver limit room) frame index content w).2.2 =
        w.2 ++ later := by
  obtain ⟨later, e⟩ := (polled_grows host asked w.2).execute resolver limit room frame index content
    List.prefix_rfl
  exact ⟨later, e.symm⟩

theorem execute_stopped (forms : FormRunner K R (ω × Log K R)) (frame : Frame R) (index : Nat)
    (content : List Operation) {w : ω × Log K R} (stopped : asked w.2 = true) :
    ∃ heard, (execute (host.polled asked) resolver forms frame index content w).2.2 =
      w.2 ++ heard ∧ callbacks heard = [] := by
  cases content with
  | nil => exact ⟨[], (List.append_nil _).symm, rfl⟩
  | cons op rest =>
    have stop : (host.polled asked).cancelled w = true := stopped
    simp only [execute, stop, if_true]
    exact ⟨_, rfl, rfl⟩

theorem execute_taken {forms : FormRunner K R (ω × Log K R)} {frame : Frame R} {index : Nat}
    {op : Operation} {w : ω × Log K R} {answer : Except Failure Unit} {sections : Nat}
    {v : ω × Log K R} (going : asked w.2 = false)
    (operated : operate (host.polled asked) resolver forms frame ⟨op.operator, index⟩ op
      (host.logged.note (.dispatch op.operator index) w) = (answer, sections, v))
    (rest : List Operation) :
    execute (host.polled asked) resolver forms frame index (op :: rest) w =
      match answer with
      | .error failure => (.error failure, v)
      | .ok () =>
        execute (host.polled asked) resolver forms { frame with sections } (index + 1) rest v := by
  have unasked : (host.polled asked).cancelled w = false := going
  simp only [execute, unasked, Bool.false_eq_true, if_false, note_polled, operated]
  cases answer <;> rfl

theorem taken_grows {frame : Frame R} {index : Nat} {op : Operation} {w : ω × Log K R}
    {answer : Except Failure Unit} {sections : Nat} {v : ω × Log K R} (going : asked w.2 = false)
    (operated : operate (host.polled asked) resolver
      (formRunner (host.polled asked) resolver limit room) frame ⟨op.operator, index⟩ op
      (host.logged.note (.dispatch op.operator index) w) = (answer, sections, v))
    (rest : List Operation) :
    ∃ later, (execute (host.polled asked) resolver
      (formRunner (host.polled asked) resolver limit room) frame index (op :: rest) w).2.2 =
        v.2 ++ later := by
  rw [execute_taken host asked resolver going operated rest]
  rcases answer with failure | ⟨⟨⟩⟩
  · exact ⟨[], (List.append_nil _).symm⟩
  · exact execute_grows host asked resolver limit room { frame with sections } (index + 1) rest v

theorem taken_stopped {forms : FormRunner K R (ω × Log K R)} {frame : Frame R} {index : Nat}
    {op : Operation} {w : ω × Log K R} {answer : Except Failure Unit} {sections : Nat}
    {v : ω × Log K R} (going : asked w.2 = false)
    (operated : operate (host.polled asked) resolver forms frame ⟨op.operator, index⟩ op
      (host.logged.note (.dispatch op.operator index) w) = (answer, sections, v))
    (stopped : asked v.2 = true) (rest : List Operation) :
    ∃ heard, (execute (host.polled asked) resolver forms frame index (op :: rest) w).2.2 =
      v.2 ++ heard ∧ callbacks heard = [] := by
  rw [execute_taken host asked resolver going operated rest]
  rcases answer with failure | ⟨⟨⟩⟩
  · exact ⟨[], (List.append_nil _).symm, rfl⟩
  · exact execute_stopped host asked resolver forms { frame with sections } (index + 1) rest stopped

theorem execute_dispatches (frame : Frame R) (index : Nat) (op : Operation)
    (rest : List Operation) {w : ω × Log K R} (going : asked w.2 = false) :
    ∃ later, (execute (host.polled asked) resolver
      (formRunner (host.polled asked) resolver limit room) frame index (op :: rest) w).2.2 =
        w.2 ++ .note (.dispatch op.operator index) :: later := by
  have dispatched : (w.2 ++ [.note (.dispatch op.operator index)]) <+:
      (host.logged.note (.dispatch op.operator index) w).2 := List.prefix_rfl
  obtain ⟨more, grown⟩ := (polled_grows host asked _).operate resolver limit room frame
    ⟨op.operator, index⟩ op dispatched
  rcases operated : operate (host.polled asked) resolver
    (formRunner (host.polled asked) resolver limit room) frame ⟨op.operator, index⟩ op
    (host.logged.note (.dispatch op.operator index) w) with ⟨answer, sections, v⟩
  rw [operated] at grown
  obtain ⟨later, e⟩ := taken_grows host asked resolver limit room going operated rest
  refine ⟨more ++ later, ?_⟩
  rw [e, ← grown, List.append_assoc, List.append_assoc]
  rfl

end

variable {resolver : Resolver K R} {limit room : Nat}

theorem execute_parted
    (alike : FormsParted n (formRunner (host.polled never) resolver limit room)
      (formRunner (host.polled (reached n)) resolver limit room))
    (frame : Frame R) (index : Nat) (content : List Operation) {w : ω × Log K R}
    (standing : Standing n names w.2) :
    Parted n names (·.2.2)
      (execute (host.polled never) resolver (formRunner (host.polled never) resolver limit room)
        frame index content w)
      (execute (host.polled (reached n)) resolver
        (formRunner (host.polled (reached n)) resolver limit room) frame index content w) := by
  induction content generalizing frame index w with
  | nil => exact .inl ⟨rfl, standing⟩
  | cons op rest ih =>
    have unasked : never w.2 = false := rfl
    rcases Nat.lt_or_ge (callbacks w.2).length n with early | late
    · have going : reached n w.2 = false := decide_eq_false (Nat.not_le.mpr early)
      have dispatched : Standing n names (host.logged.note (.dispatch op.operator index) w).2 :=
        standing.dispatched early op.operator index
      have parted := operate_parted host never (reached n) resolver alike frame
        ⟨op.operator, index⟩ op dispatched
      rcases first : operate (host.polled never) resolver
        (formRunner (host.polled never) resolver limit room) frame ⟨op.operator, index⟩ op
        (host.logged.note (.dispatch op.operator index) w) with ⟨answer₁, sections₁, v₁⟩
      rcases second : operate (host.polled (reached n)) resolver
        (formRunner (host.polled (reached n)) resolver limit room) frame ⟨op.operator, index⟩ op
        (host.logged.note (.dispatch op.operator index) w) with ⟨answer₂, sections₂, v₂⟩
      rw [first, second] at parted
      rcases parted with ⟨same, standing⟩ | apart
      · cases same
        rw [execute_taken host never resolver unasked first rest,
          execute_taken host (reached n) resolver going second rest]
        rcases answer₁ with failure | ⟨⟨⟩⟩
        · exact .inl ⟨rfl, standing⟩
        · exact ih { frame with sections := sections₁ } (index + 1) standing
      -- The stop was asked for in the operation: the content around it is asked next.
      · obtain ⟨later, e₁⟩ := taken_grows host never resolver limit room unasked first rest
        obtain ⟨heard, e₂, mute⟩ := taken_stopped host (reached n) resolver going second
          (decide_eq_true apart.asked) rest
        exact parted_of e₁ e₂ (apart.append later mute)
    -- It was asked for before, and the runs part here.
    · obtain ⟨later, e₁⟩ := execute_dispatches host never resolver limit room frame index op rest
        unasked
      obtain ⟨heard, e₂, mute⟩ := execute_stopped host (reached n) resolver
        (formRunner (host.polled (reached n)) resolver limit room) frame index (op :: rest)
        (decide_eq_true late)
      exact parted_of e₁ e₂ ⟨w.2, _, heard, [], rfl, rfl, standing, late, rfl, mute⟩

def RunsParted (n : Nat) (run₁ run₂ : R → List Operation → ω × Log K R → Ending × ω × Log K R) :
    Prop :=
  ∀ names scope content w, Standing n names w.2 →
    Parted n names (·.2.2) (run₁ scope content w) (run₂ scope content w)

omit [Scalar K] in
theorem leaveForm_parted (site : Site) (name : String) {x y : Outcome × ω × Log K R}
    (parted : Parted n (name :: names) (·.2.2) x y) :
    Parted n names (·.2.2) (leaveForm host.logged site name x.1 x.2)
      (leaveForm host.logged site name y.1 y.2) := by
  obtain ⟨restored₁, _, e₁⟩ := leaveForm_logged host site name x.1 x.2
  have heard₁ := formOutcome_hushed (K := K) (R := R) site x.1 restored₁
  rcases parted with ⟨rfl, standing⟩ | apart
  · rw [e₁]
    rcases Nat.lt_or_ge (callbacks x.2.2).length n with early | late
    · exact .inl ⟨rfl, (standing.left early restored₁).silent heard₁.2⟩
    · refine .inr ⟨x.2.2, _, _, [name], List.append_assoc .., List.append_assoc .., standing, late,
        rfl, ?_⟩
      rw [callbacks_append, heard₁.1]
      rfl
  · obtain ⟨restored₂, _, e₂⟩ := leaveForm_logged host site name y.1 y.2
    have heard₂ := formOutcome_hushed (K := K) (R := R) site y.1 restored₂
    rw [e₁, e₂]
    exact .inr ((apart.left _ restored₂).append _ heard₂.1)

section

variable {run₁ run₂ : R → List Operation → ω × Log K R → Ending × ω × Log K R}
  (asked₁ asked₂ : Log K R → Bool)

theorem runBody_parted (alike : RunsParted n run₁ run₂) (site : Site) (form : Form K R) (scope : R)
    {w : ω × Log K R} (standing : Standing n names w.2) :
    Parted n names (·.2.2) (runBody (host.polled asked₁) run₁ site form scope w)
      (runBody (host.polled asked₂) run₂ site form scope w) := by
  obtain ⟨outcome, v, log, e, prepared⟩ := setUp_logged host site form w
  have ready := standing.silent (prepared_callbacks prepared).1
  simp only [runBody, setUp_polled, e]
  rcases outcome with signal | ⟨⟨⟩⟩
  · exact .inl ⟨rfl, ready⟩
  · have parted := alike names (form.scope.getD scope) form.content (v, w.2 ++ log) ready
    rcases first : run₁ (form.scope.getD scope) form.content (v, w.2 ++ log) with ⟨ending₁, u₁⟩
    rcases second : run₂ (form.scope.getD scope) form.content (v, w.2 ++ log) with ⟨ending₂, u₂⟩
    rw [first, second] at parted
    simp only [first, second]
    rcases parted with ⟨same, standing⟩ | apart
    · cases same
      cases ending₁ <;> exact .inl ⟨rfl, standing⟩
    · cases ending₁ <;> cases ending₂ <;> exact .inr apart

theorem runForm_parted (alike : RunsParted n run₁ run₂) (depth : Nat) :
    FormsParted n (runForm (host.polled asked₁) depth run₁)
      (runForm (host.polled asked₂) depth run₂) := by
  intro names site name form scope w standing
  obtain ⟨saved, v, called⟩ := call_logged host .save
    (host.note (.enter name depth) w.1, w.2 ++ [.note (.enter name depth)])
  obtain ⟨u, heard⟩ := tolerate_logged host site saved
    (v, w.2 ++ [.note (.enter name depth)] ++ [.call .save saved])
  have entering := (standing.entered name depth saved).silent
    (tolerated_hushed (K := K) (R := R) site saved).2
  have accepts := accepted_iff (K := K) (R := R) site saved
  rw [List.append_assoc w.2] at called heard
  simp only [runForm, note_polled, call_polled, tolerate_polled, leaveForm_polled, note_logged,
    called, heard]
  rcases answer : (tolerated site saved : Outcome × Log K R).1 with signal | ⟨⟨⟩⟩
  · have refused : ¬accepted saved := by simp [accepts, answer]
    rw [if_neg refused] at entering
    exact .inl ⟨rfl, entering⟩
  · rw [if_pos (accepts.mpr answer)] at entering
    exact leaveForm_parted host site name
      (runBody_parted host asked₁ asked₂ alike site form scope entering)

end

theorem run_parted (resolver : Resolver K R) (limit room : Nat) :
    RunsParted n (run (host.polled never) resolver limit room)
      (run (host.polled (reached n)) resolver limit room) := by
  have executed (room : Nat)
      (alike : FormsParted n (formRunner (host.polled never) resolver limit room)
        (formRunner (host.polled (reached n)) resolver limit room)) :
      RunsParted n (run (host.polled never) resolver limit room)
        (run (host.polled (reached n)) resolver limit room) := by
    intro names scope content w standing
    obtain ⟨frame, v, log, e, opened⟩ := openFrame_logged host resolver scope w
    simp only [run_eq, openFrame_polled, e]
    exact execute_parted host alike frame 0 content (standing.silent (opened_hushed opened).2)
  induction room with
  | zero => exact executed 0 fun names site name form scope w standing => .inl ⟨rfl, standing⟩
  | succ room ih =>
    exact executed (room + 1) (runForm_parted host never (reached n) ih (limit - room))

theorem histories_parted (positive : 0 < n) (resolver : Resolver K R) (limit : Nat) (scope : R)
    (content : List Operation) (w : ω) :
    (history host.unstopped resolver limit scope content w =
          history (host.stoppedAt n) resolver limit scope content (w, 0) ∧
        Standing n [] (history host.unstopped resolver limit scope content w)) ∨
      Apart n [] (history host.unstopped resolver limit scope content w)
        (history (host.stoppedAt n) resolver limit scope content (w, 0)) := by
  have fresh : Standing n [] (w, ([] : Log K R)).2 := ⟨whole_before positive, rfl⟩
  have linked := (stoppedAt_lockstep host n).run resolver limit limit scope content ((w, 0), [])
    (w, []) rfl
  have same : history (host.stoppedAt n) resolver limit scope content (w, 0) =
      (run (host.polled (reached n)) resolver limit limit scope content (w, [])).2.2 :=
    congrArg Prod.snd linked.2
  have parted := run_parted host resolver limit limit [] scope content (w, []) fresh
  rw [same]
  exact parted.imp (fun together => ⟨congrArg (·.2.2) together.1, together.2⟩) id

/-- A stop that is asked for during a callback changes nothing before the operation that makes the
callback is over, or the set-up of the form that it goes into. After that the forms open there are
left, by one restore each, and no other callback is made. -/
theorem stop_heeded (host : Host K R ω) (resolver : Resolver K R) (limit : Nat) (scope : R)
    (content : List Operation) (w : ω) (n : Nat) (positive : 0 < n)
    (made : n ≤ (callbacks (history host.unstopped resolver limit scope content w)).length) :
    ∃ done,
      Settles n (history host.unstopped resolver limit scope content w) done ∧
      done <+: history host.unstopped resolver limit scope content w ∧
      n ≤ (callbacks done).length ∧
      done <+: history (host.stoppedAt n) resolver limit scope content (w, 0) ∧
      callbacks (history (host.stoppedAt n) resolver limit scope content (w, 0)) =
        callbacks done ++ (openForms done).map fun _ => .restore := by
  rcases histories_parted host positive resolver limit scope content w with
    ⟨same, standing⟩ | ⟨done, tail, way, inner, going, leaving, standing, late, turn, restores⟩
  · have settles := standing.settles positive made (rfl : leaves [] = false) rfl
    rw [List.append_nil] at settles
    refine ⟨_, settles, List.prefix_rfl, made, same ▸ List.prefix_rfl, ?_⟩
    rw [← same, openForms, standing.forms]
    exact (List.append_nil _).symm
  · have settles := standing.settles positive late (leaves_turn turn) (settling_turn turn)
    refine ⟨done, going ▸ settles, ⟨tail, going.symm⟩, late, ⟨way, leaving.symm⟩, ?_⟩
    rw [leaving, callbacks_append, restores, openForms, standing.forms, List.append_nil]

def inItself : Form Float Unit :=
  ⟨⟨1, 0, 0, 1, 0, 0⟩, none, [⟨"Do", [.name [70]]⟩, ⟨"n", []⟩], none⟩

def drawnAgain : Resolver Float Unit :=
  { Resolver.none Float Unit with xobject := fun _ _ => .ok (some (.form inItself)) }

def goingIn : List (Callback Float Unit) :=
  [.drawXObject "F" (some (.form inItself)), .save, .concat inItself.matrix]

def drawnThrough : Log Float Unit :=
  let host : Host Float Unit (Nat × Unit) := .of (counter Float Unit) (.strict Unit) fun _ => false
  history host.unstopped drawnAgain 2 () [⟨"Do", [.name [70]]⟩] (0, ())

def drawnUntil (n : Nat) : Log Float Unit :=
  let host : Host Float Unit (Nat × Unit) := .of (counter Float Unit) (.strict Unit) fun _ => false
  history (host.stoppedAt n) drawnAgain 2 () [⟨"Do", [.name [70]]⟩] ((0, ()), 0)

/-- Stopped while a third form is announced, which is too deep, it leaves the two that are open. -/
theorem stop_heeded_inside :
    callbacks drawnThrough = goingIn ++ goingIn ++
        [.drawXObject "F" (some (.form inItself)), .endPath, .restore, .endPath, .restore] ∧
      callbacks (drawnUntil 7) = goingIn ++ goingIn ++
        [.drawXObject "F" (some (.form inItself)), .restore, .restore] ∧
      ∃ done, Settles 7 drawnThrough done ∧ done <+: drawnThrough ∧ 7 ≤ (callbacks done).length ∧
        done <+: drawnUntil 7 ∧
        callbacks (drawnUntil 7) = callbacks done ++ (openForms done).map fun _ => .restore := by
  have whole : callbacks drawnThrough = goingIn ++ goingIn ++
      [.drawXObject "F" (some (.form inItself)), .endPath, .restore, .endPath, .restore] := rfl
  have made : 7 ≤ (callbacks drawnThrough).length := by
    rw [whole]
    decide
  exact ⟨whole, rfl, stop_heeded _ drawnAgain 2 () _ (0, ()) 7 (by decide) made⟩

end Interpreter
end PageMarks
