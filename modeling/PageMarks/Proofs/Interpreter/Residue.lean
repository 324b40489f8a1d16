import Mathlib.Data.List.Induction
import PageMarks.Interpreter.Session

/-!
Nothing stays behind. A session runs content as `process` does, for which there is no session: frames
and tokens are taken away again however the content ends, and what is found in a slot is what would be
derived anew.
-/

namespace PageMarks

def Host.until {K R ω : Type} (host : Host K R ω) (token : Option (ω → Bool)) : Host K R ω :=
  { host with cancelled := fun w => token.any fun token => token w }

namespace Interpreter

variable {K R ω κ α : Type}

section

variable (host : Host K R ω) (token : Option (ω → Bool))

theorem perform_until (calls : List (Callback K R)) (w : ω) :
    perform (host.until token) calls w = perform host calls w := by
  induction calls generalizing w with
  | nil => rfl
  | cons c rest ih =>
    simp only [perform, ih]
    rfl

theorem setUp_until [Scalar K] (site : Site) (form : Form K R) (w : ω) :
    setUp (host.until token) site form w = setUp host site form w := by
  simp only [setUp, perform_until]
  rfl

end

namespace Session

variable [Scalar K] (place : Placement ω κ)

/-- Slots hold what would be derived anew. -/
def Honest (slots : κ → Option (Derived K)) : Prop :=
  ∀ w op derived, slots (place.slot w op) = some derived → derived = derive op.operands

/-- A session with honest slots, by all else that is in it. -/
structure Stands (frames : List (Frame R)) (token : Option (ω → Bool)) (w : ω)
    (s : Session K R ω κ) : Prop where
  frames : s.frames = frames
  token : s.token = token
  world : s.world = w
  honest : Honest place s.slots

/-- A result with the world after it, and the same result with a session. -/
structure Gives (frames : List (Frame R)) (token : Option (ω → Bool)) (expected : α × ω)
    (got : α × Session K R ω κ) : Prop where
  same : got.1 = expected.1
  stands : Stands place frames token expected.2 got.2

variable {place} {frames below : List (Frame R)} {frame : Frame R} {token : Option (ω → Bool)} {w : ω}
  {s : Session K R ω κ}

theorem act_gives (stands : Stands place frames token w s) (f : ω → α × ω) :
    Gives place frames token (f w) (s.act f) := by
  obtain ⟨rfl, rfl, rfl, honest⟩ := stands
  exact ⟨rfl, rfl, rfl, rfl, honest⟩

theorem Gives.split {expected : α × ω} {got : α × Session K R ω κ}
    (gives : Gives place frames token expected got) :
    ∃ a v t, expected = (a, v) ∧ got = (a, t) ∧ Stands place frames token v t :=
  ⟨expected.1, expected.2, got.2, rfl, by rw [← gives.same], gives.stands⟩

variable (host : Host K R ω)

theorem note_stands (stands : Stands place frames token w s) (note : Note) :
    Stands place frames token (host.note note w) { s with world := host.note note s.world } := by
  obtain ⟨rfl, rfl, rfl, honest⟩ := stands
  exact ⟨rfl, rfl, rfl, honest⟩

theorem settle_gives (stands : Stands place (frame :: below) token w s) (site : Site)
    (outcome : Outcome) :
    Gives place (frame :: below) token
      (Interpreter.settle (host.until token) site frame.sections (outcome, w))
      (settle host site outcome s) := by
  have sections : s.sections = frame.sections := by
    rw [Session.sections, stands.frames]
    rfl
  have settled := act_gives stands fun w => Interpreter.settle host site frame.sections (outcome, w)
  rw [settle, sections]
  exact settled

def FormsGive (place : Placement ω κ) (below : List (Frame R)) (token : Option (ω → Bool))
    (forms : Interpreter.FormRunner K R ω) (runner : FormRunner K R ω κ) : Prop :=
  ∀ site name form scope w frame s, Stands place (frame :: below) token w s →
    Gives place (frame :: below) token (forms site name form scope w) (runner site name form scope s)

variable {forms : Interpreter.FormRunner K R ω} {runner : FormRunner K R ω κ}

theorem carryOut_gives (formsGive : FormsGive place below token forms runner)
    (stands : Stands place (frame :: below) token w s) (site : Site) (p : Plan K R) :
    Gives place (frame :: below) token
      (Interpreter.carryOut (host.until token) forms site frame.scope p w)
      (carryOut host runner site frame.scope p s) := by
  obtain ⟨outcome, v, t, performed, acted, stands⟩ :=
    (act_gives stands (perform host p.calls)).split
  simp only [Interpreter.carryOut, perform_until, performed, carryOut, acted]
  rcases outcome with signal | ⟨⟨⟩⟩
  · exact ⟨rfl, stands⟩
  · dsimp only [Interpreter.follow]
    cases p.sequel with
    | nothing | report => exact ⟨rfl, stands⟩
    | enter name form => exact formsGive site name form frame.scope v frame t stands

variable [DecidableEq κ]

theorem remember_gives (stands : Stands place frames token w s) (op : Operation) :
    Gives place frames token (derive op.operands, w) (s.remember place op) := by
  obtain ⟨rfl, rfl, rfl, honest⟩ := stands
  unfold remember
  dsimp only
  cases warm : s.slots (place.slot s.world op) with
  | some derived => exact ⟨honest _ op derived warm, rfl, rfl, rfl, honest⟩
  | none =>
    refine ⟨rfl, rfl, rfl, rfl, fun v other derived found => ?_⟩
    dsimp only at found
    split at found
    · next same =>
      cases found
      rw [place.own same]
    · exact honest v other derived found

omit [DecidableEq κ] in
theorem inlineImage_derived (resolver : Resolver K R) (features : Features) (frame : Frame R)
    (op : Operation) :
    inlineImage resolver features frame op =
      rememberedImage resolver features frame op (derive op.operands) := by
  unfold inlineImage derive
  cases InlineImage.ofContent (K := K) op.operands <;> rfl

variable (resolver : Resolver K R)

theorem prepare_gives (stands : Stands place frames token w s) (op : Operation) :
    Gives place frames token (plan resolver (host.features w) frame op, w)
      (prepare host place resolver frame op s) := by
  unfold prepare
  by_cases image : op.kind? = some .inlineImage
  · obtain ⟨derived, v, t, expected, remembered, stands⟩ := (remember_gives stands op).split
    cases expected
    rw [if_pos image, remembered]
    refine ⟨?_, stands⟩
    dsimp only
    rw [plan, image, stands.world]
    change _ = (inlineImage resolver (host.features w) frame op >>= _)
    rw [inlineImage_derived]
    cases rememberedImage resolver (host.features w) frame op (derive op.operands) <;> rfl
  · rw [if_neg image, stands.world]
    exact ⟨rfl, stands⟩

theorem operate_gives (formsGive : FormsGive place below token forms runner)
    (stands : Stands place (frame :: below) token w s) (site : Site) (op : Operation) :
    ∃ answer sections v t,
      Interpreter.operate (host.until token) resolver forms frame site op w = (answer, sections, v) ∧
        operate host place resolver runner site op s = (answer, t) ∧
        Stands place ({ frame with sections } :: below) token v t := by
  obtain ⟨planned, v, t, expected, prepared, ready⟩ :=
    (prepare_gives host resolver stands op).split
  obtain ⟨plans, rfl⟩ := Prod.mk.inj expected
  have plans : plan resolver ((host.until token).features w) frame op = planned := plans
  simp only [Interpreter.operate, plans, operate, stands.frames, prepared]
  cases planned with
  | error signal =>
    obtain ⟨answer, v, u, settled, heard, stands⟩ :=
      (settle_gives host ready site (.error signal)).split
    exact ⟨answer, frame.sections, v, u, by simp only [settled], heard, stands⟩
  | ok p =>
    have begun : Stands place ({ frame with sections := p.sections } :: below) token w
        { t with frames := { frame with sections := p.sections } :: below } :=
      ⟨rfl, ready.token, ready.world, ready.honest⟩
    obtain ⟨outcome, v, u, carries, carried, after⟩ :=
      (carryOut_gives host formsGive begun site p).split
    obtain ⟨answer, r, q, settles, settled, done⟩ := (settle_gives host after site outcome).split
    dsimp only at carries carried settles ⊢
    rw [carries, carried]
    dsimp only
    exact ⟨answer, p.sections, r, q, by rw [settles], settled, done⟩

theorem execute_gives (formsGive : FormsGive place below token forms runner) (index : Nat)
    (content : List Operation) (stands : Stands place (frame :: below) token w s) :
    ∃ sections, Gives place ({ frame with sections } :: below) token
      (Interpreter.execute (host.until token) resolver forms frame index content w)
      (execute host place resolver runner index content s) := by
  induction content generalizing frame index w s with
  | nil => exact ⟨frame.sections, rfl, stands⟩
  | cons op rest ih =>
    have stopped : s.stopped = (host.until token).cancelled w := by
      rw [Session.stopped, stands.token, stands.world]
      rfl
    simp only [Interpreter.execute, execute, stopped]
    split
    · exact ⟨frame.sections, rfl, note_stands host stands (.stop index)⟩
    · obtain ⟨answer, sections, v, t, operates, operated, after⟩ :=
        operate_gives host resolver formsGive (note_stands host stands (.dispatch op.operator index))
          ⟨op.operator, index⟩ op
      have operates : Interpreter.operate (host.until token) resolver forms frame ⟨op.operator, index⟩
          op ((host.until token).note (.dispatch op.operator index) w) = (answer, sections, v) :=
        operates
      rw [operates, operated]
      cases answer with
      | error failure => exact ⟨sections, rfl, after⟩
      | ok => exact @ih { frame with sections } _ _ (index + 1) after

theorem runFrame_gives {limit room : Nat} (formsGive : FormsGive place frames token
      (Interpreter.formRunner (host.until token) resolver limit room) runner)
    (scope : R) (content : List Operation) (stands : Stands place frames token w s) :
    Gives place frames token (Interpreter.run (host.until token) resolver limit room scope content w)
      (runFrame host place resolver runner scope content s) := by
  obtain ⟨frame, v, t, opens, opened, after⟩ :=
    (act_gives stands (openFrame host resolver scope)).split
  have opens : openFrame (host.until token) resolver scope w = (frame, v) := opens
  have pushed : Stands place (frame :: frames) token v { t with frames := frame :: t.frames } :=
    ⟨congrArg _ after.frames, after.token, after.world, after.honest⟩
  obtain ⟨sections, executed⟩ := execute_gives host resolver formsGive 0 content pushed
  obtain ⟨ending, u, r, executes, executed, done⟩ := executed.split
  simp only [run_eq, opens, executes, runFrame, opened, executed]
  exact ⟨rfl, congrArg List.tail done.frames, done.token, done.world, done.honest⟩

omit [DecidableEq κ] in
theorem runBody_gives {run : R → List Operation → ω → Ending × ω}
    {runner : R → List Operation → Session K R ω κ → Ending × Session K R ω κ}
    (gives : ∀ scope content w s, Stands place frames token w s →
      Gives place frames token (run scope content w) (runner scope content s))
    (stands : Stands place frames token w s) (site : Site) (form : Form K R) (scope : R) :
    Gives place frames token (Interpreter.runBody (host.until token) run site form scope w)
      (runBody host runner site form scope s) := by
  obtain ⟨ready, v, t, sets, set, after⟩ := (act_gives stands (setUp host site form)).split
  simp only [Interpreter.runBody, setUp_until, sets, runBody, set]
  rcases ready with signal | ⟨⟨⟩⟩
  · exact ⟨rfl, after⟩
  · obtain ⟨ending, u, r, runs, ran, done⟩ :=
      (gives (form.scope.getD scope) form.content v t after).split
    simp only [runs, ran]
    cases ending <;> exact ⟨rfl, done⟩

theorem formRunner_gives {limit room : Nat} (fits : below.length + room = limit) :
    FormsGive place below token (Interpreter.formRunner (host.until token) resolver limit room)
      (formRunner host place resolver limit room) := by
  induction room generalizing below with
  | zero => exact fun site name form scope w frame s stands => act_gives stands _
  | succ room ih =>
    intro site name form scope w frame s stands
    have deeper : (frame :: below).length + room = limit := by
      rw [List.length_cons]
      omega
    have depth : s.frames.length = limit - room := by
      rw [stands.frames]
      omega
    have shallow : ¬ limit < limit - room := by omega
    simp only [Interpreter.formRunner, Interpreter.runForm, formRunner, runForm, depth, if_neg shallow]
    obtain ⟨saved, v, t, saves, entered, ready⟩ := (act_gives stands fun w =>
      tolerate host site (host.call .save (host.note (.enter name (limit - room)) w))).split
    have saves : tolerate (host.until token) site ((host.until token).call .save
        ((host.until token).note (.enter name (limit - room)) w)) = (saved, v) := saves
    rw [saves, entered]
    rcases saved with signal | ⟨⟨⟩⟩
    · exact ⟨rfl, ready⟩
    · obtain ⟨outcome, u, r, runs, ran, after⟩ := (runBody_gives host
        (fun scope content _ _ => runFrame_gives host resolver (ih deeper) scope content)
        ready site form scope).split
      dsimp only
      rw [runs, ran]
      exact act_gives after (leaveForm host site name outcome)

theorem run_gives {limit : Nat} (scope : R) (content : List Operation)
    (stands : Stands place [] token w s) :
    Gives place [] token (Interpreter.process (host.until token) resolver limit scope content w)
      (run host place resolver limit scope content s) :=
  runFrame_gives host resolver (formRunner_gives host resolver (Nat.zero_add limit)) scope content stands

omit [DecidableEq κ] in
theorem new_stands (place : Placement ω κ) (w : ω) :
    Stands place [] none w (Session.new w : Session K R ω κ) :=
  ⟨rfl, rfl, rfl, fun _ _ _ found => nomatch found⟩

theorem serve_gives (limit : Nat) (job : Job R ω) (stands : Stands place [] none w s) :
    Gives place [] none
      (Interpreter.process (host.until job.token) resolver limit job.scope job.content w)
      (serve host place resolver limit job s) := by
  obtain ⟨token, scope, content⟩ := job
  have ready : Stands place [] token w { s with token } :=
    ⟨stands.frames, rfl, stands.world, stands.honest⟩
  have ran : Gives place [] token
      (Interpreter.process (host.until token) resolver limit scope content w)
      (run host place resolver limit scope content { s with token }) :=
    run_gives host resolver scope content ready
  cases token with
  | none => exact ran
  | some token => exact ⟨ran.same, ran.stands.frames, rfl, ran.stands.world, ran.stands.honest⟩

def served (host : Host K R ω) (place : Placement ω κ) (resolver : Resolver K R) (limit : Nat)
    (jobs : List (Job R ω)) (w : ω) : Session K R ω κ :=
  jobs.foldl (fun s job => (serve host place resolver limit job s).2) (Session.new w)

theorem served_stands (place : Placement ω κ) (limit : Nat) (jobs : List (Job R ω)) (w : ω) :
    ∃ v, Stands place [] none v (served host place resolver limit jobs w) := by
  induction jobs using List.reverseRecOn with
  | nil => exact ⟨w, new_stands place w⟩
  | append_singleton jobs job ih =>
    obtain ⟨v, stands⟩ := ih
    have done := serve_gives host resolver limit job stands
    rw [served, List.foldl_append]
    exact ⟨_, done.stands⟩

end Session
end Interpreter
end PageMarks
