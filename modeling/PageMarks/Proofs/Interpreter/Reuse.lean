import Mathlib.Data.List.Forall2
import PageMarks.Engine
import PageMarks.Proofs.Interpreter.Depth
import PageMarks.Proofs.Interpreter.Plan
import PageMarks.Proofs.Interpreter.Residue
import PageMarks.Proofs.Interpreter.Transcript

/-!
One interpreter for two contents. What is run after a content that has finished, and has left no
compatibility section open, is run as it would be in the same content: in the same frame, but numbered
from the beginning. The main statement compares the logs of the two.
-/

namespace PageMarks.Interpreter

variable {K R ω : Type}

def openAfter (sections : Nat) (content : List Operation) : Nat :=
  content.foldl sectionsAfter sections

section

variable [Scalar K] {resolver : Resolver K R} {features : Features} {frame : Frame R} {op : Operation}

theorem refused_sections {signal : Signal}
    (refused : plan resolver features frame op = .error signal) :
    sectionsAfter frame.sections op = frame.sections := by
  unfold sectionsAfter
  split
  · next begins =>
    rw [plan, begins] at refused
    cases refused
  · next ends =>
    rw [plan, ends] at refused
    simp only [endCompatibility] at refused
    split at refused
    · next closed => rw [closed]
    · cases refused
  · rfl

variable {host : Host K R ω} {forms : FormRunner K R ω}

theorem operate_sections (site : Site) (w : ω) :
    (operate host resolver forms frame site op w).2.1 = sectionsAfter frame.sections op := by
  unfold operate
  cases planned : plan resolver (host.features w) frame op with
  | error signal => exact (refused_sections planned).symm
  | ok p => exact plan_sections p planned

theorem execute_append (content later : List Operation) (index : Nat) (w : ω)
    (finished : (execute host resolver forms frame index content w).1 = .ok .finished) :
    execute host resolver forms frame index (content ++ later) w =
      execute host resolver forms { frame with sections := openAfter frame.sections content }
        (index + content.length) later (execute host resolver forms frame index content w).2 := by
  induction content generalizing frame index w with
  | nil => rfl
  | cons op rest ih =>
    rw [List.cons_append]
    simp only [execute] at finished ⊢
    cases asked : host.cancelled w with
    | true =>
      rw [asked] at finished
      cases finished
    | false =>
      simp only [asked, Bool.false_eq_true, if_false] at finished ⊢
      rcases operated : operate host resolver forms frame ⟨op.operator, index⟩ op
        (host.note (.dispatch op.operator index) w) with ⟨failure | ⟨⟨⟩⟩, after, v⟩
      · rw [operated] at finished
        cases finished
      · have sections := congrArg (fun result => result.2.1) operated
        rw [operate_sections] at sections
        rw [operated] at finished
        dsimp only at finished sections ⊢
        rw [← sections] at finished
        rw [← sections, ih _ _ finished]
        simp only [openAfter, List.foldl_cons, List.length_cons, Nat.add_assoc, Nat.add_comm 1]

end

/-- A note about content, and the one of the same content where it is numbered from `shift` on. -/
inductive Renoted (shift : Nat) : Note → Note → Prop
  | same (note : Note) : Renoted shift note note
  | dispatch (operator : String) (index : Nat) :
    Renoted shift (.dispatch operator index) (.dispatch operator (index + shift))
  | stop (index : Nat) : Renoted shift (.stop index) (.stop (index + shift))

inductive Renumbered (shift : Nat) : Entry K R → Entry K R → Prop
  | same (entry : Entry K R) : Renumbered shift entry entry
  | note {note moved : Note} : Renoted shift note moved → Renumbered shift (.note note) (.note moved)
  | warning (w : Warning) (operator : String) (index : Nat) :
    Renumbered shift (.warning (w.attach operator index)) (.warning (w.attach operator (index + shift)))

def asks : Entry K R → Bool
  | .call .. | .offer .. => true
  | _ => false

def requests (log : Log K R) : Log K R := log.filter asks

theorem requests_append (log later : Log K R) :
    requests (log ++ later) = requests log ++ requests later := List.filter_append ..

theorem requests_renumbered {shift : Nat} {log moved : Log K R}
    (renumbered : List.Forall₂ (Renumbered shift) log moved) : requests log = requests moved := by
  induction renumbered with
  | nil => rfl
  | @cons entry _ log moved related _ ih =>
    cases related with
    | same =>
      rw [requests, requests, List.filter_cons, List.filter_cons]
      exact congrArg (fun log => if asks entry then entry :: log else log) ih
    | note | warning => exact ih

theorem requests_defaultOf (resolver : Resolver K R) (scope : R) (name : String) (wanted : Nat) :
    requests (defaultOf resolver scope name wanted).2 = [] := by
  unfold defaultOf
  dsimp only
  split
  · rfl
  · rfl
  · split <;> rfl

theorem requests_opened {resolver : Resolver K R} {scope : R} {frame : Frame R} {log : Log K R}
    (opened : Opened resolver scope frame log) : requests log = [] := by
  cases opened with
  | wanted => simp only [requests_append, requests_defaultOf, List.append_nil]
  | declined => rfl

/-- A part of the world decides what a host answers. Warnings leave it alone, and notes change it in
the same way whatever their numbers. -/
structure DecidedBy {π : Type} (part : ω → π) (host : Host K R ω) : Prop where
  features {w v : ω} : part w = part v → host.features w = host.features v
  call {w v : ω} (c : Callback K R) :
    part w = part v → Alike (fun x y => part x = part y) (host.call c w) (host.call c v)
  offer {w v : ω} (failure : Failure) :
    part w = part v → Alike (fun x y => part x = part y) (host.offer failure w) (host.offer failure v)
  cancelled {w v : ω} : part w = part v → host.cancelled w = host.cancelled v
  warn (warning : Warning) (w : ω) : part (host.warn warning w) = part w
  note {w v : ω} {shift : Nat} {note moved : Note} :
    Renoted shift note moved → part w = part v → part (host.note note w) = part (host.note moved v)

/-- So it is for every device, beside a handler whose answers do not depend on warnings. -/
theorem decidedBy_of {σ η μ : Type} (device : Device K R σ) {handler : Handler η} {memory : η → μ}
    (warn : ∀ warning h, memory (handler.warn warning h) = memory h)
    (offer : ∀ failure h k, memory h = memory k →
      Alike (fun x y => memory x = memory y) (handler.offer failure h) (handler.offer failure k))
    (cancelled : σ → Bool) (token : Option (σ → Bool)) :
    DecidedBy (fun w => (w.1, memory w.2))
      ((Host.of device handler cancelled).until (token.map fun stop w => stop w.1)) where
  features same := congrArg device.features (Prod.mk.inj same).1
  call := by
    rintro ⟨s, h⟩ ⟨t, k⟩ c same
    obtain ⟨rfl, same⟩ := Prod.mk.inj same
    exact ⟨rfl, Prod.ext rfl same⟩
  offer := by
    rintro ⟨s, h⟩ ⟨t, k⟩ failure same
    obtain ⟨rfl, same⟩ := Prod.mk.inj same
    obtain ⟨answer, after⟩ := offer failure h k same
    exact ⟨answer, Prod.ext rfl after⟩
  cancelled := by
    rintro ⟨s, h⟩ ⟨t, k⟩ same
    obtain ⟨rfl, -⟩ := Prod.mk.inj same
    cases token <;> rfl
  warn warning w := Prod.ext rfl (warn warning w.2)
  note _ same := same

def Beside {π : Type} (part : ω → π) (shift : Nat) (base other : Log K R) (x y : ω × Log K R) : Prop :=
  part x.1 = part y.1 ∧ ∃ log moved, x.2 = base ++ log ∧ y.2 = other ++ moved ∧
    List.Forall₂ (Renumbered shift) log moved

section

variable {π : Type} {part : ω → π} {host : Host K R ω} {shift : Nat} {base other : Log K R}
  {x y : ω × Log K R}

theorem Beside.grow (beside : Beside part shift base other x y) {w v : ω} (same : part w = part v)
    {entry moved : Entry K R} (renumbered : Renumbered shift entry moved) :
    Beside part shift base other (w, x.2 ++ [entry]) (v, y.2 ++ [moved]) := by
  obtain ⟨-, log, grown, first, second, all⟩ := beside
  exact ⟨same, log ++ [entry], grown ++ [moved], by rw [first, List.append_assoc],
    by rw [second, List.append_assoc], List.rel_append all (.cons renumbered .nil)⟩

variable (decided : DecidedBy part host)
include decided

theorem warn_same (warning other : Warning) {w v : ω} (same : part w = part v) :
    part (host.warn warning w) = part (host.warn other v) := by
  rw [decided.warn, decided.warn, same]

theorem beside_lockstep : Lockstep host.logged host.logged (Beside part shift base other) where
  features related := decided.features related.1
  call := by
    intro x y c related
    obtain ⟨answer, v, u, first, second, same⟩ := (decided.call c related.1).split
    simp only [Host.logged, first, second]
    exact ⟨rfl, related.grow same (.same _)⟩
  warn warning related := related.grow (warn_same decided warning warning related.1) (.same _)
  offer := by
    intro x y failure related
    obtain ⟨answer, v, u, first, second, same⟩ := (decided.offer failure related.1).split
    simp only [Host.logged, first, second]
    exact ⟨rfl, related.grow same (.same _)⟩
  note note related _ := by
    have renoted : Renoted shift note note := .same note
    exact related.grow (decided.note renoted related.1) (.note renoted)
  cancelled related := decided.cancelled related.1

theorem beside_sites (operator : String) (index : Nat) :
    Lockstep.SameSite host.logged host.logged (Beside part shift base other) ⟨operator, index⟩
      ⟨operator, index + shift⟩ where
  operator := rfl
  heard warning related :=
    related.grow (warn_same decided _ _ related.1) (.warning warning operator index)
  taken related _ :=
    related.grow (decided.note (.dispatch operator index) related.1) (.note (.dispatch operator index))
  stopped related _ := related.grow (decided.note (.stop index) related.1) (.note (.stop index))

variable [Scalar K]

theorem execute_beside (resolver : Resolver K R) (limit : Nat) (frame : Frame R)
    (content : List Operation) (x y : ω × Log K R) (same : part x.1 = part y.1) :
    Alike (Beside part shift x.2 y.2)
      (execute host.logged resolver (formRunner host.logged resolver limit limit) frame 0 content x)
      (execute host.logged resolver (formRunner host.logged resolver limit limit) frame shift content
        y) := by
  have together : Lockstep host.logged host.logged (Beside part shift x.2 y.2) :=
    beside_lockstep decided
  have start : Beside part shift x.2 y.2 x y :=
    ⟨same, [], [], (List.append_nil _).symm, (List.append_nil _).symm, .nil⟩
  have sites (operator : String) (index : Nat) : Lockstep.SameSite host.logged host.logged
      (Beside part shift x.2 y.2) ⟨operator, index⟩ ⟨operator, index + shift⟩ :=
    beside_sites decided operator index
  have alike := together.executeFrom resolver sites
    (fun operator index => together.formRunnerAt resolver limit limit (sites operator index))
    frame 0 content start
  rwa [Nat.zero_add] at alike

end

section

variable {π : Type} {part : ω → π} {host : Host K R ω} (decided : DecidedBy part host)
  (resolver : Resolver K R) (limit : Nat) (scope : R)
include decided

theorem openFrame_again {x y : ω × Log K R}
    (wanted : host.logged.features x .colorSpace = host.logged.features y .colorSpace) :
    ∃ frame opening w v, openFrame host.logged resolver scope x = (frame, w, x.2 ++ opening) ∧
      openFrame host.logged resolver scope y = (frame, v, y.2 ++ opening) ∧
      Opened resolver scope frame opening ∧ part v = part y.1 := by
  let Rel (u v : ω × Log K R) : Prop :=
    (∃ log, u.2 = x.2 ++ log ∧ v.2 = y.2 ++ log) ∧ part v.1 = part y.1
  have warns : ∀ {u v : ω × Log K R} (warning : Warning),
      Rel u v → Rel (host.logged.warn warning u) (host.logged.warn warning v) := by
    rintro u v warning ⟨⟨log, first, second⟩, same⟩
    refine ⟨⟨log ++ [.warning warning], ?_, ?_⟩, (decided.warn warning v.1).trans same⟩
    · rw [← List.append_assoc, ← first]
      rfl
    · rw [← List.append_assoc, ← second]
      rfl
  have start : Rel x y := ⟨⟨[], (List.append_nil _).symm, (List.append_nil _).symm⟩, rfl⟩
  obtain ⟨frame, w, opening, first, opened⟩ := openFrame_logged host resolver scope x
  obtain ⟨same, ⟨log, grown, again⟩, untouched⟩ :=
    openFrame_alike warns resolver scope wanted start
  rw [first] at same grown
  rw [← List.append_cancel_left grown] at again
  exact ⟨frame, opening, w, (openFrame host.logged resolver scope y).2.1, first,
    Prod.ext same.symm (Prod.ext rfl again), opened, untouched⟩

end

variable [Scalar K]

/-- How a run of content by itself, behind other content of its scope, compares with how the other
content goes on with it from its `shift`-th operation on; `before` is the log so far. -/
structure Rejoined (resolver : Resolver K R) (limit : Nat) (scope : R) (shift : Nat)
    (content : List Operation) (before : Log K R) (apart joined : Ending × Log K R) : Prop where
  ending : apart.1 = joined.1
  requests : requests apart.2 = Interpreter.requests joined.2
  logs : ∃ frame opening log moved, Opened resolver scope frame opening ∧ opening <:+: before ∧
    apart.2 = before ++ (opening ++ log) ∧ joined.2 = before ++ moved ∧
    Transcript resolver limit (.content 0 frame 0 content apart.1) log ∧
    Transcript resolver limit (.content 0 frame shift content joined.1) moved ∧
    List.Forall₂ (Renumbered shift) log moved

section

variable {π : Type} {part : ω → π} {host : Host K R ω} (decided : DecidedBy part host)
  (resolver : Resolver K R) (limit : Nat) (scope : R)

theorem process_append (content later : List Operation) (w : ω)
    (finished : (process host resolver limit scope content w).1 = .ok .finished)
    (closed : openAfter 0 content = 0) :
    process host resolver limit scope (content ++ later) w =
      execute host resolver (formRunner host resolver limit limit)
        (openFrame host resolver scope w).1 content.length later
        (process host resolver limit scope content w).2 := by
  have outside : (openFrame host resolver scope w).1.sections = 0 := by
    unfold openFrame
    split <;> rfl
  simp only [process, run_eq] at finished ⊢
  rw [execute_append content later 0 _ finished, outside, closed, Nat.zero_add, ← outside]

include decided

theorem process_again (content later : List Operation) (x : ω × Log K R) :
    let first := process host.logged resolver limit scope content x
    let second := process host.logged resolver limit scope later first.2
    let whole := process host.logged resolver limit scope (content ++ later) x
    first.1 = .ok .finished → openAfter 0 content = 0 →
      host.features x.1 .colorSpace = host.features first.2.1 .colorSpace →
      Rejoined resolver limit scope content.length later first.2.2 (second.1, second.2.2)
        (whole.1, whole.2.2) := by
  intro first second whole finished closed wanted
  obtain ⟨frame, opening, w, v, opens, reopens, opened, same⟩ :=
    openFrame_again decided resolver scope wanted
  have started : first = execute host.logged resolver (formRunner host.logged resolver limit limit)
      frame 0 content (w, x.2 ++ opening) := by
    simp only [first, process, run_eq, opens]
  have joined : whole = execute host.logged resolver (formRunner host.logged resolver limit limit)
      frame content.length later first.2 := by
    have append := process_append resolver limit scope content later x finished closed
    rwa [opens] at append
  have apart : second = execute host.logged resolver (formRunner host.logged resolver limit limit)
      frame 0 later (v, first.2.2 ++ opening) := by
    simp only [second, process, run_eq, reopens]
  have runner : FormsLogged resolver limit (limit - limit)
      (formRunner host.logged resolver limit limit) := formRunner_logged host limit (Nat.le_refl limit)
  rw [Nat.sub_self] at runner
  obtain ⟨_, _, before, ran, -⟩ := execute_logged host runner frame 0 content (w, x.2 ++ opening)
  obtain ⟨_, _, log, ranApart, rules⟩ :=
    execute_logged host runner frame 0 later (v, first.2.2 ++ opening)
  obtain ⟨_, _, moved, ranJoined, rulesJoined⟩ :=
    execute_logged host runner frame content.length later first.2
  obtain ⟨ending, -, log', moved', grown, grownJoined, renumbered⟩ :=
    execute_beside decided resolver limit frame later (v, first.2.2 ++ opening) first.2 same
  rw [ranApart] at ending grown
  rw [ranJoined] at ending grownJoined
  cases List.append_cancel_left grown
  cases List.append_cancel_left grownJoined
  rw [apart, joined, ranApart, ranJoined]
  refine ⟨ending, ?_, frame, opening, log, moved, opened, ⟨x.2, before, ?_⟩, ?_, rfl, rules,
    rulesJoined, renumbered⟩
  · simp only [requests_append, requests_opened opened, requests_renumbered renumbered,
      List.append_nil]
  · rw [started, ran]
  · exact List.append_assoc ..

end

omit [Scalar K] in
theorem logged_until (host : Host K R ω) (token : Option (ω → Bool)) :
    (host.logged.until (token.map fun stop x => stop x.1) : Host K R (ω × Log K R)) =
      (host.until token).logged := by
  cases token <;> rfl

namespace Session

variable {κ ι : Type} [DecidableEq κ] [DecidableEq ι]

def odd : Operation := ⟨"zz", []⟩

def oddInside : List Operation := [⟨"BX", []⟩, odd, ⟨"EX", []⟩]

def grayless : Resolver Float Unit :=
  { Resolver.none Float Unit with
    colorSpace := fun _ name => if name = "DefaultGray" then .error .outsideDocument else .ok none }

def grayMissed : Warning :=
  .aboutResource .defaultColorSpace (unresolved "DefaultGray" .outsideDocument) "DefaultGray"

def byOperands (ω : Type) : Placement ω (List Object) := ⟨fun _ op => op.operands, id⟩

theorem collecting_decided :
    DecidedBy (fun w : Unit × Records => (w.1, w.2.failures))
      ((hearing (.silent Float Unit)).until none) := by
  refine decidedBy_of (.silent Float Unit) (fun _ _ => rfl) (fun failure h k same => ?_) (fun _ => false)
    none
  exact ⟨rfl, same⟩

/-- Swallows fatal conditions until it has heard two warnings, which it counts. -/
def patient : Handler Nat where
  warn _ heard := heard + 1
  offer failure heard := (if heard < 2 then .ok () else .error failure, heard)

def awakening : Device Float Unit Bool where
  features awake kind := kind != .colorSpace || awake
  call _ _ := (.ok (), true)

def grayDefault : Resolver Float Unit :=
  { Resolver.none Float Unit with
    colorSpace := fun _ name => .ok (if name = "DefaultGray" then some .calGray else none) }

def endPath : Operation := ⟨"n", []⟩

def black : Float32 := (Scalar.ofInt 0 : Float).toFloat32

def grayFill : Operation := ⟨"g", [.integer 0]⟩

end Session
end PageMarks.Interpreter
