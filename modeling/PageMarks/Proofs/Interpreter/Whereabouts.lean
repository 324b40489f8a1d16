import PageMarks.Proofs.Interpreter.Sections

/-!
Where a run is when a warning is delivered. A log tells which executions of content are under way, and
which operation each of them has come to; the innermost that has come to one is where the run is. The
content of a form is under way from its save, if that is accepted, until the form has been left.
-/

namespace PageMarks.Interpreter

variable {K R : Type}

structure Execution where
  number : Nat
  content : List Operation
  index : Option Nat

/-- Where a run is, as far as its log tells. -/
structure Whereabouts where
  levels : List Execution
  begun : Nat
  drawn : List Operation
  /-- A form is being entered. It has been entered once its save has been accepted. -/
  entering : Bool

namespace Whereabouts

def enter (s : Whereabouts) (content : List Operation) : Whereabouts where
  levels := ⟨s.begun + 1, content, none⟩ :: s.levels
  begun := s.begun + 1
  drawn := s.drawn
  entering := false

def start (content : List Operation) : Whereabouts := enter ⟨[], 0, [], false⟩ content

def next (s : Whereabouts) : Entry K R → Whereabouts
  | .note (.dispatch _ index) =>
    { s with levels := s.levels.modifyHead fun level => { level with index := some index } }
  | .call (.drawXObject _ (some (.form form))) _ => { s with drawn := form.content }
  | .note (.enter ..) => { s with entering := true }
  | .call .save answer =>
    if s.entering && accepted answer then s.enter s.drawn else { s with entering := false }
  | .note (.leave _) => { s with levels := s.levels.tail }
  | _ => s

def after (s : Whereabouts) (log : Log K R) : Whereabouts := log.foldl next s

end Whereabouts

def inHand (levels : List Execution) : Option Execution := levels.find? (·.index.isSome)

/-- A warning as it is delivered, with the executions under way at that moment. -/
structure Delivery where
  warning : Warning
  levels : List Execution

namespace Delivery

def Named (d : Delivery) : Prop :=
  ∃ level index op, inHand d.levels = some level ∧ level.index = some index ∧
    level.content[index]? = some op ∧ d.warning.operator = some op.operator ∧
      d.warning.index = some index

def Default (d : Delivery) : Prop :=
  ∃ level around problem name, d.levels = level :: around ∧ level.index = none ∧
    d.warning = .aboutResource .defaultColorSpace problem name

end Delivery

def deliveries : Whereabouts → Log K R → List Delivery
  | _, [] => []
  | s, .warning warning :: log => ⟨warning, s.levels⟩ :: deliveries s log
  | s, entry :: log => deliveries (s.next entry) log

def indices (n : Nat) (told : List Delivery) : List Nat :=
  told.filterMap fun d =>
    if (inHand d.levels).map (·.number) = some n then d.warning.index else none

def defaults (n : Nat) (told : List Delivery) : List String :=
  told.filterMap fun d =>
    if d.warning.operator = none ∧ d.levels.head?.map (·.number) = some n then d.warning.resource
    else none

def defaultNames : List String := ["DefaultGray", "DefaultRGB", "DefaultCMYK"]

section

variable (s : Whereabouts) (log later : Log K R)

theorem after_append : s.after (log ++ later) = (s.after log).after later := List.foldl_append

theorem deliveries_append :
    deliveries s (log ++ later) = deliveries s log ++ deliveries (s.after log) later := by
  induction log generalizing s with
  | nil => rfl
  | cons entry rest ih =>
    cases entry with
    | warning warning => exact congrArg _ (ih s)
    | note | call | offer => exact ih _

theorem deliveries_warnings : (deliveries s log).map (·.warning) = warnings log := by
  induction log generalizing s with
  | nil => rfl
  | cons entry rest ih =>
    cases entry with
    | warning warning => exact congrArg _ (ih s)
    | note | call | offer => exact ih _

variable {s}

theorem next_call (outside : s.entering = false) (c : Callback K R) (answer : Outcome) :
    ∃ drawn, s.next (.call c answer) = { s with drawn } := by
  obtain ⟨levels, begun, drawn, entering⟩ := s
  cases outside
  cases c
  case drawXObject _ found =>
    rcases found with _ | form | _ | _
    case some.form => exact ⟨form.content, rfl⟩
    all_goals exact ⟨drawn, rfl⟩
  all_goals exact ⟨drawn, rfl⟩

variable {log}

theorem after_silent (outside : s.entering = false) (silent : notes log = []) :
    ∃ drawn, s.after log = { s with drawn } := by
  induction log generalizing s with
  | nil => exact ⟨s.drawn, rfl⟩
  | cons entry rest ih =>
    cases entry with
    | note => cases silent
    | warning | offer => exact ih outside silent
    | call c answer =>
      obtain ⟨drawn, first⟩ := next_call outside c answer
      have outside' : ({ s with drawn } : Whereabouts).entering = false := outside
      obtain ⟨last, second⟩ := ih outside' silent
      exact ⟨last, (congrArg (fun t : Whereabouts => t.after rest) first).trans second⟩

theorem deliveries_silent (outside : s.entering = false) (silent : notes log = []) :
    deliveries s log = (warnings log).map fun warning => ⟨warning, s.levels⟩ := by
  induction log generalizing s with
  | nil => rfl
  | cons entry rest ih =>
    cases entry with
    | note => cases silent
    | warning warning => exact congrArg _ (ih outside silent)
    | offer => exact ih outside silent
    | call c answer =>
      obtain ⟨drawn, is⟩ := next_call outside c answer
      have outside' : ({ s with drawn } : Whereabouts).entering = false := outside
      change deliveries (s.next (.call c answer)) rest = _
      rw [is]
      exact ih outside' silent

end

theorem indices_append (n : Nat) (told more : List Delivery) :
    indices n (told ++ more) = indices n told ++ indices n more := List.filterMap_append

theorem defaults_append (n : Nat) (told more : List Delivery) :
    defaults n (told ++ more) = defaults n told ++ defaults n more := List.filterMap_append

def Delivery.Sound (raised : Prop) (d : Delivery) : Prop :=
  (d.Named ∧ (d.warning.code = .defaultColorSpace → raised)) ∨ d.Default

/-- What is delivered in a stretch of the execution `n`, which goes there from the index `low` to the
index `high`. The executions that begin and end within are those after `first` up to `last`. -/
structure Spans (raised : Prop) (n first last low high : Nat) (told : List Delivery) : Prop where
  sound : ∀ d ∈ told, d.Sound raised
  rising : ∀ k, (indices k told).Pairwise (· ≤ ·)
  ordered : ∀ k, (defaults k told).Sublist defaultNames
  placed : ∀ k, ∀ i ∈ indices k told, (k = n ∧ low ≤ i ∧ i ≤ high) ∨ (first < k ∧ k ≤ last)
  framed : ∀ k, defaults k told ≠ [] → first < k ∧ k ≤ last

namespace Spans

variable {raised : Prop} {n first mid last low bound high : Nat} {told more : List Delivery}

theorem nothing : Spans raised n first last low high [] where
  sound := List.forall_mem_nil _
  rising _ := .nil
  ordered _ := List.nil_sublist _
  placed _ := List.forall_mem_nil _
  framed _ given := absurd rfl given

theorem widen {first' last' low' high' : Nat} (spans : Spans raised n first last low high told)
    (first_le : first' ≤ first) (le_last : last ≤ last') (low_le : low' ≤ low)
    (le_high : high ≤ high') : Spans raised n first' last' low' high' told where
  sound := spans.sound
  rising := spans.rising
  ordered := spans.ordered
  placed k i member := by
    have place := spans.placed k i member
    omega
  framed k given := by
    have frame := spans.framed k given
    omega

theorem append (spans : Spans raised n first mid low bound told)
    (later : Spans raised n mid last bound high more) (old : n ≤ first) (first_le : first ≤ mid)
    (le_last : mid ≤ last) (low_le : low ≤ bound) (le_high : bound ≤ high) :
    Spans raised n first last low high (told ++ more) where
  sound := List.forall_mem_append.mpr ⟨spans.sound, later.sound⟩
  rising k := by
    rw [indices_append, List.pairwise_append]
    refine ⟨spans.rising k, later.rising k, fun i member j member' => ?_⟩
    have place := spans.placed k i member
    have place' := later.placed k j member'
    omega
  ordered k := by
    rw [defaults_append]
    by_cases given : defaults k told = []
    · rw [given]
      exact later.ordered k
    · have frame := spans.framed k given
      have rest : defaults k more = [] := by
        by_contra other
        have frame' := later.framed k other
        omega
      rw [rest, List.append_nil]
      exact spans.ordered k
  placed k i member := by
    rw [indices_append, List.mem_append] at member
    rcases member with member | member
    · have place := spans.placed k i member
      omega
    · have place := later.placed k i member
      omega
  framed k given := by
    rw [defaults_append] at given
    by_cases other : defaults k told = []
    · rw [other] at given
      have frame := later.framed k given
      omega
    · have frame := spans.framed k other
      omega

end Spans

end PageMarks.Interpreter
