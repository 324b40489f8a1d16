import PageMarks.Proofs.Engine.Restore

/-!
Forms and the states around them. A form is drawn between one save and one restore, and its content
works on the same stack: what that content saves and restores decides which state the restore finds.
When it is balanced, the form leaves nothing behind but its marks; when it is not, the restore
belongs to another save.
-/

namespace PageMarks.Engine

open Interpreter

variable {K R σ : Type} [Scalar K]

/-- The states are those from before; the text may have been placed by its matrix again. -/
structure Isolated (e after : Engine K σ) : Prop where
  saved : after.stack.saved = e.stack.saved
  state : after.state = e.state ∨
    after.state = { e.state with text := e.state.text.place e.state.ctm }

variable {surface : Surface K σ} {hints : Bool}

theorem Restored.isolated {e after : Engine K σ} (restored : Restored e after) : Isolated e after :=
  ⟨restored.saved, .inr restored.state⟩

theorem isolated_of_stack {e after : Engine K σ} (same : after.stack = e.stack) :
    Isolated e after :=
  ⟨congrArg _ same, .inl (congrArg StateStack.current same)⟩

theorem replays_depth {e after : Engine K σ} {log : Log K R}
    (replays : Replays surface hints e log after) :
    after.stack.depth + downs Entry.changed log = e.stack.depth + ups Entry.changed log := by
  induction log generalizing e with
  | nil =>
    cases replays
    rfl
  | cons entry rest ih =>
    cases entry with
    | note | warning | offer => exact ih replays
    | call c answer =>
      obtain ⟨rfl, replays⟩ := replays
      have later := ih replays
      rw [ups_cons, downs_cons]
      cases turn : (Entry.call c (call surface hints c e).1).changed with
      | up =>
        have grown : (call surface hints c e).2.stack.depth = e.stack.depth + 1 :=
          congrArg List.length (call_up surface hints e turn)
        simp only [reduceCtorEq, if_false, if_true]
        omega
      | level =>
        have same : (call surface hints c e).2.stack.depth = e.stack.depth :=
          congrArg List.length (call_level surface hints e turn)
        simp only [reduceCtorEq, if_false]
        omega
      | down =>
        obtain ⟨top, found⟩ := call_down surface hints e turn
        have shrunk : e.stack.depth = (call surface hints c e).2.stack.depth + 1 :=
          congrArg List.length found
        simp only [reduceCtorEq, if_false, if_true]
        omega

theorem restore_depth (e : Engine K σ) : e.restore.2.stack.depth = e.stack.depth - 1 := by
  unfold StateStack.depth
  rcases restore_cases e with ⟨top, saved, found, -, after⟩ | ⟨none, -, after⟩
  · rw [after, found]
    rfl
  · rw [after, none]
    rfl

/-- A way through a form, from one engine to another: `inside` is what was logged between the save
and the restore. -/
structure Crossing (e after : Engine K σ) (log inside : Log K R) : Prop where
  around : ∃ own name depth saved restored heard,
    log = own ++ bracket name depth saved restored inside ++ heard ∧ notes own = [] ∧ Flat own ∧
      accepted saved ∧ Hushed heard
  isolated : Balanced Entry.changed inside → Isolated e after
  depth : after.stack.depth = e.stack.depth + ups Entry.changed inside - downs Entry.changed inside

section

variable {e after : Engine K σ} {name : String} {depth : Nat} {saved restored : Outcome}
  {inside : Log K R}

omit [Scalar K] in
theorem bracket_within : inside ⊆ bracket name depth saved restored inside :=
  fun _ member => List.mem_append_left _ (List.mem_cons_of_mem _ (List.mem_cons_of_mem _ member))

theorem bracket_restored (entered : accepted saved)
    (replays : Replays surface hints e (bracket name depth saved restored inside) after)
    (balanced : Balanced Entry.changed inside) : Restored e after := by
  obtain ⟨rfl, replays⟩ := replays
  obtain ⟨between, middle, rfl, rfl⟩ := (replays_append surface hints).mp replays
  exact save_restore entered middle ((balanced_iff _).mp balanced)

theorem bracket_depth (entered : accepted saved)
    (replays : Replays surface hints e (bracket name depth saved restored inside) after) :
    after.stack.depth =
      e.stack.depth + ups Entry.changed inside - downs Entry.changed inside := by
  obtain ⟨rfl, replays⟩ := replays
  obtain ⟨between, middle, rfl, rfl⟩ := (replays_append surface hints).mp replays
  have up : (Entry.call (.save : Callback K R) (call surface hints .save e).1).changed = .up :=
    if_pos entered
  have grown : (call surface hints (.save : Callback K R) e).2.stack.depth = e.stack.depth + 1 :=
    congrArg List.length (call_up surface hints e up)
  have reached := replays_depth middle
  have left : (call surface hints (.restore : Callback K R) between).2.stack.depth =
      between.stack.depth - 1 := restore_depth between
  change (call surface hints (.restore : Callback K R) between).2.stack.depth = _
  omega

theorem bracket_crossing (entered : accepted saved)
    (replays : Replays surface hints e (bracket name depth saved restored inside) after)
    {heard : Log K R} (hushed : Hushed heard) :
    Crossing e after (bracket name depth saved restored inside ++ heard) inside where
  around := ⟨[], name, depth, saved, restored, heard, rfl, rfl, hushed_flat ⟨rfl, rfl⟩, entered, hushed⟩
  isolated balanced := (bracket_restored entered replays balanced).isolated
  depth := bracket_depth entered replays

theorem bracket_balanced
    (replays : Replays surface hints e (bracket name depth saved restored inside) after)
    (saves : SavesAccepted inside) (asked : height Entry.asked 0 inside = some 0) :
    Balanced Entry.changed inside := by
  obtain ⟨-, replays⟩ := replays
  obtain ⟨between, middle, -⟩ := (replays_append surface hints).mp replays
  exact (balanced_iff _).mpr (asked_changed middle saves (Nat.zero_le _) asked)

end

omit [Scalar K] in
theorem Crossing.around_by [Scalar K] {start e after : Engine K σ} {own log inside heard : Log K R}
    (crossing : Crossing start after log inside) (same : start.stack = e.stack)
    (silent : notes own = []) (flat : Flat own) (hushed : Hushed heard) :
    Crossing e after (own ++ log ++ heard) inside where
  around := by
    obtain ⟨before, name, depth, saved, restored, later, rfl, quiet, level, entered, soft⟩ :=
      crossing.around
    refine ⟨own ++ before, name, depth, saved, restored, later ++ heard, by simp, ?_,
      flat_append flat level, entered, hushed_append soft hushed⟩
    rw [notes_append, silent, quiet, List.nil_append]
  isolated balanced := by
    have current : start.state = e.state := congrArg StateStack.current same
    obtain ⟨saved, restored⟩ := crossing.isolated balanced
    rw [same] at saved
    rw [current] at restored
    exact ⟨saved, restored⟩
  depth := by rw [crossing.depth, same]

theorem drawXObject_stack (e : Engine K σ) (name : String) (xobject : Option (XObject K R)) :
    (call surface hints (.drawXObject name xobject) e).2.stack = e.stack := by
  rcases xobject with _ | _ | _ | _ <;> rfl

theorem drawings_stack {e after : Engine K σ} {log : Log K R}
    (drawings : ∀ c ∈ callbacks log, ∃ name xobject, c = .drawXObject name xobject)
    (replays : Replays surface hints e log after) : after.stack = e.stack := by
  induction log generalizing e with
  | nil =>
    cases replays
    rfl
  | cons entry rest ih =>
    cases entry with
    | note | warning | offer => exact ih drawings replays
    | call c answer =>
      obtain ⟨-, replays⟩ := replays
      obtain ⟨name, xobject, rfl⟩ := drawings c List.mem_cons_self
      have later := ih (fun c member => drawings c (List.mem_cons_of_mem _ member)) replays
      exact later.trans (drawXObject_stack e name xobject)

section

variable {resolver : Resolver K R} {limit depth : Nat}

theorem form_crossing {site : Site} {name : String} {form : Form K R} {scope : R}
    {outcome : Outcome} {log : Log K R} {e after : Engine K σ}
    (transcript : Transcript resolver limit (.form depth site name form scope outcome) log)
    (replays : Replays surface hints e log after) :
    after.stack = e.stack ∨
      ∃ inside, Crossing e after log inside ∧
        ((∀ failure, outcome ≠ .error (.abort failure)) → ¬Skipped log → SavesAccepted log →
          Balanced Operation.step form.content →
            FormsBalanced resolver (form.scope.getD scope) form.content →
              Balanced Entry.changed inside) := by
  cases transcript with
  | tooDeep =>
    cases replays
    exact .inl rfl
  | @shut _ _ _ _ _ saved signal _ refused =>
    obtain ⟨rfl, rfl⟩ := replays
    refine .inl ?_
    rcases save_cases e with ⟨-, ok, -⟩ | ⟨-, -, same⟩
    · have entered := (accepted_iff (K := K) (R := R) site _).mp ok
      exact absurd (refused.symm.trans entered) nofun
    · exact congrArg stack same
  | @unready _ _ _ _ _ saved signal restored ready below entered prepared =>
    have entered := (accepted_iff site saved).mpr entered
    have quiet : Hushed ([] : Log K R) := ⟨rfl, rfl⟩
    have crossing := bracket_crossing entered replays quiet
    rw [List.append_nil] at crossing
    refine .inr ⟨_, crossing, ?_⟩
    intro _ _ saves _ _
    exact bracket_balanced replays (savesAccepted_mono bracket_within saves)
      (unready_height prepared 0)
  | @form _ _ _ _ _ frame ending saved restored ready opening inside below entered prepared opened
      content =>
    have entered := (accepted_iff site saved).mpr entered
    have heard := formOutcome_hushed (K := K) (R := R) site ending.outcome restored
    obtain ⟨between, replays, later⟩ := (replays_append surface hints).mp replays
    obtain rfl := hushed_replays heard.1 later
    refine .inr ⟨_, bracket_crossing entered replays heard, ?_⟩
    intro unaborted unskipped saves balanced forms
    have body : (tolerated site saved).2 ++ ready ++ opening ++ inside ⊆
        bracket name (depth + 1) saved restored
          ((tolerated site saved).2 ++ ready ++ opening ++ inside) ++
            (formOutcome site ending.outcome restored).2 :=
      List.subset_append_of_subset_left _ bracket_within
    have within := List.Subset.trans (List.subset_append_right _ inside) body
    have unskipped := mt (skipped_mono within) unskipped
    have ended := content_finished content unskipped
      (by rintro failure rfl; exact unaborted failure rfl)
    have asked := part_nested content ended unskipped (savesAccepted_mono within saves)
      ((opened_scope opened).symm ▸ forms) 0 0 (balanced.height 0)
    exact bracket_balanced replays (savesAccepted_mono body saves)
      (body_height saved prepared opened asked)

omit [Scalar K] in
theorem own_drawing {op : Operation} {c : Callback K R} (kind : op.kind? = some .paintXObject)
    (own : Own op c) : ∃ name xobject, c = .drawXObject name xobject := by
  unfold Own at own
  rw [kind] at own
  cases c
  case drawXObject name xobject => exact ⟨name, xobject, rfl⟩
  all_goals simp [Callback.operators] at own

theorem operation_crossing {frame : Frame R} {site : Site} {op : Operation} {sections : Nat}
    {log : Log K R} {e after : Engine K σ} (kind : op.kind? = some .paintXObject)
    (transcript : Transcript resolver limit (.operation depth frame site op (.ok ()) sections) log)
    (replays : Replays surface hints e log after) :
    after.stack = e.stack ∨
      ∃ inside, Crossing e after log inside ∧
        (FormsBalanced resolver frame.scope [op] → ¬Skipped log → SavesAccepted log →
          Balanced Entry.changed inside) := by
  cases transcript with
  | refused _ settled =>
    obtain rfl := hushed_replays (settled_hushed settled).1 replays
    exact .inl rfl
  | broken planned performed settled | performed planned performed _ settled =>
    obtain ⟨between, replays, later⟩ := (replays_append surface hints).mp replays
    obtain rfl := hushed_replays (settled_hushed settled).1 later
    exact .inl (drawings_stack (fun c member =>
      own_drawing kind (own_of_initial planned (performed_callbacks performed) c member)) replays)
  | @invoked _ _ _ _ _ _ name form outcome _ own inside heard planned performed sequel form
      settled =>
    obtain ⟨between, replays, later⟩ := (replays_append surface hints).mp replays
    obtain rfl := hushed_replays (settled_hushed settled).1 later
    obtain ⟨start, first, replays⟩ := (replays_append surface hints).mp replays
    have drawings := fun c member =>
      own_drawing kind (own_of_initial planned (performed_callbacks performed) c member)
    have same : start.stack = e.stack := drawings_stack drawings first
    have flat : Flat own := flat_of_callbacks fun c member => by
      obtain ⟨_, _, rfl⟩ := drawings c member
      exact ⟨nofun, nofun⟩
    have enters := plan_enters _ _ _ _ _ planned _ _ sequel
    rcases form_crossing form replays with unmoved | ⟨within, crossing, conditions⟩
    · exact .inl (unmoved.trans same)
    · refine .inr ⟨within, crossing.around_by same (performed_notes performed) flat
        (settled_hushed settled), ?_⟩
      intro balanced unskipped saves
      have part : inside ⊆ own ++ inside ++ heard := fun entry member => by simp [member]
      obtain ⟨contents, forms⟩ := formsBalanced_form enters.kind enters.named enters.found balanced
      refine conditions ?_ (mt (skipped_mono part) unskipped) (savesAccepted_mono part saves)
        contents forms
      rintro failure rfl
      cases settled

end

/-- The operator that draws external objects, when it raises no failure. It leaves the states alone,
or it has gone through a form; then they are those from before if the saves and restores inside were
balanced, as they are in a form that is balanced itself and run to its end. Otherwise the depth is
off by as much as those inside were. -/
theorem form_isolated {η : Type} (surface : Surface K σ) (hints : Bool) (handler : Handler η)
    (cancelled : Engine K σ → Bool) (resolver : Resolver K R) {limit room : Nat}
    (within : room ≤ limit) (frame : Frame R) (site : Site) (op : Operation)
    (kind : op.kind? = some .paintXObject) (e : Engine K σ) (h : η) {sections : Nat}
    {after : Engine K σ} {h' : η} {log : Log K R}
    (ran : operate (Host.of (device surface hints) handler cancelled).logged resolver
      (formRunner (Host.of (device surface hints) handler cancelled).logged resolver limit room) frame
      site op ((e, h), []) = (.ok (), sections, (after, h'), log)) :
    (after.stack = e.stack ∨ ∃ inside, Crossing e after log inside) ∧
      (FormsBalanced resolver frame.scope [op] → ¬Skipped log → SavesAccepted log →
        Isolated e after) := by
  have fresh : Replays surface hints e ([] : Log K R) e := rfl
  have replays := (engine_replays surface hints handler cancelled e).operate resolver limit room frame
    site op (w := ((e, h), [])) fresh
  obtain ⟨answer, sections', v, written, same, transcript⟩ := operate_logged
    (Host.of (device surface hints) handler cancelled) site
    (formRunner_logged (Host.of (device surface hints) handler cancelled) room within) frame op
    ((e, h), [])
  rw [ran] at same replays
  cases same
  rcases operation_crossing kind transcript replays with unmoved | ⟨inside, crossing, conditions⟩
  · exact ⟨.inl unmoved, fun _ _ _ => isolated_of_stack unmoved⟩
  · refine ⟨.inr ⟨inside, crossing⟩, fun balanced unskipped saves => ?_⟩
    exact crossing.isolated (conditions balanced unskipped saves)

def holding (content : List Operation) : Resolver Float Unit :=
  { Resolver.none Float Unit with
    xobject := fun _ _ => .ok (some (.form ⟨⟨2, 0, 0, 2, 100, 100⟩, none, content, none⟩)) }

def drawForm : Operation := ⟨"Do", [.name [70]]⟩

def drawn (content : List Operation) :
    Except Failure Unit × Nat × (Engine Float Unit × Unit) × Log Float Unit :=
  let host := (Host.of (device (.silent Float) false) (.strict Unit) fun _ => false).logged
  operate host (holding content) (formRunner host (holding content) 10 10) ⟨(), none, none, none, 0⟩
    ⟨"Do", 0⟩ drawForm ((blank, ()), [])

def tidy : List Operation := [⟨"q", []⟩, ⟨"J", [.integer 1]⟩, ⟨"Q", []⟩]

def leaky : List Operation := [⟨"J", [.integer 1]⟩, ⟨"q", []⟩]

theorem tidy_formsBalanced : FormsBalanced (holding tidy) () [drawForm] := by
  intro inner reached
  obtain ⟨_, -, last⟩ := Relation.TransGen.tail'_iff.mp reached
  cases last with
  | form _ _ _ found =>
    cases found
    exact (balanced_iff _).mpr rfl

theorem tidy_notes : notes (drawn tidy).2.2.2 =
    [.enter "F" 1, .dispatch "q" 0, .dispatch "J" 1, .dispatch "Q" 2, .leave "F"] := rfl

theorem form_isolated_tidy : Isolated blank (drawn tidy).2.2.1.1 := by
  have ran : drawn tidy = (.ok (), 0, ((drawn tidy).2.2.1.1, ()), (drawn tidy).2.2.2) := rfl
  obtain ⟨-, isolated⟩ := form_isolated (.silent Float) false (.strict Unit) (fun _ => false)
    (holding tidy) (Nat.le_refl 10) ⟨(), none, none, none, 0⟩ ⟨"Do", 0⟩ drawForm rfl blank ()
    ran
  refine isolated tidy_formsBalanced ?_ (by decide)
  rintro ⟨index, member⟩
  rw [tidy_notes] at member
  simp at member

theorem leaky_not_isolated :
    (drawn leaky).1 = .ok () ∧
      blank.stack.saved.length = 0 ∧ (drawn leaky).2.2.1.1.stack.saved.length = 1 ∧
      blank.state.lineCap = .butt ∧ (drawn leaky).2.2.1.1.state.lineCap = .round ∧
      ¬Isolated blank (drawn leaky).2.2.1.1 := by
  refine ⟨rfl, rfl, rfl, rfl, rfl, fun isolated => ?_⟩
  have depth := congrArg List.length isolated.saved
  cases depth

end PageMarks.Engine
