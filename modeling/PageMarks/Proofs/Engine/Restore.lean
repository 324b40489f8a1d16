import PageMarks.Proofs.Engine.Saved
import PageMarks.Proofs.Interpreter.Nesting

/-!
What a restore brings back. Between a save and the restore that belongs to it, the state saved is
out of reach; it comes back as it was, except that its text is placed by its own matrix again, and
the path goes on in that matrix.
-/

namespace PageMarks.Engine

open Interpreter

variable {K R σ : Type} [Scalar K]

structure Restored (e after : Engine K σ) : Prop where
  saved : after.stack.saved = e.stack.saved
  state : after.state =
    { e.state with
      text := { e.state.text with globalMatrix := e.state.text.matrix.followedBy e.state.ctm } }
  path : after.path.ctm = after.state.ctm

variable {surface : Surface K σ} {hints : Bool}

theorem save_restore {e between : Engine K σ} {log : Log K R}
    (entered : accepted (call surface hints (.save : Callback K R) e).1)
    (replays : Replays surface hints (call surface hints (.save : Callback K R) e).2 log between)
    (level : height Entry.changed 0 log = some 0) :
    Restored e (call surface hints (.restore : Callback K R) between).2 := by
  have saved : e.save.2.stack.saved = e.state :: e.stack.saved := by
    rcases save_cases e with ⟨-, -, saved⟩ | ⟨-, failed, -⟩
    · rw [saved]
    · change accepted e.save.1 = true at entered
      rw [failed] at entered
      cases entered
  obtain ⟨above, kept, empty⟩ := @replays_saved K R σ _ surface hints e.save.2 between log [] _ 0
    replays saved level
  rw [List.length_eq_zero_iff.mp empty, List.nil_append] at kept
  change Restored e between.restore.2
  rcases restore_cases between with ⟨top, rest, found, -, after⟩ | ⟨none, -, -⟩
  · rw [kept] at found
    obtain ⟨rfl, rfl⟩ := List.cons.inj found
    rw [after]
    exact ⟨rfl, rfl, rfl⟩
  · rw [kept] at none
    cases none

omit [Scalar K] in
theorem asked_cases (c : Callback K R) (answer : Outcome) :
    (c = .save ∧ (Entry.call c answer).asked = .up) ∨
      (c = .restore ∧ (Entry.call c answer).asked = .down) ∨
        (Entry.call c answer).asked = .level ∧ (Entry.call c answer).changed = .level := by
  cases c
  case save => exact .inl ⟨rfl, rfl⟩
  case restore => exact .inr (.inl ⟨rfl, rfl⟩)
  all_goals exact .inr (.inr ⟨rfl, rfl⟩)

theorem restore_changed (surface : Surface K σ) (hints : Bool) {e : Engine K σ}
    (deep : 0 < e.stack.depth) :
    (Entry.call (.restore : Callback K R) (call surface hints (.restore : Callback K R) e).1).changed =
      .down := by
  rcases restore_cases e with ⟨_, _, -, ok, -⟩ | ⟨none, -, -⟩
  · exact if_pos ok
  · rw [StateStack.depth, none] at deep
    cases deep

theorem asked_changed {e after : Engine K σ} {log : Log K R} {n m : Nat}
    (replays : Replays surface hints e log after) (saves : SavesAccepted log)
    (deep : n ≤ e.stack.depth) (reached : height Entry.asked n log = some m) :
    height Entry.changed n log = some m := by
  induction log generalizing e n with
  | nil => exact reached
  | cons entry rest ih =>
    have later := savesAccepted_mono (List.subset_cons_self entry rest) saves
    cases entry with
    | note | warning | offer => exact ih replays later deep reached
    | call c answer =>
      obtain ⟨rfl, replays⟩ := replays
      rcases asked_cases c (call surface hints c e).1 with ⟨rfl, up⟩ | ⟨rfl, down⟩ | ⟨asked, changed⟩
      · have grown :
            (Entry.call (.save : Callback K R) (call surface hints .save e).1).changed = .up :=
          if_pos (saves _ List.mem_cons_self)
        rw [height_up up] at reached
        rw [height_up grown]
        refine ih replays later ?_ reached
        rw [StateStack.depth, call_up surface hints e grown]
        exact Nat.succ_le_succ deep
      · cases n with
        | zero => rw [height_down_zero down] at reached; cases reached
        | succ n =>
          have shrunk := restore_changed (R := R) surface hints
            (Nat.lt_of_lt_of_le (Nat.succ_pos n) deep)
          obtain ⟨top, found⟩ := call_down surface hints e shrunk
          rw [height_down down] at reached
          rw [height_down shrunk]
          refine ih replays later ?_ reached
          rw [StateStack.depth, found, List.length_cons] at deep
          exact Nat.le_of_succ_le_succ deep
      · rw [height_level asked] at reached
        rw [height_level changed]
        refine ih replays later ?_ reached
        rw [StateStack.depth, call_level surface hints e changed]
        exact deep

theorem hushed_replays {e after : Engine K σ} {log : Log K R} (silent : callbacks log = [])
    (replays : Replays surface hints e log after) : after = e := by
  induction log with
  | nil => exact replays
  | cons entry rest ih =>
    cases entry with
    | call => cases silent
    | note | warning | offer => exact ih silent replays

theorem one_call_replays {limit depth : Nat} {resolver : Resolver K R} {frame : Frame R}
    {site : Site} {op : Operation} {answer : Except Failure Unit} {sections : Nat} {log : Log K R}
    {c : Callback K R} {e after : Engine K σ}
    (transcript : Transcript resolver limit (.operation depth frame site op answer sections) log)
    (planned : ∀ features, plan resolver features frame op = .ok (calls frame [c]))
    (replays : Replays surface hints e log after) :
    .call c (call surface hints c e).1 ∈ log ∧ after = (call surface hints c e).2 := by
  obtain ⟨given, heard, rfl, hushed⟩ := one_call transcript planned
  obtain ⟨rfl, replays⟩ := replays
  exact ⟨List.mem_cons_self, hushed_replays hushed.1 replays⟩

theorem engine_replays {η : Type} (surface : Surface K σ) (hints : Bool) (handler : Handler η)
    (cancelled : Engine K σ → Bool) (e : Engine K σ) :
    Kept ((Host.of (device surface hints) handler cancelled).logged : Host K R _)
      fun w => Replays surface hints e w.2 w.1.1 where
  call _ replays := (replays_append surface hints).mpr ⟨_, replays, rfl, rfl⟩
  warn _ replays := (replays_append surface hints).mpr ⟨_, replays, rfl⟩
  offer _ replays := (replays_append surface hints).mpr ⟨_, replays, rfl⟩
  note _ replays _ := (replays_append surface hints).mpr ⟨_, replays, rfl⟩

theorem execute_written {η : Type} {handler : Handler η} {cancelled : Engine K σ → Bool}
    {resolver : Resolver K R} {limit room : Nat} (within : room ≤ limit) {frame : Frame R}
    {index : Nat} {content : List Operation} {ending : Ending} {e after : Engine K σ} {h h' : η}
    {log : Log K R}
    (ran : execute (Host.of (device surface hints) handler cancelled).logged resolver
      (formRunner (Host.of (device surface hints) handler cancelled).logged resolver limit room) frame
      index content ((e, h), []) = (ending, (after, h'), log)) :
    Transcript resolver limit (.content (limit - room) frame index content ending) log ∧
      Replays surface hints e log after := by
  have start : Replays surface hints e ([] : Log K R) e := rfl
  have replays := (engine_replays surface hints handler cancelled e).execute resolver limit room frame
    index content (w := ((e, h), [])) start
  obtain ⟨ended, v, written, same, transcript⟩ := execute_logged
    (Host.of (device surface hints) handler cancelled)
    (formRunner_logged (Host.of (device surface hints) handler cancelled) room within) frame index
    content ((e, h), [])
  rw [ran] at same replays
  cases same
  exact ⟨transcript, replays⟩

theorem transcript_restored {resolver : Resolver K R} {limit depth index : Nat} {frame : Frame R}
    {opener closer : Operation} {body : List Operation} {log : Log K R} {e after : Engine K σ}
    (opens : opener.kind? = some .save) (closes : closer.kind? = some .restore)
    (balanced : Balanced Operation.step body) (forms : FormsBalanced resolver frame.scope body)
    (transcript : Transcript resolver limit
      (.content depth frame index (opener :: body ++ [closer]) (.ok .finished)) log)
    (replays : Replays surface hints e log after) (unskipped : ¬Skipped log)
    (saves : SavesAccepted log) : Restored e after := by
  cases transcript with
  | @next _ _ _ _ _ _ _ opening _ opened transcript =>
    obtain ⟨sections, inside, closing, rfl, performed, closed⟩ := content_split transcript
    cases closed with
    | @next _ _ _ _ _ _ _ closing _ closed nothing =>
      cases nothing
      obtain ⟨entered, first, replays⟩ := (replays_append surface hints).mp replays
      obtain ⟨between, middle, last⟩ := (replays_append surface hints).mp replays
      obtain ⟨saved, rfl⟩ := one_call_replays opened (fun _ => plan_save opens) first
      rw [List.append_nil] at last
      obtain ⟨-, rfl⟩ := one_call_replays closed (fun _ => plan_restore closes) last
      have within : inside ⊆ .note (.dispatch opener.operator index) :: (opening ++ (inside ++
          .note (.dispatch closer.operator (index + 1 + body.length)) :: (closing ++ []))) :=
        fun entry member => by simp [member]
      have insideSaves := savesAccepted_mono within saves
      have asked := part_nested performed rfl (mt (skipped_mono within) unskipped) insideSaves forms
        0 0 (balanced.height 0)
      refine save_restore (saves _ ?_) middle
        (asked_changed middle insideSaves (Nat.zero_le _) asked)
      simp [saved]

theorem content_restored {η : Type} (handler : Handler η) (cancelled : Engine K σ → Bool)
    (resolver : Resolver K R) {limit room : Nat} (within : room ≤ limit) (frame : Frame R)
    (index : Nat) {opener closer : Operation} {body : List Operation}
    (opens : opener.kind? = some .save) (closes : closer.kind? = some .restore)
    (balanced : Balanced Operation.step body) (forms : FormsBalanced resolver frame.scope body)
    {e after : Engine K σ} {h h' : η} {log : Log K R}
    (ran : execute (Host.of (device surface hints) handler cancelled).logged resolver
      (formRunner (Host.of (device surface hints) handler cancelled).logged resolver limit room) frame
      index (opener :: body ++ [closer]) ((e, h), []) = (.ok .finished, (after, h'), log))
    (unskipped : ¬Skipped log) (saves : SavesAccepted log) : Restored e after := by
  obtain ⟨transcript, replays⟩ := execute_written within ran
  exact transcript_restored opens closes balanced forms transcript replays unskipped saves

/-- A restore brings back the state of the save that it belongs to: after callbacks in any order whose
accepted saves and restores are balanced, and after content between the two operators, whose own
saves and restores and those of its forms are. -/
theorem restore_brings_back (surface : Surface K σ) (hints : Bool) (e : Engine K σ) :
    (∀ w : List (Callback K R), accepted (call surface hints (.save : Callback K R) e).1 →
      Balanced Entry.changed (feed surface hints w (call surface hints (.save : Callback K R) e).2).1 →
      Restored e (feed surface hints (.save :: (w ++ [.restore])) e).2) ∧
    ∀ (η : Type) (handler : Handler η) (cancelled : Engine K σ → Bool) (resolver : Resolver K R)
      (limit room : Nat) (frame : Frame R) (index : Nat) (opener closer : Operation)
      (body : List Operation) (h h' : η) (after : Engine K σ) (log : Log K R),
      room ≤ limit → opener.kind? = some .save → closer.kind? = some .restore →
      Balanced Operation.step body → FormsBalanced resolver frame.scope body →
      execute (Host.of (device surface hints) handler cancelled).logged resolver
        (formRunner (Host.of (device surface hints) handler cancelled).logged resolver limit room)
        frame index (opener :: body ++ [closer]) ((e, h), []) =
          (.ok .finished, (after, h'), log) →
      ¬Skipped log → SavesAccepted log → Restored e after := by
  constructor
  · intro w entered balanced
    have replays := feed_replays surface hints (call surface hints (.save : Callback K R) e).2 w
    have restored := save_restore entered replays ((balanced_iff _).mp balanced)
    simpa only [feed, feed_append] using restored
  · intro η handler cancelled resolver limit room frame index opener closer body h h' after log within
      opens closes balanced forms ran unskipped saves
    exact content_restored handler cancelled resolver within frame index opens closes balanced forms
      ran unskipped saves

def blank : Engine Float Unit := start (.initial ⟨1, 0, 0, 1, 0, 0⟩) 500 ()

def paired : Form Float Unit := ⟨⟨1, 0, 0, 1, 0, 0⟩, none, [⟨"q", []⟩, ⟨"Q", []⟩], none⟩

def pairedForm : Resolver Float Unit :=
  { Resolver.none Float Unit with xobject := fun _ _ => .ok (some (.form paired)) }

def nested : List Operation := [⟨"q", []⟩, ⟨"Do", [.name [70]]⟩, ⟨"Q", []⟩]

theorem nested_formsBalanced : FormsBalanced pairedForm () nested := by
  intro inner reached
  obtain ⟨_, -, last⟩ := Relation.TransGen.tail'_iff.mp reached
  cases last with
  | form _ _ _ found =>
    cases found
    exact (balanced_iff _).mpr rfl

def nestedRun : Ending × (Engine Float Unit × Unit) × Log Float Unit :=
  let host := (Host.of (device (.silent Float) false) (.strict Unit) fun _ => false).logged
  execute host pairedForm (formRunner host pairedForm 10 10) ⟨(), none, none, none, 0⟩ 0
    (⟨"q", []⟩ :: nested ++ [⟨"Q", []⟩]) ((blank, ()), [])

theorem nestedRun_saves : SavesAccepted nestedRun.2.2 := by decide

theorem nestedRun_notes : notes nestedRun.2.2 =
    [.dispatch "q" 0, .dispatch "q" 1, .dispatch "Do" 2, .enter "F" 1, .dispatch "q" 0,
      .dispatch "Q" 1, .leave "F", .dispatch "Q" 3, .dispatch "Q" 4] := rfl

theorem restore_brings_back_blank :
    Restored blank (feed (.silent Float) false
      [(.save : Callback Float Unit), .save, .endPath, .restore, .restore] blank).2 ∧
      Restored blank nestedRun.2.1.1 := by
  obtain ⟨callbacks, content⟩ := restore_brings_back (R := Unit) (.silent Float) false blank
  constructor
  · exact callbacks [.save, .endPath, .restore] rfl ((balanced_iff _).mpr rfl)
  · refine content Unit (.strict Unit) (fun _ => false) pairedForm 10 10 ⟨(), none, none, none, 0⟩ 0
      ⟨"q", []⟩ ⟨"Q", []⟩ nested () () nestedRun.2.1.1 nestedRun.2.2 (Nat.le_refl 10) rfl rfl
      ((balanced_iff _).mpr rfl) nested_formsBalanced ?_ ?_ nestedRun_saves
    · exact Prod.ext (rfl : nestedRun.1 = .ok .finished) rfl
    · rintro ⟨index, member⟩
      rw [nestedRun_notes] at member
      simp at member

end PageMarks.Engine
