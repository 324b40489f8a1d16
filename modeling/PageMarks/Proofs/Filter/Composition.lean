import PageMarks.Device.Filter
import PageMarks.Proofs.Interpreter.Lockstep
import PageMarks.Proofs.Interpreter.Plan

/-!
Filters in a row, and what a single filter lets through. Two filters do together what one does that
holds back the categories of both. In a run behind a filter the device gets just the callbacks of
the other categories, in order, and what it answers is what the interpreter hears; of the callbacks
that are held back it sees no trace.
-/

namespace PageMarks

/-- The category that the callbacks of a group of operators are of; none of the graphics state and
of compatibility sections. -/
def OperatorGroup.category? : OperatorGroup → Option Category
  | generalGraphicsState | specialGraphicsState | compatibility => none
  | pathConstruction | pathPainting | clipping => some .paths
  | textObject | textState | textPositioning | textShowing | type3Font => some .text
  | color => some .color
  | shading | inlineImage | xobject => some .images
  | markedContent => some .markedContent

variable {K R σ η : Type}

theorem Callback.category_group {c : Callback K R} {operator : Operator}
    (asks : operator ∈ c.operators) : c.category? = operator.group.category? := by
  have all : c.operators.all (fun operator => c.category? == operator.group.category?) = true := by
    cases c <;> rfl
  exact beq_iff_eq.mp (List.all_eq_true.mp all operator asks)

namespace Device

def recorded (d : Device K R σ) : Device K R (σ × List (Callback K R × Outcome)) where
  features s := d.features s.1
  call c s :=
    let (answer, t) := d.call c s.1
    (answer, t, s.2 ++ [(c, answer)])

def feed (d : Device K R σ) (calls : List (Callback K R)) (s : σ) : σ :=
  calls.foldl (fun s c => (d.call c s).2) s

theorem feed_concat (d : Device K R σ) (calls : List (Callback K R)) (c : Callback K R) (s : σ) :
    d.feed (calls ++ [c]) s = (d.call c (d.feed calls s)).2 := by
  simp only [feed, List.foldl_append, List.foldl_cons, List.foldl_nil]

end Device

namespace Filter

open Interpreter

def passes (suppressed : Categories) (c : Callback K R) : Bool := !c.category?.any suppressed

theorem any_union (A B : Categories) (category : Option Category) :
    category.any (A.union B) = (category.any A || category.any B) := by
  cases category <;> rfl

theorem passes_union (A B : Categories) (c : Callback K R) :
    passes (A.union B) c = (passes B c && passes A c) := by
  simp only [passes, any_union, Bool.not_or, Bool.and_comm]

theorem filter_call (suppressed : Categories) (d : Device K R σ) (c : Callback K R) (s : σ) :
    (d.filter suppressed).call c s = if passes suppressed c then d.call c s else (.ok (), s) := by
  cases held : c.category?.any suppressed <;> simp [Device.filter, passes, held]

theorem filter_filter (d : Device K R σ) (A B : Categories) :
    (d.filter A).filter B = d.filter (A.union B) := by
  have features : ((d.filter A).filter B).features = (d.filter (A.union B)).features := by
    funext s kind
    simp only [Device.filter, any_union, Bool.not_or, Bool.and_assoc]
  have call : ((d.filter A).filter B).call = (d.filter (A.union B)).call := by
    funext c s
    rw [filter_call, filter_call, filter_call, passes_union]
    cases passes B c <;> rfl
  calc (d.filter A).filter B
    _ = ⟨((d.filter A).filter B).features, ((d.filter A).filter B).call⟩ := rfl
    _ = d.filter (A.union B) := by rw [features, call]

def answered (log : Log K R) : List (Callback K R × Outcome) :=
  log.filterMap fun
    | .call c answer => some (c, answer)
    | _ => none

theorem answered_concat (log : Log K R) (entry : Entry K R) :
    answered (log ++ [entry]) = answered log ++ answered [entry] := List.filterMap_append

variable (d : Device K R σ) (suppressed : Categories) (s : σ)

/-- A log is that of a filter before a device: the device got the callbacks that pass, and is where
these lead; the others were answered without it. -/
structure Let (log : Log K R) (w : σ × List (Callback K R × Outcome)) : Prop where
  reached : w.2 = (answered log).filter fun call => passes suppressed call.1
  held : ∀ call ∈ answered log, passes suppressed call.1 = false → call.2 = .ok ()
  state : w.1 = d.feed (w.2.map Prod.fst) s

variable {d suppressed s} {log : Log K R} {w : σ × List (Callback K R × Outcome)}

theorem Let.aside (kept : Let d suppressed s log w) {entry : Entry K R}
    (other : answered [entry] = []) : Let d suppressed s (log ++ [entry]) w := by
  have same : answered (log ++ [entry]) = answered log := by
    rw [answered_concat, other, List.append_nil]
  exact ⟨same ▸ kept.reached, same ▸ kept.held, kept.state⟩

theorem Let.call (kept : Let d suppressed s log w) (c : Callback K R) :
    Let d suppressed s
      (log ++ [.call c ((d.recorded.filter suppressed).call c w).1])
      ((d.recorded.filter suppressed).call c w).2 := by
  rw [filter_call]
  cases passing : passes suppressed c with
  | true =>
    refine ⟨?_, ?_, ?_⟩
    · simp [Device.recorded, answered, passing, kept.reached]
    · intro call member held
      rw [answered_concat, List.mem_append] at member
      rcases member with before | last
      · exact kept.held call before held
      · cases List.mem_singleton.mp last
        rw [passing] at held
        cases held
    · change (d.call c w.1).2 = d.feed ((w.2 ++ [(c, (d.call c w.1).1)]).map Prod.fst) s
      rw [List.map_append, List.map_singleton, Device.feed_concat, ← kept.state]
  | false =>
    refine ⟨?_, ?_, kept.state⟩
    · simp [answered, passing, kept.reached]
    · intro call member held
      rw [answered_concat, List.mem_append] at member
      rcases member with before | last
      · exact kept.held call before held
      · cases List.mem_singleton.mp last
        rfl

variable (K R) in
abbrev behind (d : Device K R σ) (handler : Handler η) (cancelled : σ → Bool)
    (filter : Device K R (σ × List (Callback K R × Outcome)) →
      Device K R (σ × List (Callback K R × Outcome))) :
    Host K R ((σ × List (Callback K R × Outcome)) × η) :=
  .of (filter d.recorded) handler fun t => cancelled t.1

variable (d suppressed s) (handler : Handler η) (cancelled : σ → Bool)

theorem let_kept :
    Kept (behind K R d handler cancelled (.filter suppressed)).logged
      fun w => Let d suppressed s w.2 w.1.1 where
  call c kept := kept.call c
  warn _ kept := kept.aside rfl
  offer _ kept := kept.aside rfl
  note _ kept _ := kept.aside rfl

variable [Scalar K] (resolver : Resolver K R) (limit : Nat) (scope : R) (content : List Operation)
  (h : η)

theorem let_run :
    let host := behind K R d handler cancelled (.filter suppressed)
    Let d suppressed s (history host resolver limit scope content ((s, []), h))
      (process host resolver limit scope content ((s, []), h)).2.1 := by
  intro host
  have fresh : Let d suppressed s ([] : Log K R) (s, []) :=
    ⟨rfl, fun _ member => absurd member List.not_mem_nil, rfl⟩
  have kept := (let_kept d suppressed s handler cancelled).run resolver limit limit scope content
    (w := (((s, []), h), [])) fresh
  rw [← (process_logged host resolver limit scope content ((s, []), h) []).2]
  exact kept

/-- Content is run behind two filters as behind one that suppresses the categories of both: the
device gets the same callbacks, and features, answers, warnings, offers and the end are the same.
Behind one filter the device gets the callbacks that are not of a suppressed category and is where
these lead, its answers are those that are heard, and the other callbacks are answered with success.
Callbacks are of the category of their operators, so those of the graphics state and of compatibility
sections always get through, and so do operators that are unknown. -/
theorem filters_compose (d : Device K R σ) (A B : Categories) (handler : Handler η)
    (cancelled : σ → Bool) (resolver : Resolver K R) (limit : Nat) (scope : R)
    (content : List Operation) (s : σ) (h : η) :
    let ends := fun filter =>
      process (behind K R d handler cancelled filter) resolver limit scope content ((s, []), h)
    let log := fun filter =>
      history (behind K R d handler cancelled filter) resolver limit scope content ((s, []), h)
    let nested := fun device => (Device.filter A device).filter B
    let joined := Device.filter (A.union B)
    let single := Device.filter A
    ((∀ t, (nested d.recorded).features t = (joined d.recorded).features t) ∧
      ends nested = ends joined ∧ log nested = log joined) ∧
    ((ends single).2.1.2 = (answered (log single)).filter (fun call => passes A call.1) ∧
      (∀ call ∈ answered (log single), passes A call.1 = false → call.2 = .ok ()) ∧
      (ends single).2.1.1 = d.feed ((ends single).2.1.2.map Prod.fst) s) ∧
    (∀ c : Callback K R, ∀ operator ∈ c.operators,
      passes A c = !operator.group.category?.any A) ∧
    ∀ op : Operation, passes A (.unknown op : Callback K R) = true := by
  intro ends log nested joined single
  refine ⟨?_, ?_, fun c operator asks => ?_, fun op => rfl⟩
  · have same : nested = joined := funext fun device => filter_filter device A B
    rw [same]
    exact ⟨fun _ => rfl, rfl, rfl⟩
  · have kept := let_run d A s handler cancelled resolver limit scope content h
    exact ⟨kept.reached, kept.held, kept.state⟩
  · rw [passes, Callback.category_group asks]

end Filter
end PageMarks
