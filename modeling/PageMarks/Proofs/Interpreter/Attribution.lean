import PageMarks.Proofs.Engine.Restore
import PageMarks.Proofs.Engine.Warnings
import PageMarks.Proofs.Interpreter.Bracketing
import PageMarks.Proofs.Interpreter.Whereabouts

/-!
Which operation a warning is about. It is the one that the run is at, wherever the warning arises: in a
lookup, in the device, in the set-up of a form or when the form is left. Only the warnings about default
spaces have no operation. These are given when a frame has been opened and none of its operations has
been taken up.
-/

namespace PageMarks.Interpreter

variable {K R ω : Type}

/-- A warning that has no operation yet. It is under the code of default spaces only if `raised`. -/
structure Loose (raised : Prop) (warning : Warning) : Prop where
  unattached : warning.operator = none
  coded : warning.code = .defaultColorSpace → raised

theorem Complaint.loose {raised : Prop} {warning : Warning} (complaint : Complaint warning) :
    Loose raised warning := ⟨complaint.unattached, fun is => absurd is complaint.elsewhere⟩

def Answers (Such : Warning → Prop) (log : Log K R) : Prop :=
  ∀ c answer, .call c answer ∈ log → Warns Such answer

structure Attached (raised : Prop) (site : Site) (log : Log K R) : Prop where
  silent : notes log = []
  told : ∀ warning ∈ warnings log,
    ∃ raw, Loose raised raw ∧ warning = raw.attach site.operator site.index

section

variable {raised : Prop} {site : Site} {log later : Log K R}

theorem Answers.mono {Such : Warning → Prop} (answers : Answers Such later) (within : log ⊆ later) :
    Answers Such log := fun c answer member => answers c answer (within member)

theorem Attached.append (first : Attached raised site log) (second : Attached raised site later) :
    Attached raised site (log ++ later) where
  silent := by rw [notes_append, first.silent, second.silent, List.append_nil]
  told := by
    rw [warnings_append]
    exact List.forall_mem_append.mpr ⟨first.told, second.told⟩

theorem tolerated_attached {answer : Outcome} (warns : Warns (Loose raised) answer) :
    Attached raised site (tolerated site answer : Outcome × Log K R).2 := by
  refine ⟨(tolerated_hushed site answer).2, ?_⟩
  rcases answer with (_ | raw | _ | _) | _
  case error.warning =>
    intro warning told
    cases List.mem_singleton.mp told
    exact ⟨raw, warns raw rfl, rfl⟩
  all_goals exact List.forall_mem_nil _

theorem settled_attached {sections : Nat} {outcome : Outcome} {answer : Except Failure Unit}
    (settled : Settled site sections outcome answer log) (warns : Warns (Loose raised) outcome) :
    Attached raised site log := by
  refine ⟨(settled_hushed settled).2, ?_⟩
  cases settled with
  | ok | ignored | fatal | abort => exact List.forall_mem_nil _
  | unsupported =>
    intro warning told
    cases List.mem_singleton.mp told
    exact ⟨.plain .unsupportedOperator ("operator '" ++ site.operator ++ "' is not supported"),
      ⟨rfl, nofun⟩, rfl⟩
  | @warning raw =>
    intro warning told
    cases List.mem_singleton.mp told
    exact ⟨raw, warns raw rfl, rfl⟩

theorem performed_attached {calls : List (Callback K R)} {outcome : Outcome}
    (performed : Performed calls outcome log) : Attached raised site log where
  silent := performed_notes performed
  told := by
    rw [performed_warnings performed]
    exact List.forall_mem_nil _

theorem performed_warns {calls : List (Callback K R)} {outcome : Outcome}
    (performed : Performed calls outcome log) (answers : Answers (Loose raised) log) :
    Warns (Loose raised) outcome := by
  induction performed with
  | done => exact .ok ()
  | next _ ih => exact ih (answers.mono (List.subset_cons_self ..))
  | broken => exact answers _ _ List.mem_cons_self

theorem tolerated_warns (answer : Outcome) :
    Warns (Loose raised) (tolerated site answer : Outcome × Log K R).1 :=
  fun warning is => absurd is (tolerated_outcome site answer warning)

theorem prepared_attached [Scalar K] {form : Form K R} {outcome : Outcome}
    (prepared : Prepared site form outcome log) (answers : Answers (Loose raised) log) :
    Attached raised site log := by
  have called (answer : Outcome) :
      Attached raised site [(.call (.concat form.matrix) answer : Entry K R)] :=
    ⟨rfl, List.forall_mem_nil _⟩
  cases prepared with
  | refused => exact called _
  | plain => exact (called _).append (tolerated_attached (answers _ _ List.mem_cons_self))
  | @boxed answer _ _ _ _ _ performed =>
    have heard : Attached raised site (tolerated site answer : Outcome × Log K R).2 :=
      tolerated_attached (answers _ answer List.mem_cons_self)
    exact (called answer).append (heard.append (performed_attached performed))

theorem prepared_warns [Scalar K] {form : Form K R} {outcome : Outcome}
    (prepared : Prepared site form outcome log) (answers : Answers (Loose raised) log) :
    Warns (Loose raised) outcome := by
  cases prepared with
  | @refused answer _ refused =>
    rw [← refused]
    exact tolerated_warns answer
  | plain => exact .ok ()
  | boxed _ _ performed =>
    refine performed_warns performed (answers.mono ?_)
    exact List.Subset.trans (List.subset_append_right ..) (List.subset_cons_self ..)

theorem formOutcome_attached {body restored : Outcome} (warns : Warns (Loose raised) restored) :
    Attached raised site (formOutcome site body restored : Outcome × Log K R).2 := by
  rcases body with _ | ⟨⟨⟩⟩
  · exact ⟨rfl, List.forall_mem_nil _⟩
  · exact tolerated_attached warns

theorem formOutcome_warns (ending : Ending) (restored : Outcome) :
    Warns (Loose raised) (formOutcome site ending.outcome restored : Outcome × Log K R).1 := by
  cases ending with
  | ok => exact tolerated_warns restored
  | error => exact nofun

end

/-- A run is at an operation of the execution `n`. -/
structure Whereabouts.At (s : Whereabouts) (n : Nat) (site : Site) : Prop where
  hand : ∃ level op, inHand s.levels = some level ∧ level.number = n ∧
    level.index = some site.index ∧ level.content[site.index]? = some op ∧
      op.operator = site.operator
  old : n ≤ s.begun
  outside : s.entering = false

theorem attach_loose {raw : Warning} (loose : raw.operator = none) (site : Site) :
    (raw.attach site.operator site.index).operator = some site.operator ∧
      (raw.attach site.operator site.index).index = some site.index := by
  simp [Warning.attach, loose]

section

variable {raised : Prop} {n : Nat} {site : Site} {s : Whereabouts} {log later : Log K R}

theorem attached_spans (here : s.At n site) (attached : Attached raised site log) (begun : Nat) :
    Spans raised n begun begun site.index site.index (deliveries s log) := by
  obtain ⟨level, op, hand, number, index, is, same⟩ := here.hand
  rw [deliveries_silent here.outside attached.silent]
  have each (d : Delivery) (member : d ∈ (warnings log).map fun warning => ⟨warning, s.levels⟩) :
      d.levels = s.levels ∧ d.warning.operator = some site.operator ∧
        d.warning.index = some site.index ∧ (d.warning.code = .defaultColorSpace → raised) := by
    obtain ⟨warning, told, rfl⟩ := List.mem_map.mp member
    obtain ⟨raw, loose, rfl⟩ := attached.told warning told
    have named := attach_loose loose.unattached site
    refine ⟨rfl, named.1, named.2, fun code => loose.coded ?_⟩
    exact (attach_code ..).symm.trans code
  generalize ((warnings log).map fun warning => (⟨warning, s.levels⟩ : Delivery)) = told at each
  have indexed (k i : Nat) (member : i ∈ indices k told) : k = n ∧ i = site.index := by
    obtain ⟨d, told, is⟩ := List.mem_filterMap.mp member
    obtain ⟨levels, -, named, -⟩ := each d told
    rw [levels, hand, Option.map_some, number, named] at is
    split at is
    · rename_i same
      exact ⟨(Option.some.inj same).symm, (Option.some.inj is).symm⟩
    · cases is
  have unnamed (k : Nat) : defaults k told = [] := by
    rw [defaults, List.filterMap_eq_nil_iff]
    intro d member
    rw [(each d member).2.1]
    exact if_neg nofun
  exact {
    sound := fun d member => by
      obtain ⟨levels, operator, named, coded⟩ := each d member
      exact .inl ⟨⟨level, site.index, op, levels ▸ hand, index, is, same ▸ operator, named⟩, coded⟩
    rising := fun k => List.pairwise_of_forall_mem_list fun i member j member' =>
      Nat.le_of_eq ((indexed k i member).2.trans (indexed k j member').2.symm)
    ordered := fun k => unnamed k ▸ List.nil_sublist _
    placed := fun k i member => by
      obtain ⟨same, rfl⟩ := indexed k i member
      exact .inl ⟨same, Nat.le_refl _, Nat.le_refl _⟩
    framed := fun k given => absurd (unnamed k) given }

end

section

variable {raised : Prop} {resolver : Resolver K R} {scope : R} {frame : Frame R} {opening : Log K R}

theorem defaultOf_told (resolver : Resolver K R) (scope : R) (name : String) (wanted : Nat) :
    ∃ problem, (warnings (defaultOf resolver scope name wanted).2).Sublist
      [.aboutResource .defaultColorSpace problem name] := by
  unfold defaultOf
  dsimp only
  split
  · exact ⟨_, List.Sublist.refl _⟩
  · exact ⟨"", List.nil_sublist _⟩
  · split
    · exact ⟨"", List.nil_sublist _⟩
    · exact ⟨_, List.Sublist.refl _⟩

theorem opened_told (opened : Opened resolver scope frame opening) :
    (∀ warning ∈ warnings opening,
        ∃ problem name, warning = .aboutResource .defaultColorSpace problem name) ∧
      ((warnings opening).filterMap (·.resource)).Sublist defaultNames := by
  cases opened with
  | wanted =>
    obtain ⟨gray, first⟩ := defaultOf_told resolver scope "DefaultGray" 1
    obtain ⟨rgb, second⟩ := defaultOf_told resolver scope "DefaultRGB" 3
    obtain ⟨cmyk, third⟩ := defaultOf_told resolver scope "DefaultCMYK" 4
    rw [warnings_append, warnings_append]
    have all := (first.append second).append third
    refine ⟨fun warning told => ?_, all.filterMap _⟩
    have among := all.subset told
    simp only [List.cons_append, List.nil_append, List.mem_cons, List.not_mem_nil, or_false] at among
    rcases among with rfl | rfl | rfl <;> exact ⟨_, _, rfl⟩
  | declined => exact ⟨List.forall_mem_nil _, List.nil_sublist _⟩

/-- A frame that is opened while `first` executions have begun, and the execution of content in it,
as seen from an execution around it. -/
theorem opened_spans {n first last index high : Nat} {level : Execution} {around : List Execution}
    {told : List Delivery} (opened : Opened resolver scope frame opening)
    (number : level.number = first + 1) (fresh : level.index = none) (old : n ≤ first)
    (begun : first + 1 ≤ last) (inside : Spans raised (first + 1) (first + 1) last 0 high told) :
    Spans raised n first last index index
      ((warnings opening).map (fun warning => ⟨warning, level :: around⟩) ++ told) := by
  obtain ⟨each, names⟩ := opened_told opened
  have unplaced (k : Nat) :
      indices k ((warnings opening).map fun warning => ⟨warning, level :: around⟩) = [] := by
    rw [indices, List.filterMap_eq_nil_iff]
    intro d member
    obtain ⟨warning, told, rfl⟩ := List.mem_map.mp member
    obtain ⟨problem, name, rfl⟩ := each warning told
    exact ite_self _
  have named (k : Nat) :
      defaults k ((warnings opening).map fun warning => ⟨warning, level :: around⟩) =
        if k = first + 1 then (warnings opening).filterMap (·.resource) else [] := by
    rw [defaults, List.filterMap_map]
    split
    · rename_i same
      refine List.filterMap_congr fun warning told => ?_
      obtain ⟨problem, name, rfl⟩ := each warning told
      exact if_pos ⟨rfl, congrArg some (number.trans same.symm)⟩
    · rename_i other
      rw [List.filterMap_eq_nil_iff]
      intro warning told
      refine if_neg fun both => other ?_
      exact (Option.some.inj both.2).symm.trans number
  exact {
    sound := by
      refine List.forall_mem_append.mpr ⟨fun d member => .inr ?_, inside.sound⟩
      obtain ⟨warning, told, rfl⟩ := List.mem_map.mp member
      obtain ⟨problem, name, is⟩ := each warning told
      exact ⟨level, around, problem, name, rfl, fresh, is⟩
    rising := fun k => by
      rw [indices_append, unplaced, List.nil_append]
      exact inside.rising k
    ordered := fun k => by
      rw [defaults_append, named]
      split
      · rename_i same
        have rest : defaults k told = [] := by
          by_contra given
          have frame := inside.framed k given
          omega
        rw [rest, List.append_nil]
        exact names
      · exact inside.ordered k
    placed := fun k i member => by
      rw [indices_append, unplaced, List.nil_append] at member
      have place := inside.placed k i member
      omega
    framed := fun k given => by
      by_cases same : k = first + 1
      · omega
      · rw [defaults_append, named, if_neg same, List.nil_append] at given
        have frame := inside.framed k given
        omega }

end

/-- From an operation of the execution `n` back to it. -/
structure Round (raised : Prop) (n : Nat) (site : Site) (s : Whereabouts) (log : Log K R) :
    Prop where
  levels : (s.after log).levels = s.levels
  outside : (s.after log).entering = false
  begun : s.begun ≤ (s.after log).begun
  spans : Spans raised n s.begun (s.after log).begun site.index site.index (deliveries s log)

section

variable {raised : Prop} {n : Nat} {site : Site} {s : Whereabouts} {log later : Log K R}

theorem Round.here (round : Round raised n site s log) (here : s.At n site) :
    (s.after log).At n site where
  hand := round.levels ▸ here.hand
  old := Nat.le_trans here.old round.begun
  outside := round.outside

theorem Round.append (first : Round raised n site s log) (old : n ≤ s.begun)
    (second : Round raised n site (s.after log) later) : Round raised n site s (log ++ later) := by
  have joined := after_append s log later
  exact {
    levels := by rw [joined, second.levels, first.levels]
    outside := by rw [joined, second.outside]
    begun := by
      rw [joined]
      exact Nat.le_trans first.begun second.begun
    spans := by
      rw [joined, deliveries_append]
      exact first.spans.append second.spans old first.begun second.begun (Nat.le_refl _)
        (Nat.le_refl _) }

theorem attached_round (here : s.At n site) (attached : Attached raised site log) :
    Round raised n site s log := by
  obtain ⟨drawn, is⟩ := after_silent here.outside attached.silent
  exact {
    levels := by rw [is]
    outside := by rw [is]; exact here.outside
    begun := Nat.le_of_eq (congrArg Whereabouts.begun is).symm
    spans := by rw [is]; exact attached_spans here attached s.begun }

theorem enter_at (here : s.At n site) (content : List Operation) : (s.enter content).At n site where
  hand := here.hand
  old := Nat.le_succ_of_le here.old
  outside := rfl

theorem shut_round {name : String} {depth : Nat} {saved : Outcome} (here : s.At n site)
    (shut : ¬ accepted saved) :
    Round raised n site s [.note (.enter name depth), (.call .save saved : Entry K R)] := by
  have back : s.after [.note (.enter name depth), (.call .save saved : Entry K R)] = s := by
    obtain ⟨levels, begun, drawn, entering⟩ := s
    cases here.outside
    change (if true && accepted saved then _ else _ : Whereabouts) = _
    rw [Bool.true_and, if_neg shut]
    rfl
  exact {
    levels := by rw [back]
    outside := by rw [back]; exact here.outside
    begun := Nat.le_of_eq (congrArg Whereabouts.begun back).symm
    spans := .nothing }

theorem bracket_round {name : String} {depth : Nat} {saved restored : Outcome} {inside : Log K R}
    (entered : accepted saved) (levels : ((s.enter s.drawn).after inside).levels.tail = s.levels)
    (outside : ((s.enter s.drawn).after inside).entering = false)
    (begun : s.begun ≤ ((s.enter s.drawn).after inside).begun)
    (spans : Spans raised n s.begun ((s.enter s.drawn).after inside).begun site.index site.index
      (deliveries (s.enter s.drawn) inside)) :
    Round raised n site s (bracket name depth saved restored inside) := by
  let opening : Log K R := [.note (.enter name depth), .call .save saved]
  let closing : Log K R := [.call .restore restored, .note (.leave name)]
  have split : bracket name depth saved restored inside = opening ++ (inside ++ closing) := rfl
  have opened : s.after opening = s.enter s.drawn := by
    change (if true && accepted saved then _ else _ : Whereabouts) = _
    rw [entered]
    rfl
  have into : s.after (bracket name depth saved restored inside) =
      ((s.enter s.drawn).after inside).after closing := by
    rw [split, after_append, after_append, opened]
  have told : deliveries s (bracket name depth saved restored inside) =
      deliveries (s.enter s.drawn) inside := by
    rw [split, deliveries_append, deliveries_append, opened]
    exact List.append_nil _
  exact {
    levels := by rw [into]; exact levels
    outside := by rw [into]; exact outside
    begun := by rw [into]; exact begun
    spans := by rw [into, told]; exact spans }

end

/-- Content executed from an index on, by the innermost execution. -/
structure Course (raised : Prop) (level : Execution) (around : List Execution) (low high : Nat)
    (s : Whereabouts) (log : Log K R) : Prop where
  levels : ∃ index, (s.after log).levels = { level with index } :: around
  outside : (s.after log).entering = false
  begun : s.begun ≤ (s.after log).begun
  spans : Spans raised level.number s.begun (s.after log).begun low high (deliveries s log)

def Part.Attributed (raised : Prop) : Part K R → Log K R → Prop
  | .content _ _ index ops _, log =>
    ∀ (s : Whereabouts) (level : Execution) (around : List Execution), s.levels = level :: around →
      level.number ≤ s.begun → level.content.drop index = ops → s.entering = false →
        Course raised level around index (index + ops.length) s log
  | .operation _ _ site _ _ _, log =>
    ∀ (s : Whereabouts) (n : Nat), s.At n site → Round raised n site s log
  | .form _ site _ inner _ outcome, log => Warns (Loose raised) outcome ∧
    ∀ (s : Whereabouts) (n : Nat), s.At n site → s.drawn = inner.content → Round raised n site s log

section

variable {raised : Prop} {resolver : Resolver K R} {limit : Nat}

theorem dispatched_at {s : Whereabouts} {level : Execution} {around : List Execution}
    {op : Operation} {rest : List Operation} {index : Nat} (levels : s.levels = level :: around)
    (old : level.number ≤ s.begun) (here : level.content.drop index = op :: rest)
    (outside : s.entering = false) :
    ∃ t, s.next (.note (.dispatch op.operator index) : Entry K R) = t ∧
      t.levels = { level with index := some index } :: around ∧ t.begun = s.begun ∧
        t.At level.number ⟨op.operator, index⟩ := by
  have moved : s.levels.modifyHead (fun level => { level with index := some index }) =
      { level with index := some index } :: around := by rw [levels, List.modifyHead_cons]
  have found : level.content[index]? = some op := by
    rw [← Nat.add_zero index, ← List.getElem?_drop, here]
    rfl
  refine ⟨_, rfl, moved, rfl, ⟨⟨{ level with index := some index }, op, ?_, rfl, rfl, found, rfl⟩, old,
    outside⟩⟩
  change inHand (s.levels.modifyHead _) = _
  rw [moved]
  rfl

theorem unready_round {s : Whereabouts} {n : Nat} {site : Site} {name : String} {depth : Nat}
    {saved restored : Outcome} {ready : Log K R} (here : s.At n site) (entered : accepted saved)
    (told : Attached raised site ready) :
    Round raised n site s (bracket name depth saved restored ready) := by
  have there := enter_at here s.drawn
  obtain ⟨drawn, is⟩ := after_silent there.outside told.silent
  have spans := (attached_spans there told s.begun).widen (Nat.le_refl _) (Nat.le_succ s.begun)
    (Nat.le_refl _) (Nat.le_refl _)
  refine bracket_round entered ?_ ?_ ?_ ?_ <;> rw [is]
  · rfl
  · rfl
  · exact Nat.le_succ s.begun
  · exact spans

theorem form_round {s : Whereabouts} {n : Nat} {site : Site} {name : String} {depth : Nat}
    {saved restored : Outcome} {scope : R} {frame : Frame R} {content : List Operation}
    {ending : Ending} {ready opening inside : Log K R} (here : s.At n site)
    (drawing : s.drawn = content) (entered : accepted saved) (told : Attached raised site ready)
    (opened : Opened resolver scope frame opening)
    (executed : (Part.content depth frame 0 content ending).Attributed raised inside) :
    Round raised n site s (bracket name depth saved restored (ready ++ opening ++ inside)) := by
  -- The set-up and the opening note nothing. The first is told of with the invocation in hand, the
  -- second as of the content that is about to be executed.
  let level : Execution := ⟨s.begun + 1, s.drawn, none⟩
  have there := enter_at here s.drawn
  obtain ⟨drawn₁, is₁⟩ := after_silent there.outside told.silent
  let ready' : Whereabouts := { s.enter s.drawn with drawn := drawn₁ }
  have quiet : notes opening = [] := (opened_hushed opened).2
  obtain ⟨drawn₂, is₂⟩ := after_silent (s := ready') rfl quiet
  let begins : Whereabouts := { ready' with drawn := drawn₂ }
  have course : Course raised level s.levels 0 (0 + content.length) begins inside :=
    executed begins level s.levels rfl (Nat.le_refl _) drawing rfl
  have into : (s.enter s.drawn).after (ready ++ opening ++ inside) = begins.after inside := by
    rw [after_append, after_append, is₁, is₂]
  have delivered : deliveries (s.enter s.drawn) (ready ++ opening ++ inside) =
      deliveries (s.enter s.drawn) ready ++
        ((warnings opening).map (fun warning => ⟨warning, level :: s.levels⟩) ++
          deliveries begins inside) := by
    rw [deliveries_append, deliveries_append, after_append, is₁, is₂, List.append_assoc,
      deliveries_silent (s := ready') rfl quiet]
    rfl
  have setUp : Spans raised n s.begun s.begun site.index site.index _ :=
    attached_spans there told s.begun
  have frame : Spans raised n s.begun (begins.after inside).begun site.index site.index
      ((warnings opening).map (fun warning => ⟨warning, level :: s.levels⟩) ++
        deliveries begins inside) :=
    opened_spans opened rfl rfl here.old course.begun course.spans
  refine bracket_round entered ?_ ?_ ?_ ?_ <;> rw [into]
  · obtain ⟨index, levels⟩ := course.levels
    rw [levels]
    rfl
  · exact course.outside
  · exact Nat.le_of_succ_le course.begun
  · rw [delivered]
    exact setUp.append frame here.old (Nat.le_refl _) (Nat.le_of_succ_le course.begun)
      (Nat.le_refl _) (Nat.le_refl _)

theorem part_attributed [Scalar K] {part : Part K R} {log : Log K R}
    (transcript : Transcript resolver limit part log) (answers : Answers (Loose raised) log) :
    part.Attributed raised log := by
  -- An operation leaves the executions as they were, content only moves its own on. What a later
  -- stretch begins is new by its number, so stretches of one execution join.
  induction transcript with
  | finished | stopped =>
    intro s level around levels _ _ outside
    exact ⟨⟨level.index, levels⟩, outside, Nat.le_refl _, .nothing⟩
  | raised _ operation =>
    intro s level around levels old here outside
    obtain ⟨t, is, moved, begun, there⟩ := dispatched_at (K := K) (R := R) levels old here outside
    have round := operation (answers.mono (List.subset_cons_self ..)) t level.number there
    rw [← is] at round begun moved
    exact {
      levels := ⟨some _, round.levels.trans moved⟩
      outside := round.outside
      begun := begun ▸ round.begun
      spans := (begun ▸ round.spans).widen (Nat.le_refl _) (Nat.le_refl _) (Nat.le_refl _)
        (Nat.le_add_right ..) }
  | @next depth frame index op rest sections ending log later _ _ operation content =>
    intro s level around levels old here outside
    obtain ⟨t, is, moved, begun, there⟩ := dispatched_at (K := K) (R := R) levels old here outside
    have round := operation (answers.mono fun _ member => by simp [member]) t level.number there
    have further : level.content.drop (index + 1) = rest := by
      rw [← List.tail_drop, here, List.tail_cons]
    have course := content (answers.mono fun _ member => by simp [member]) (t.after log)
      { level with index := some index } around (round.levels.trans moved)
      (round.here there).old further round.outside
    have into : s.after (.note (.dispatch op.operator index) :: (log ++ later)) =
        (t.after log).after later := by
      rw [← after_append, ← is]
      rfl
    have told : deliveries s (.note (.dispatch op.operator index) :: (log ++ later)) =
        deliveries t log ++ deliveries (t.after log) later := by
      rw [← deliveries_append, ← is]
      rfl
    exact {
      levels := into ▸ course.levels
      outside := into ▸ course.outside
      begun := by
        rw [into, ← begun]
        exact Nat.le_trans round.begun course.begun
      spans := by
        rw [into, told, ← begun]
        have own : Spans raised level.number t.begun _ index index _ := round.spans
        have later := course.spans.widen (Nat.le_refl _) (Nat.le_refl _) (Nat.le_succ index)
          (Nat.le_refl _)
        have further : index + 1 + rest.length = index + (op :: rest).length := by
          rw [List.length_cons]
          omega
        rw [← further]
        exact own.append later there.old round.begun course.begun (Nat.le_refl _) (by omega) }
  | refused planned settled =>
    intro s n here
    refine attached_round here (settled_attached settled ?_)
    exact (plan_complains.passed planned).mono fun _ => Complaint.loose
  | broken planned performed settled =>
    intro s n here
    have warns := performed_warns performed (answers.mono (List.subset_append_left ..))
    exact attached_round here
      ((performed_attached performed).append (settled_attached settled warns))
  | @performed _ _ _ _ _ p _ _ _ _ planned performed sequel settled =>
    intro s n here
    refine attached_round here ((performed_attached performed).append (settled_attached settled ?_))
    rcases following : p.sequel with _ | warning | _ <;> rw [following] at sequel <;> cases sequel
    · exact .ok ()
    · exact .warning (report_complains p planned warning following).loose
  | @invoked _ _ _ site _ p name form _ _ log inside heard planned performed sequel _ settled entered =>
    intro s n here
    obtain ⟨warns, round⟩ := entered (answers.mono fun _ member => by simp [member])
    have drawing : log = [.call (.drawXObject name (some (.form form))) (.ok ())] := by
      rw [(plan_enters _ _ _ _ p planned name form sequel).calls] at performed
      cases performed with
      | next rest =>
        cases rest
        rfl
    subst drawing
    have before : Round raised n site s _ := attached_round here (performed_attached performed)
    have drawn := before.append here.old (round _ n (before.here here) rfl)
    exact drawn.append here.old (attached_round (drawn.here here) (settled_attached settled warns))
  | tooDeep =>
    exact ⟨.warning ⟨rfl, nofun⟩, fun s n here _ => attached_round here ⟨rfl, List.forall_mem_nil _⟩⟩
  | @shut _ site _ _ _ saved _ _ refused =>
    refine ⟨refused ▸ tolerated_warns saved, fun s n here _ => ?_⟩
    have shut : ¬ accepted saved := by rw [accepted_iff (K := K) (R := R) site, refused]; nofun
    exact shut_round here shut
  | @unready _ site _ _ _ saved _ _ log _ entered prepared =>
    have heard : Answers (Loose raised) log := answers.mono fun _ member => by simp [bracket, member]
    refine ⟨prepared_warns prepared heard, fun s n here _ => ?_⟩
    have told : Attached raised site ((tolerated site saved).2 ++ log) :=
      (tolerated_attached (answers .save saved (by simp [bracket]))).append
        (prepared_attached prepared heard)
    exact unready_round here ((accepted_iff site saved).mpr entered) told
  | @form depth site name form _ frame ending saved restored log opening inside _ entered prepared opened _
      content =>
    refine ⟨formOutcome_warns ending restored, fun s n here drawing => ?_⟩
    have heard : Answers (Loose raised) log := answers.mono fun _ member => by simp [bracket, member]
    have told : Attached raised site ((tolerated site saved).2 ++ log) :=
      (tolerated_attached (answers .save saved (by simp [bracket]))).append
        (prepared_attached prepared heard)
    have back : Warns (Loose raised) restored := answers .restore restored (by simp [bracket])
    have executed := content (answers.mono fun _ member => by simp [bracket, member])
    have round : Round raised n site s (bracket name (depth + 1) saved restored
        ((tolerated site saved).2 ++ log ++ opening ++ inside)) :=
      form_round here drawing ((accepted_iff site saved).mpr entered) told opened executed
    exact round.append here.old (attached_round (round.here here) (formOutcome_attached back))

end

section

variable [Scalar K] (host : Host K R ω) (resolver : Resolver K R) (limit : Nat) (scope : R)
  (content : List Operation) (w : ω)

theorem history_answers {Such : Warning → Prop} (each : ∀ c w, Warns Such (host.call c w).1) :
    Answers Such (history host resolver limit scope content w) := by
  have other {log : Log K R} {entry : Entry K R} (holds : Answers Such log)
      (own : ∀ c answer, entry = .call c answer → Warns Such answer) :
      Answers Such (log ++ [entry]) := by
    intro c answer member
    rcases List.mem_append.mp member with member | member
    · exact holds c answer member
    · exact own c answer (List.mem_singleton.mp member).symm
  have kept : Kept host.logged fun w => Answers Such w.2 := {
    call := fun {w} c holds => other holds fun c' answer is => by
      cases is
      exact each c w.1
    warn := fun _ holds => other holds fun _ _ is => nomatch is
    offer := fun _ holds => other holds fun _ _ is => nomatch is
    note := fun _ holds _ => other holds fun _ _ is => nomatch is }
  have none : Answers Such ([] : Log K R) := fun _ _ member => absurd member List.not_mem_nil
  exact kept.run resolver limit limit scope content (w := (w, [])) none

theorem history_spans
    (unattached : ∀ c w, Warns (fun warning => warning.operator = none) (host.call c w).1) :
    let whole := history host resolver limit scope content w
    ∃ last, Spans (Raised whole .defaultColorSpace) 0 0 last 0 0
      (deliveries (.start content) whole) := by
  intro whole
  -- That a warning is raised is said of the whole log, before it is taken apart.
  have answers : Answers (Loose (Raised whole .defaultColorSpace)) whole := by
    intro c answer member warning is
    refine ⟨?_, fun code => ⟨c, warning, is ▸ member, code⟩⟩
    exact history_answers host resolver limit scope content w unattached c answer member warning is
  obtain ⟨frame, opening, log, split, opened, transcript⟩ :=
    history_logged host resolver limit scope content w
  have silent : notes opening = [] := (opened_hushed opened).2
  have begun := after_silent (s := .start content) rfl silent
  obtain ⟨drawn, begins⟩ := begun
  have heard : Answers (Loose (Raised whole .defaultColorSpace)) log := answers.mono (by simp [whole, split])
  have course := part_attributed transcript heard { Whereabouts.start content with drawn }
    ⟨1, content, none⟩ [] rfl (Nat.le_refl _) rfl rfl
  have told : deliveries (.start content) whole = (warnings opening).map
      (fun warning => ⟨warning, [⟨1, content, none⟩]⟩) ++
        deliveries { Whereabouts.start content with drawn } log := by
    change deliveries _ (history host resolver limit scope content w) = _
    rw [split, deliveries_append, begins, deliveries_silent rfl silent]
    rfl
  rw [told]
  exact ⟨_, opened_spans opened rfl rfl (Nat.le_refl _) course.begun course.spans⟩

end

/-- Every warning of a run over an engine has the operation in hand attached, with its index, but for
those about default spaces, as long as the surface leaves this to the interpreter. The indices never
decrease within one execution of content. Default spaces are warned about without an operation, as a
frame is entered, and each of them once at most, gray first and CMYK last. Unless the surface itself
answers under their code, that is what tells these warnings from all others. -/
theorem warnings_attributed [Scalar K] {σ η : Type} (surface : Surface K σ) (hints : Bool)
    (handler : Handler η) (cancelled : Engine K σ → Bool) (unattached : surface.Unattached)
    (resolver : Resolver K R) (limit : Nat) (scope : R) (content : List Operation)
    (w : Engine K σ × η) :
    let whole := history (.of (Engine.device surface hints) handler cancelled) resolver limit scope
      content w
    let told := deliveries (.start content) whole
    told.map (·.warning) = warnings whole ∧
      (∀ d ∈ told, d.Named ∨ d.Default) ∧
      (∀ n, (indices n told).Pairwise (· ≤ ·)) ∧
      (∀ n, (defaults n told).Sublist defaultNames) ∧
      (¬ Raised whole .defaultColorSpace → ∀ warning ∈ warnings whole,
        (warning.code = .defaultColorSpace ↔ warning.operator = none)) := by
  intro whole told
  obtain ⟨last, spans⟩ := history_spans (.of (Engine.device surface hints) handler cancelled) resolver
    limit scope content w fun c w => Engine.call_unattached unattached hints c w.1
  have all : told.map (·.warning) = warnings whole := deliveries_warnings ..
  refine ⟨all, fun d member => ?_, spans.rising, spans.ordered, fun unraised warning member => ?_⟩
  · exact (spans.sound d member).imp_left And.left
  · rw [← all] at member
    obtain ⟨d, delivered, rfl⟩ := List.mem_map.mp member
    rcases spans.sound d delivered with ⟨⟨_, _, _, -, -, -, operator, -⟩, coded⟩ |
      ⟨_, _, _, _, -, -, is⟩
    · rw [operator]
      exact iff_of_false (fun code => unraised (coded code)) nofun
    · rw [is]
      exact iff_of_true rfl rfl

def scolding : Surface Float Unit := fun _ s => (.error (.warn .other "not taken"), s)

def marking : Form Float Unit :=
  ⟨⟨1, 0, 0, 1, 0, 0⟩, none, [⟨"MP", [.name [77]]⟩, ⟨"EMC", []⟩], none⟩

def markingDrawn : Resolver Float Unit :=
  { Resolver.none Float Unit with
    xobject := fun _ _ => .ok (some (.form marking))
    colorSpace := fun _ _ => .ok (some .deviceRGB) }

def insidePath : List Operation :=
  [⟨"m", [.integer 1, .integer 2]⟩, ⟨"Do", [.name [70]]⟩, ⟨"ET", []⟩]

theorem warnings_attributed_inside_path :
    let whole := history (.of (Engine.device scolding false) (.strict Unit) fun _ => false)
      markingDrawn 1 () insidePath (Engine.blank, ())
    let told := deliveries (.start insidePath) whole
    scolding.Unattached ∧ (∀ d ∈ told, d.Named ∨ d.Default) ∧
      (told.map fun d => (d.warning.operator, d.warning.index)) =
        [(none, none), (none, none), (some "Do", some 1), (some "Do", some 1), (none, none),
          (none, none), (some "MP", some 0), (some "EMC", some 1), (some "Do", some 1),
          (some "ET", some 2)] ∧
      indices 1 told = [1, 1, 1, 2] ∧ indices 2 told = [0, 1] ∧
      defaults 2 told = ["DefaultGray", "DefaultCMYK"] := by
  intro whole told
  have unattached : scolding.Unattached := by
    rintro _ _ _ ⟨⟩
    rfl
  have attributed := warnings_attributed scolding false (.strict Unit) (fun _ => false) unattached
    markingDrawn 1 () insidePath (Engine.blank, ())
  exact ⟨unattached, attributed.2.1, rfl, rfl, rfl, rfl⟩

end PageMarks.Interpreter
