import PageMarks.Proofs.Filter.Answers

/-!
Runs with and without a filter. A run without one that meets no fatal condition is followed, one
operation after another, by the run in which a filter holds back some categories: the operations do
the same to engines in agreement, whatever warnings there are. So the filter takes the marks of its
categories away and leaves the others as they are.
-/

namespace PageMarks.Filter

open Interpreter Engine

variable {K R η : Type}

section

variable {ω : Type} (host : Host K R ω)

theorem loud_kept : Kept host.logged fun w => ¬Calm w.2 where
  call _ loud calm := loud (calm_append.mp calm).1
  warn _ loud calm := loud (calm_append.mp calm).1
  offer _ loud calm := loud (calm_append.mp calm).1
  note _ loud _ calm := loud (calm_append.mp calm).1

theorem calm_settle {site : Site} {sections : Nat} {x : Outcome × ω × Log K R}
    (calm : Calm (settle host.logged site sections x).2.2) : Calm x.2.2 := by
  by_contra loud
  exact ((loud_kept host).lockstep.settle site sections (x := x) (y := x)
    ⟨rfl, rfl, loud⟩).2.2 calm

theorem calm_leaveForm {site : Site} {name : String} {body : Outcome} {w : ω × Log K R}
    (calm : Calm (leaveForm host.logged site name body w).2.2) : Calm w.2 := by
  by_contra loud
  exact ((loud_kept host).lockstep.leaveForm site name body ⟨rfl, loud⟩).2.2 calm

end

variable [Scalar K]

section

variable {ω : Type} (host : Host K R ω) (resolver : Resolver K R) (forms : FormRunner K R ω)
  (frame : Frame R) (site : Site) (op : Operation)

theorem operate_refused {signal : Signal} {w : ω}
    (planned : plan resolver (host.features w) frame op = .error signal) :
    operate host resolver forms frame site op w =
      ((settle host site frame.sections (.error signal, w)).1, frame.sections,
        (settle host site frame.sections (.error signal, w)).2) := by
  simp only [operate, planned]

theorem operate_planned {p : Plan K R} {w : ω}
    (planned : plan resolver (host.features w) frame op = .ok p) :
    operate host resolver forms frame site op w =
      ((settle host site p.sections (carryOut host forms site frame.scope p w)).1, p.sections,
        (settle host site p.sections (carryOut host forms site frame.scope p w)).2) := by
  simp only [operate, planned]

omit [Scalar K] in
theorem carryOut_alone {scope : R} {p : Plan K R} (alone : p.sequel = .nothing) (w : ω) :
    carryOut host forms site scope p w = perform host p.calls w := by
  rcases performed : perform host p.calls w with ⟨_ | ⟨⟨⟩⟩, v⟩ <;>
    simp only [carryOut, performed, alone, follow]

omit [Scalar K] in
theorem carryOut_next {scope : R} {p : Plan K R} {w : ω}
    (fine : (perform host p.calls w).1 = .ok ()) :
    carryOut host forms site scope p w =
      follow forms site scope p.sequel (perform host p.calls w).2 := by
  rcases performed : perform host p.calls w with ⟨_ | ⟨⟨⟩⟩, v⟩
  · rw [performed] at fine
    cases fine
  · simp only [carryOut, performed]

variable {S : Categories} {Inv : ω → Prop}

omit [Scalar K] in
theorem perform_idle (indifferent : Indifferent S host Inv) (calls : List (Callback K R))
    (hidden : ∀ c ∈ calls, c.category?.any S = true) {w : ω} (holds : Inv w) :
    gist (perform host calls w).1 = .ok () ∧ Inv (perform host calls w).2 := by
  induction calls generalizing w with
  | nil => exact ⟨rfl, holds⟩
  | cons c rest ih =>
    have called := indifferent.call (hidden c List.mem_cons_self) holds
    rcases answered : host.call c w with ⟨signal | ⟨⟨⟩⟩, v⟩ <;> rw [answered] at called <;>
      simp only [perform, answered]
    · exact called
    · exact ih (fun d member => hidden d (List.mem_cons_of_mem c member)) called.2

omit [Scalar K] in
theorem carryOut_idle (indifferent : Indifferent S host Inv) {p : Plan K R} (idle : Idle S frame p)
    (scope : R) {w : ω} (holds : Inv w) :
    gist (carryOut host forms site scope p w).1 = .ok () ∧
      Inv (carryOut host forms site scope p w).2 := by
  have performed := perform_idle host indifferent p.calls idle.hidden holds
  rcases answered : perform host p.calls w with ⟨signal | ⟨⟨⟩⟩, v⟩ <;> rw [answered] at performed <;>
    simp only [carryOut, answered]
  · exact performed
  · rcases sequel : p.sequel with _ | warning | ⟨name, form⟩
    · exact performed
    · exact ⟨rfl, performed.2⟩
    · exact absurd sequel (idle.closed name form)

omit [Scalar K] in
theorem heard_kept (indifferent : Indifferent S host Inv) {w v : ω} (heard : Heard host w v)
    (holds : Inv w) : Inv v := by
  rcases heard with rfl | ⟨warning, rfl⟩
  · exact holds
  · exact indifferent.warn warning holds

theorem operate_idle (indifferent : Indifferent S host Inv) {w : ω}
    (ends : Ends (Idle S frame) (fun signal => gist (.error signal) = .ok ())
      (plan resolver (host.features w) frame op)) (holds : Inv w) :
    ∃ v, operate host resolver forms frame site op w = (.ok (), frame.sections, v) ∧ Inv v := by
  rcases planned : plan resolver (host.features w) frame op with signal | p <;>
    rw [planned] at ends
  · obtain ⟨v, settled, heard⟩ := settle_fine host site frame.sections ends w
    refine ⟨v, ?_, heard_kept host indifferent heard holds⟩
    rw [operate_refused host resolver forms frame site op planned, settled]
  · have done := carryOut_idle host forms frame site indifferent ends frame.scope holds
    obtain ⟨v, settled, heard⟩ := settle_fine host site p.sections done.1
      (carryOut host forms site frame.scope p w).2
    refine ⟨v, ?_, heard_kept host indifferent heard done.2⟩
    rw [operate_planned host resolver forms frame site op planned, settled, ends.sections]

theorem ends_calm {good : Plan K R → Prop} {forms : FormRunner K R (ω × Log K R)}
    {w : ω × Log K R}
    (ends : Ends good
      (fun signal => gist (.error signal) = .ok () ∨ ∃ failure, signal = .fatal failure)
      (plan resolver (host.logged.features w) frame op))
    (calm : Calm (operate host.logged resolver forms frame site op w).2.2.2) :
    Ends good (fun signal => gist (.error signal) = .ok ())
      (plan resolver (host.logged.features w) frame op) := by
  rcases planned : plan resolver (host.logged.features w) frame op with signal | p <;>
    rw [planned] at ends
  · rcases ends with fine | ⟨failure, rfl⟩
    · exact fine
    · rw [operate_refused _ resolver forms frame site op planned] at calm
      have offered := (calm_append.mp calm).2 _ (List.mem_singleton_self _)
      cases offered
  · exact ends

end

variable (hints : Bool) (handler : Handler η) {S : Categories} (colorful : S .color = false)

def FormsAlike (S : Categories) (forms₁ forms₂ : FormRunner K R (World K R η)) : Prop :=
  ∀ site name form scope w₁ w₂, Related S w₁ w₂ → Calm (forms₁ site name form scope w₁).2.2 →
    Alike (Related S) (forms₁ site name form scope w₁) (forms₂ site name form scope w₂)

section

variable {forms₁ forms₂ : FormRunner K R (World K R η)} (forms : FormsAlike S forms₁ forms₂)
  {w₁ w₂ : World K R η}

theorem features_eq {T : Categories} (w : World K R η) (kind : ResourceKind) :
    (recording hints handler T).features w kind = !kind.category?.any T := rfl

/-- Operations that end alike and leave the same compatibility sections open. -/
def Together (S : Categories) (x y : Except Failure Unit × Nat × World K R η) : Prop :=
  x.1 = y.1 ∧ x.2.1 = y.2.1 ∧ Related S x.2.2 y.2.2

include colorful in
/-- An operator that looks for a kind of resource that the filter declines. Without the filter it may
end in a fatal condition, and in nothing else of note. -/
theorem operate_declined (resolver : Resolver K R) (frame : Frame R) (site : Site) {op : Operation}
    {operator : Operator} {kind : ResourceKind} {category : Category}
    (named : op.kind? = some operator) (asks : kind ∈ consults operator)
    (owned : kind.category? = some category) (hidden : S category = true)
    (related : Related S w₁ w₂)
    (calm : Calm (operate (recording hints handler .none) resolver forms₁ frame site op w₁).2.2.2) :
    Together S (operate (recording hints handler .none) resolver forms₁ frame site op w₁)
      (operate (recording hints handler S) resolver forms₂ frame site op w₂) := by
  have plain : Ends (Idle S frame)
      (fun signal => gist (.error signal) = .ok () ∨ ∃ failure, signal = .fatal failure)
      (plan resolver ((recording hints handler .none).features w₁) frame op) :=
    plan_idle resolver _ frame op named asks owned hidden colorful
      ⟨fun _ => .inl rfl, fun _ failure => .inr ⟨failure, rfl⟩⟩
  have filtered : Ends (Idle S frame) (fun signal => gist (.error signal) = .ok ())
      (plan resolver ((recording hints handler S).features w₂) frame op) := by
    refine plan_idle resolver _ frame op named asks owned hidden colorful ⟨fun _ => rfl, ?_⟩
    rw [features_eq, owned]
    intro wanted
    rw [Option.any_some, hidden] at wanted
    cases wanted
  obtain ⟨v₁, e₁, left⟩ := operate_idle _ resolver forms₁ frame site op
    (indifferent_left hints handler w₂ colorful) (ends_calm _ resolver frame site op plain calm)
    related
  obtain ⟨v₂, e₂, right⟩ := operate_idle _ resolver forms₂ frame site op
    (indifferent_right hints handler v₁) filtered left
  rw [e₁, e₂]
  exact ⟨rfl, rfl, right⟩

include forms

omit [Scalar K] in
theorem follow_alike (site : Site) (scope : R) (sequel : Sequel K R) (related : Related S w₁ w₂)
    (calm : Calm (follow forms₁ site scope sequel w₁).2.2) :
    Alike (Related S) (follow forms₁ site scope sequel w₁)
      (follow forms₂ site scope sequel w₂) := by
  cases sequel with
  | nothing | report => exact ⟨rfl, related⟩
  | enter name form => exact forms site name form scope w₁ w₂ related calm

include colorful

theorem carryOut_similar (site : Site) (scope : R) {p : Plan K R} (steady : Steady p)
    (related : Related S w₁ w₂)
    (calm : Calm (carryOut (recording hints handler .none) forms₁ site scope p w₁).2.2) :
    Similar S (carryOut (recording hints handler .none) forms₁ site scope p w₁)
      (carryOut (recording hints handler S) forms₂ site scope p w₂) := by
  have performed := perform_similar hints handler colorful p.calls steady.initial related
  by_cases alone : p.sequel = .nothing
  · rw [carryOut_alone _ forms₁ site alone, carryOut_alone _ forms₂ site alone]
    exact performed
  · have sure := steady.all alone
    rw [carryOut_next _ forms₁ site (perform_sure hints handler p.calls sure w₁)] at calm ⊢
    rw [carryOut_next _ forms₂ site (perform_sure hints handler p.calls sure w₂)]
    have followed := follow_alike forms site scope p.sequel performed.2 calm
    exact ⟨congrArg gist followed.1, followed.2⟩

theorem operate_planned_same (resolver : Resolver K R) (frame : Frame R) (site : Site)
    (op : Operation)
    (same : plan resolver ((recording hints handler .none).features w₁) frame op =
      plan resolver ((recording hints handler S).features w₂) frame op)
    (related : Related S w₁ w₂)
    (calm : Calm (operate (recording hints handler .none) resolver forms₁ frame site op w₁).2.2.2) :
    Together S (operate (recording hints handler .none) resolver forms₁ frame site op w₁)
      (operate (recording hints handler S) resolver forms₂ frame site op w₂) := by
  rcases planned : plan resolver ((recording hints handler .none).features w₁) frame op
    with signal | p
  · rw [operate_refused _ resolver forms₁ frame site op planned] at calm ⊢
    rw [operate_refused _ resolver forms₂ frame site op (same ▸ planned)]
    have similar : Similar S ((.error signal, w₁) : Outcome × World K R η) (.error signal, w₂) :=
      ⟨rfl, related⟩
    have settled := settle_similar hints handler site frame.sections similar calm
    exact ⟨settled.1, rfl, settled.2⟩
  · rw [operate_planned _ resolver forms₁ frame site op planned] at calm ⊢
    rw [operate_planned _ resolver forms₂ frame site op (same ▸ planned)]
    have steady : Steady p := plan_steady resolver _ frame op p planned
    have similar := carryOut_similar hints handler colorful forms site frame.scope steady related
      (calm_settle _ calm)
    have settled := settle_similar hints handler site p.sections similar calm
    exact ⟨settled.1, rfl, settled.2⟩

theorem operate_together (resolver : Resolver K R) (frame : Frame R) (site : Site) (op : Operation)
    (related : Related S w₁ w₂)
    (calm : Calm (operate (recording hints handler .none) resolver forms₁ frame site op w₁).2.2.2) :
    Together S (operate (recording hints handler .none) resolver forms₁ frame site op w₁)
      (operate (recording hints handler S) resolver forms₂ frame site op w₂) := by
  by_cases declined : ∃ operator kind category, op.kind? = some operator ∧
    kind ∈ consults operator ∧ kind.category? = some category ∧ S category = true
  · obtain ⟨operator, kind, category, named, asks, owned, hidden⟩ := declined
    exact operate_declined hints handler colorful resolver frame site named asks owned hidden related
      calm
  · refine operate_planned_same hints handler colorful forms resolver frame site op ?_ related calm
    refine plan_congr resolver frame op fun operator named kind asks => ?_
    rw [features_eq, features_eq]
    rcases owned : kind.category? with _ | category
    · rfl
    · have shown : S category = false := by
        by_contra hidden
        exact declined ⟨operator, kind, category, named, asks, owned, eq_true_of_ne_false hidden⟩
      rw [Option.any_some, Option.any_some, shown]
      rfl

end

section

variable {ω : Type} {host : Host K R ω} {resolver : Resolver K R} {forms : FormRunner K R ω}
  {frame : Frame R} {index : Nat} {op : Operation} {rest : List Operation} {w : ω}

theorem execute_raised {failure : Failure} (going : host.cancelled w = false)
    (raised : (operate host resolver forms frame ⟨op.operator, index⟩ op
      (host.note (.dispatch op.operator index) w)).1 = .error failure) :
    execute host resolver forms frame index (op :: rest) w =
      (.error failure, (operate host resolver forms frame ⟨op.operator, index⟩ op
        (host.note (.dispatch op.operator index) w)).2.2) := by
  simp only [execute, going, Bool.false_eq_true, if_false]
  rcases operated : operate host resolver forms frame ⟨op.operator, index⟩ op
    (host.note (.dispatch op.operator index) w) with ⟨_ | ⟨⟨⟩⟩, sections, v⟩
  · rw [operated] at raised
    cases raised
    rfl
  · rw [operated] at raised
    cases raised

theorem execute_next (going : host.cancelled w = false)
    (fine : (operate host resolver forms frame ⟨op.operator, index⟩ op
      (host.note (.dispatch op.operator index) w)).1 = .ok ()) :
    execute host resolver forms frame index (op :: rest) w =
      execute host resolver forms { frame with
          sections := (operate host resolver forms frame ⟨op.operator, index⟩ op
            (host.note (.dispatch op.operator index) w)).2.1 } (index + 1) rest
        (operate host resolver forms frame ⟨op.operator, index⟩ op
          (host.note (.dispatch op.operator index) w)).2.2 := by
  simp only [execute, going, Bool.false_eq_true, if_false]
  rcases operated : operate host resolver forms frame ⟨op.operator, index⟩ op
    (host.note (.dispatch op.operator index) w) with ⟨_ | ⟨⟨⟩⟩, sections, v⟩
  · rw [operated] at fine
    cases fine
  · rfl

end

variable (resolver : Resolver K R) (limit room : Nat) {w₁ w₂ : World K R η}

def RunsAlike (S : Categories)
    (run₁ run₂ : R → List Operation → World K R η → Ending × World K R η) : Prop :=
  ∀ scope content w₁ w₂, Related S w₁ w₂ → Calm (run₁ scope content w₁).2.2 →
    Alike (Related S) (run₁ scope content w₁) (run₂ scope content w₂)

section

variable (forms : FormsAlike S (formRunner (recording hints handler .none) resolver limit room)
  (formRunner (recording hints handler S) resolver limit room))
include colorful forms

theorem execute_alike (frame : Frame R) (index : Nat) (content : List Operation)
    (related : Related S w₁ w₂)
    (calm : Calm (execute (recording hints handler .none) resolver
      (formRunner (recording hints handler .none) resolver limit room) frame index content
      w₁).2.2) :
    Alike (Related S)
      (execute (recording hints handler .none) resolver
        (formRunner (recording hints handler .none) resolver limit room) frame index content w₁)
      (execute (recording hints handler S) resolver
        (formRunner (recording hints handler S) resolver limit room) frame index content w₂) := by
  induction content generalizing frame index w₁ w₂ with
  | nil => exact ⟨rfl, related⟩
  | cons op rest ih =>
    have taken := note_related hints handler (.dispatch op.operator index) related
    rcases ended : (operate (recording hints handler .none) resolver
        (formRunner (recording hints handler .none) resolver limit room) frame ⟨op.operator, index⟩
        op ((recording hints handler .none).note (.dispatch op.operator index) w₁)).1
      with failure | ⟨⟨⟩⟩
    · rw [execute_raised rfl ended] at calm ⊢
      have together := operate_together hints handler colorful forms resolver frame _ op taken calm
      rw [execute_raised rfl (together.1.symm.trans ended)]
      exact ⟨rfl, together.2.2⟩
    · rw [execute_next rfl ended] at calm ⊢
      have together := operate_together hints handler colorful forms resolver frame
        ⟨op.operator, index⟩ op taken (by
          by_contra loud
          exact (loud_kept _).execute resolver limit room _ _ rest loud calm)
      rw [execute_next rfl (together.1.symm.trans ended), ← together.2.1]
      exact ih _ _ together.2.2 calm

theorem run_alike : RunsAlike S (run (recording hints handler .none) resolver limit room)
    (run (recording hints handler S) resolver limit room) := by
  intro scope content w₁ w₂ related calm
  have wanted : (recording hints handler .none).features w₁ .colorSpace =
      (recording hints handler S).features w₂ .colorSpace := by
    rw [features_eq, features_eq, ResourceKind.category?, Option.any_some, Option.any_some, colorful]
    rfl
  obtain ⟨frame, v₁, v₂, e₁, e₂, opened⟩ := (openFrame_alike
    (fun warning => warn_related hints handler warning warning) resolver scope wanted related).split
  rw [run_eq, e₁] at calm ⊢
  rw [run_eq, e₂]
  exact execute_alike hints handler colorful resolver limit room forms frame 0 content opened calm

end

section

theorem endPath_sure : Sure (.endPath : Callback K R) := by
  intro hints e
  simp only [call, finishPath, paintPath, ite_self]
  rcases e.pendingClip with _ | rule
  · rfl
  · cases hints <;> rfl

theorem box_sure (box : Rect K) : ∀ c ∈ (clipToBox box : List (Callback K R)), Sure c := by
  intro c member
  simp only [clipToBox, List.mem_cons, List.not_mem_nil, or_false] at member
  rcases member with rfl | rfl | rfl
  · exact fun _ _ => rfl
  · exact fun _ _ => rfl
  · exact endPath_sure

include colorful

theorem setUp_alike (site : Site) (form : Form K R) (related : Related S w₁ w₂) :
    Alike (Related S) (setUp (recording hints handler .none) site form w₁)
      (setUp (recording hints handler S) site form w₂) := by
  obtain ⟨answer, v₁, v₂, e₁, e₂, placed⟩ := (tolerate_similar hints handler site
    (call_similar hints handler colorful (.concat form.matrix) related)).split
  simp only [setUp, e₁, e₂]
  cases answer with
  | error => exact ⟨rfl, placed⟩
  | ok =>
    cases form.box with
    | none => exact ⟨rfl, placed⟩
    | some box =>
      have sure := box_sure (R := R) box
      refine ⟨?_, (perform_similar hints handler colorful _ (fun c member =>
        sure c (List.dropLast_subset _ member)) placed).2⟩
      exact (perform_sure hints handler _ sure v₁).trans (perform_sure hints handler _ sure v₂).symm

variable {run₁ run₂ : R → List Operation → World K R η → Ending × World K R η}

theorem runBody_alike (runs : RunsAlike S run₁ run₂) (site : Site) (form : Form K R) (scope : R)
    (related : Related S w₁ w₂)
    (calm : Calm (runBody (recording hints handler .none) run₁ site form scope w₁).2.2) :
    Alike (Related S) (runBody (recording hints handler .none) run₁ site form scope w₁)
      (runBody (recording hints handler S) run₂ site form scope w₂) := by
  obtain ⟨answer, v₁, v₂, e₁, e₂, ready⟩ := (setUp_alike hints handler colorful site form
    related).split
  simp only [runBody, e₁, e₂] at calm ⊢
  cases answer with
  | error => exact ⟨rfl, ready⟩
  | ok =>
    have done : Calm (run₁ (form.scope.getD scope) form.content v₁).2.2 := by
      rcases ran : run₁ (form.scope.getD scope) form.content v₁ with ⟨_ | _, v⟩ <;>
        simp only [ran] at calm <;> exact calm
    obtain ⟨ending, _, _, e₁, e₂, after⟩ := (runs _ form.content v₁ v₂ ready done).split
    simp only [e₁, e₂]
    cases ending <;> exact ⟨rfl, after⟩

theorem leaveForm_alike (site : Site) (name : String) (body : Outcome)
    (related : Related S w₁ w₂) :
    Alike (Related S) (leaveForm (recording hints handler .none) site name body w₁)
      (leaveForm (recording hints handler S) site name body w₂) := by
  have restored := call_similar hints handler colorful .restore related
  have left := note_related hints handler (.leave name) restored.2
  cases body with
  | error => exact ⟨rfl, left⟩
  | ok => exact tolerate_similar hints handler site ⟨restored.1, left⟩

theorem runForm_alike (runs : RunsAlike S run₁ run₂) (depth : Nat) :
    FormsAlike S (runForm (recording hints handler .none) depth run₁)
      (runForm (recording hints handler S) depth run₂) := by
  intro site name form scope w₁ w₂ related calm
  have taken := note_related hints handler (.enter name depth) related
  obtain ⟨answer, v₁, v₂, e₁, e₂, entered⟩ := (tolerate_similar hints handler site
    (call_similar hints handler colorful .save taken)).split
  simp only [runForm, e₁, e₂] at calm ⊢
  cases answer with
  | error => exact ⟨rfl, entered⟩
  | ok =>
    have inside := runBody_alike hints handler colorful runs site form scope entered
      (calm_leaveForm _ calm)
    obtain ⟨body, _, _, e₁, e₂, after⟩ := inside.split
    simp only [e₁, e₂]
    exact leaveForm_alike hints handler colorful site name body after

theorem formRunner_alike :
    FormsAlike S (formRunner (recording hints handler .none) resolver limit room)
      (formRunner (recording hints handler S) resolver limit room) := by
  induction room with
  | zero => exact fun _ _ _ _ _ _ related _ => ⟨rfl, related⟩
  | succ room ih =>
    exact runForm_alike hints handler colorful
      (run_alike hints handler colorful resolver limit room ih) (limit - room)

end

section

omit [Scalar K] in
theorem agrees_start (initial : GraphicsState K) (depth : Nat) :
    Agrees S (start initial depth []) (start initial depth []) where
  limit := rfl
  saved := .nil
  state := .refl _
  path _ := ⟨rfl, rfl, rfl⟩
  marked _ := rfl
  marks := rfl

include colorful

/-- A filter on paths, text, images or marked content takes the marks of these out of a page that
meets no fatal condition without it, and changes nothing else about the marks. -/
theorem filter_deletes (scope : R) (content : List Operation) (initial : GraphicsState K)
    (depth : Nat) (h : η)
    (finished : (process (recorder hints handler .none) resolver limit scope content
      (start initial depth [], h)).1 = .ok .finished)
    (calm : Calm (history (recorder hints handler .none) resolver limit scope content
      (start initial depth [], h))) :
    (process (recorder hints handler S) resolver limit scope content
        (start initial depth [], h)).1 = .ok .finished ∧
      Calm (history (recorder hints handler S) resolver limit scope content
        (start initial depth [], h)) ∧
      (process (recorder hints handler S) resolver limit scope content
        (start initial depth [], h)).2.1.surface =
        (process (recorder hints handler .none) resolver limit scope content
          (start initial depth [], h)).2.1.surface.filter (kept S) := by
  have related : Related S (((start initial depth [], h), []) : World K R η)
      ((start initial depth [], h), []) :=
    ⟨agrees_start initial depth, fun _ member => absurd member List.not_mem_nil⟩
  have alike := run_alike hints handler colorful resolver limit limit
    (formRunner_alike hints handler colorful resolver limit limit) scope content _ _ related calm
  have plain := process_logged (recorder hints handler .none) resolver limit scope content
    (start initial depth [], h) []
  have filtered := process_logged (recorder hints handler S) resolver limit scope content
    (start initial depth [], h) []
  refine ⟨?_, alike.2.2, ?_⟩
  · exact filtered.1.symm.trans (alike.1.symm.trans (plain.1.trans finished))
  · rw [← plain.2, ← filtered.2]
    exact alike.2.1.marks

end

def lined : Form Float Unit :=
  ⟨⟨1, 0, 0, 1, 0, 0⟩, none,
    [⟨"m", [.integer 0, .integer 0]⟩, ⟨"l", [.integer 9, .integer 9]⟩, ⟨"S", []⟩], none⟩

def linedForm : Resolver Float Unit :=
  { Resolver.none Float Unit with
    font := fun _ _ => .ok (some (.simple "Plain" 65 [500] 0))
    xobject := fun _ _ => .ok (some (.form lined)) }

def tagged : List Operation :=
  [⟨"BMC", [.name [80]]⟩, ⟨"BT", []⟩, ⟨"Tf", [.name [70], .integer 9]⟩,
    ⟨"Tj", [.string [65] .literal]⟩, ⟨"ET", []⟩, ⟨"EMC", []⟩, ⟨"Do", [.name [70]]⟩]

def blankPage : GraphicsState Float := .initial ⟨1, 0, 0, 1, 0, 0⟩

def taggedMarks (S : Categories) : List (Mark Float) :=
  (process (recorder false (.strict Unit) S) linedForm 10 () tagged
    (start blankPage 500 [], ())).2.1.surface

theorem filter_deletes_stroke :
    (taggedMarks .none).map Mark.category = [.markedContent, .text, .markedContent, .paths] ∧
      (taggedMarks (.ofList [.paths])).map Mark.category =
        [.markedContent, .text, .markedContent] := by
  have colorful : Categories.ofList [.paths] .color = false := rfl
  have deleted := (filter_deletes false (.strict Unit) colorful linedForm 10 () tagged blankPage 500 ()
    rfl (by decide)).2.2
  refine ⟨rfl, ?_⟩
  rw [taggedMarks, deleted]
  rfl

end PageMarks.Filter
