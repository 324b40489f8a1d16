import PageMarks.Interpreter.Log

/-!
Hosts in lockstep. Two hosts that answer alike as long as their worlds are related see the same run
and end in related worlds. Keeping a log is one such case, and a property of worlds that every
request keeps is another.
-/

namespace PageMarks.Interpreter

variable {K R α ω₁ ω₂ : Type}

def Alike (Rel : ω₁ → ω₂ → Prop) (x : α × ω₁) (y : α × ω₂) : Prop := x.1 = y.1 ∧ Rel x.2 y.2

theorem Alike.split {Rel : ω₁ → ω₂ → Prop} {x : α × ω₁} {y : α × ω₂} (alike : Alike Rel x y) :
    ∃ a v₁ v₂, x = (a, v₁) ∧ y = (a, v₂) ∧ Rel v₁ v₂ :=
  ⟨x.1, x.2, y.2, rfl, by rw [alike.1], alike.2⟩

/-- Operations are taken up before a request to stop and given up after one. -/
def Timely (cancelled : Bool) : Note → Prop
  | .dispatch .. => cancelled = false
  | .stop _ => cancelled = true
  | _ => True

structure Lockstep (host₁ : Host K R ω₁) (host₂ : Host K R ω₂) (Rel : ω₁ → ω₂ → Prop) : Prop where
  features {w₁ : ω₁} {w₂ : ω₂} : Rel w₁ w₂ → host₁.features w₁ = host₂.features w₂
  call {w₁ : ω₁} {w₂ : ω₂} (c : Callback K R) :
    Rel w₁ w₂ → Alike Rel (host₁.call c w₁) (host₂.call c w₂)
  warn {w₁ : ω₁} {w₂ : ω₂} (warning : Warning) :
    Rel w₁ w₂ → Rel (host₁.warn warning w₁) (host₂.warn warning w₂)
  offer {w₁ : ω₁} {w₂ : ω₂} (failure : Failure) :
    Rel w₁ w₂ → Alike Rel (host₁.offer failure w₁) (host₂.offer failure w₂)
  note {w₁ : ω₁} {w₂ : ω₂} (note : Note) : Rel w₁ w₂ → Timely (host₁.cancelled w₁) note →
    Rel (host₁.note note w₁) (host₂.note note w₂)
  cancelled {w₁ : ω₁} {w₂ : ω₂} : Rel w₁ w₂ → host₁.cancelled w₁ = host₂.cancelled w₂

section

variable {host₁ : Host K R ω₁} {host₂ : Host K R ω₂} {Rel : ω₁ → ω₂ → Prop}
  (warns : ∀ {w₁ : ω₁} {w₂ : ω₂} (warning : Warning),
    Rel w₁ w₂ → Rel (host₁.warn warning w₁) (host₂.warn warning w₂))
include warns

theorem defaultSpace_alike (resolver : Resolver K R) (scope : R) (name : String) (wanted : Nat)
    {w₁ : ω₁} {w₂ : ω₂} (related : Rel w₁ w₂) :
    Alike Rel (defaultSpace host₁ resolver scope name wanted w₁)
      (defaultSpace host₂ resolver scope name wanted w₂) := by
  simp only [defaultSpace, badDefault]
  split
  · exact ⟨rfl, warns _ related⟩
  · exact ⟨rfl, related⟩
  · split
    · exact ⟨rfl, related⟩
    · exact ⟨rfl, warns _ related⟩

theorem openFrame_alike (resolver : Resolver K R) (scope : R) {w₁ : ω₁} {w₂ : ω₂}
    (wanted : host₁.features w₁ .colorSpace = host₂.features w₂ .colorSpace)
    (related : Rel w₁ w₂) :
    Alike Rel (openFrame host₁ resolver scope w₁) (openFrame host₂ resolver scope w₂) := by
  simp only [openFrame, wanted]
  split
  · obtain ⟨gray, _, _, e₁, e₂, related⟩ :=
      (defaultSpace_alike warns resolver scope "DefaultGray" 1 related).split
    simp only [e₁, e₂]
    obtain ⟨rgb, _, _, e₁, e₂, related⟩ :=
      (defaultSpace_alike warns resolver scope "DefaultRGB" 3 related).split
    simp only [e₁, e₂]
    obtain ⟨cmyk, _, _, e₁, e₂, related⟩ :=
      (defaultSpace_alike warns resolver scope "DefaultCMYK" 4 related).split
    simp only [e₁, e₂]
    exact ⟨rfl, related⟩
  · exact ⟨rfl, related⟩

end

namespace Lockstep

variable {host₁ : Host K R ω₁} {host₂ : Host K R ω₂} {Rel : ω₁ → ω₂ → Prop}

theorem perform (together : Lockstep host₁ host₂ Rel) (calls : List (Callback K R)) {w₁ : ω₁}
    {w₂ : ω₂} (related : Rel w₁ w₂) :
    Alike Rel (perform host₁ calls w₁) (perform host₂ calls w₂) := by
  induction calls generalizing w₁ w₂ with
  | nil => exact ⟨rfl, related⟩
  | cons c rest ih =>
    obtain ⟨answer, v₁, v₂, e₁, e₂, after⟩ := (together.call c related).split
    simp only [Interpreter.perform, e₁, e₂]
    cases answer with
    | ok => exact ih after
    | error => exact ⟨rfl, after⟩

theorem openFrame (together : Lockstep host₁ host₂ Rel) (resolver : Resolver K R) (scope : R)
    {w₁ : ω₁} {w₂ : ω₂} (related : Rel w₁ w₂) :
    Alike Rel (openFrame host₁ resolver scope w₁) (openFrame host₂ resolver scope w₂) :=
  openFrame_alike together.warn resolver scope (by rw [together.features related]) related

/-- Two sites of one operator, of which the hosts hear alike. -/
structure SameSite (host₁ : Host K R ω₁) (host₂ : Host K R ω₂) (Rel : ω₁ → ω₂ → Prop)
    (first second : Site) : Prop where
  operator : first.operator = second.operator
  heard {w₁ : ω₁} {w₂ : ω₂} (warning : Warning) :
    Rel w₁ w₂ → Rel (report host₁ first warning w₁) (report host₂ second warning w₂)
  taken {w₁ : ω₁} {w₂ : ω₂} : Rel w₁ w₂ → host₁.cancelled w₁ = false →
    Rel (host₁.note (.dispatch first.operator first.index) w₁)
      (host₂.note (.dispatch second.operator second.index) w₂)
  stopped {w₁ : ω₁} {w₂ : ω₂} : Rel w₁ w₂ → host₁.cancelled w₁ = true →
    Rel (host₁.note (.stop first.index) w₁) (host₂.note (.stop second.index) w₂)

theorem site (together : Lockstep host₁ host₂ Rel) (site : Site) :
    SameSite host₁ host₂ Rel site site where
  operator := rfl
  heard _ related := together.warn _ related
  taken related going := together.note _ related going
  stopped related asked := together.note _ related asked

def FormsAt (Rel : ω₁ → ω₂ → Prop) (first second : Site) (forms₁ : FormRunner K R ω₁)
    (forms₂ : FormRunner K R ω₂) : Prop :=
  ∀ name form scope w₁ w₂, Rel w₁ w₂ →
    Alike Rel (forms₁ first name form scope w₁) (forms₂ second name form scope w₂)

def Forms (Rel : ω₁ → ω₂ → Prop) (forms₁ : FormRunner K R ω₁) (forms₂ : FormRunner K R ω₂) :
    Prop :=
  ∀ site, FormsAt Rel site site forms₁ forms₂

def Runs (Rel : ω₁ → ω₂ → Prop) (run₁ : R → List Operation → ω₁ → Ending × ω₁)
    (run₂ : R → List Operation → ω₂ → Ending × ω₂) : Prop :=
  ∀ scope content w₁ w₂, Rel w₁ w₂ → Alike Rel (run₁ scope content w₁) (run₂ scope content w₂)

theorem tooDeep (limit : Nat) (first second : Site) :
    FormsAt Rel first second (tooDeep limit : FormRunner K R ω₁) (Interpreter.tooDeep limit) :=
  fun _ _ _ _ _ related => ⟨rfl, related⟩

namespace SameSite

variable {first second : Site} (sites : SameSite host₁ host₂ Rel first second)
include sites

theorem tolerate {x : Outcome × ω₁} {y : Outcome × ω₂} (alike : Alike Rel x y) :
    Alike Rel (tolerate host₁ first x) (Interpreter.tolerate host₂ second y) := by
  obtain ⟨answer, v₁, v₂, rfl, rfl, after⟩ := alike.split
  rcases answer with (_ | warning | _ | _) | _
  case error.warning => exact ⟨rfl, sites.heard warning after⟩
  all_goals exact ⟨rfl, after⟩

variable (together : Lockstep host₁ host₂ Rel)
include together

theorem settle (sections : Nat) {x : Outcome × ω₁} {y : Outcome × ω₂} (alike : Alike Rel x y) :
    Alike Rel (settle host₁ first sections x) (Interpreter.settle host₂ second sections y) := by
  obtain ⟨answer, v₁, v₂, rfl, rfl, after⟩ := alike.split
  rcases answer with (_ | warning | failure | _) | _
  case error.unsupported =>
    simp only [Interpreter.settle, sites.operator]
    split
    · exact ⟨rfl, sites.heard _ after⟩
    · exact ⟨rfl, after⟩
  case error.warning => exact ⟨rfl, sites.heard warning after⟩
  case error.fatal => exact together.offer failure after
  all_goals exact ⟨rfl, after⟩

theorem leaveForm (name : String) (body : Outcome) {w₁ : ω₁} {w₂ : ω₂} (related : Rel w₁ w₂) :
    Alike Rel (leaveForm host₁ first name body w₁)
      (Interpreter.leaveForm host₂ second name body w₂) := by
  obtain ⟨restored, v₁, v₂, e₁, e₂, after⟩ := (together.call .restore related).split
  simp only [Interpreter.leaveForm, e₁, e₂]
  have left := together.note (.leave name) after trivial
  cases body with
  | error => exact ⟨rfl, left⟩
  | ok => exact sites.tolerate ⟨rfl, left⟩

section

variable {forms₁ : FormRunner K R ω₁} {forms₂ : FormRunner K R ω₂}
  (alike : FormsAt Rel first second forms₁ forms₂)
include alike

omit sites in
theorem carryOut (scope : R) (p : Plan K R) {w₁ : ω₁} {w₂ : ω₂} (related : Rel w₁ w₂) :
    Alike Rel (carryOut host₁ forms₁ first scope p w₁)
      (Interpreter.carryOut host₂ forms₂ second scope p w₂) := by
  obtain ⟨answer, v₁, v₂, e₁, e₂, after⟩ := (together.perform p.calls related).split
  simp only [Interpreter.carryOut, e₁, e₂]
  cases answer with
  | error => exact ⟨rfl, after⟩
  | ok =>
    simp only [follow]
    split
    · exact ⟨rfl, after⟩
    · exact ⟨rfl, after⟩
    · exact alike _ _ _ _ _ after

theorem operate [Scalar K] (resolver : Resolver K R) (frame : Frame R) (op : Operation) {w₁ : ω₁}
    {w₂ : ω₂} (related : Rel w₁ w₂) :
    ∃ answer sections v₁ v₂,
      operate host₁ resolver forms₁ frame first op w₁ = (answer, sections, v₁) ∧
        Interpreter.operate host₂ resolver forms₂ frame second op w₂ = (answer, sections, v₂) ∧
        Rel v₁ v₂ := by
  simp only [Interpreter.operate, together.features related]
  split
  · rename_i signal _
    have refused : Alike Rel ((.error signal, w₁) : Outcome × ω₁) (.error signal, w₂) :=
      ⟨rfl, related⟩
    obtain ⟨answer, v₁, v₂, e₁, e₂, after⟩ := (sites.settle together frame.sections refused).split
    exact ⟨answer, frame.sections, v₁, v₂, by rw [e₁], by rw [e₂], after⟩
  · rename_i p _
    obtain ⟨answer, v₁, v₂, e₁, e₂, after⟩ :=
      (sites.settle together p.sections (carryOut together alike frame.scope p related)).split
    exact ⟨answer, p.sections, v₁, v₂, by rw [e₁], by rw [e₂], after⟩

end

variable [Scalar K]

theorem setUp (form : Form K R) {w₁ : ω₁} {w₂ : ω₂} (related : Rel w₁ w₂) :
    Alike Rel (setUp host₁ first form w₁) (Interpreter.setUp host₂ second form w₂) := by
  obtain ⟨answer, v₁, v₂, e₁, e₂, after⟩ :=
    (sites.tolerate (together.call (.concat form.matrix) related)).split
  simp only [Interpreter.setUp, e₁, e₂]
  cases answer with
  | error => exact ⟨rfl, after⟩
  | ok =>
    cases form.box with
    | none => exact ⟨rfl, after⟩
    | some box => exact together.perform (clipToBox box) after

variable {run₁ : R → List Operation → ω₁ → Ending × ω₁}
  {run₂ : R → List Operation → ω₂ → Ending × ω₂} (alike : Runs Rel run₁ run₂)
include alike

theorem runBody (form : Form K R) (scope : R) {w₁ : ω₁} {w₂ : ω₂} (related : Rel w₁ w₂) :
    Alike Rel (runBody host₁ run₁ first form scope w₁)
      (Interpreter.runBody host₂ run₂ second form scope w₂) := by
  obtain ⟨answer, v₁, v₂, e₁, e₂, after⟩ := (sites.setUp together form related).split
  simp only [Interpreter.runBody, e₁, e₂]
  cases answer with
  | error => exact ⟨rfl, after⟩
  | ok =>
    obtain ⟨ending, _, _, e₁, e₂, after⟩ :=
      (alike (form.scope.getD scope) form.content _ _ after).split
    simp only [e₁, e₂]
    cases ending <;> exact ⟨rfl, after⟩

theorem runForm (depth : Nat) :
    FormsAt Rel first second (runForm host₁ depth run₁) (Interpreter.runForm host₂ depth run₂) := by
  intro name form scope w₁ w₂ related
  obtain ⟨answer, v₁, v₂, e₁, e₂, entered⟩ := (sites.tolerate
    (together.call .save (together.note (.enter name depth) related trivial))).split
  simp only [Interpreter.runForm, e₁, e₂]
  cases answer with
  | error => exact ⟨rfl, entered⟩
  | ok =>
    obtain ⟨body, _, _, e₁, e₂, inside⟩ := (sites.runBody together alike form scope entered).split
    simp only [e₁, e₂]
    exact sites.leaveForm together name body inside

end SameSite

theorem settle (together : Lockstep host₁ host₂ Rel) (site : Site) (sections : Nat)
    {x : Outcome × ω₁} {y : Outcome × ω₂} (alike : Alike Rel x y) :
    Alike Rel (settle host₁ site sections x) (Interpreter.settle host₂ site sections y) :=
  (together.site site).settle together sections alike

theorem leaveForm (together : Lockstep host₁ host₂ Rel) (site : Site) (name : String)
    (body : Outcome) {w₁ : ω₁} {w₂ : ω₂} (related : Rel w₁ w₂) :
    Alike Rel (leaveForm host₁ site name body w₁) (Interpreter.leaveForm host₂ site name body w₂) :=
  (together.site site).leaveForm together name body related

variable [Scalar K] {forms₁ : FormRunner K R ω₁} {forms₂ : FormRunner K R ω₂}

theorem operate (together : Lockstep host₁ host₂ Rel) (resolver : Resolver K R)
    (alike : Forms Rel forms₁ forms₂) (frame : Frame R) (site : Site) (op : Operation) {w₁ : ω₁}
    {w₂ : ω₂} (related : Rel w₁ w₂) :
    ∃ answer sections v₁ v₂,
      operate host₁ resolver forms₁ frame site op w₁ = (answer, sections, v₁) ∧
        Interpreter.operate host₂ resolver forms₂ frame site op w₂ = (answer, sections, v₂) ∧
        Rel v₁ v₂ :=
  (together.site site).operate together (alike site) resolver frame op related

theorem executeFrom (together : Lockstep host₁ host₂ Rel) (resolver : Resolver K R) {shift : Nat}
    (sites : ∀ operator n, SameSite host₁ host₂ Rel ⟨operator, n⟩ ⟨operator, n + shift⟩)
    (alike : ∀ operator n, FormsAt Rel ⟨operator, n⟩ ⟨operator, n + shift⟩ forms₁ forms₂)
    (frame : Frame R) (index : Nat) (content : List Operation) {w₁ : ω₁} {w₂ : ω₂}
    (related : Rel w₁ w₂) :
    Alike Rel (execute host₁ resolver forms₁ frame index content w₁)
      (execute host₂ resolver forms₂ frame (index + shift) content w₂) := by
  induction content generalizing frame index w₁ w₂ with
  | nil => exact ⟨rfl, related⟩
  | cons op rest ih =>
    have same := sites op.operator index
    simp only [Interpreter.execute, ← together.cancelled related]
    split
    · rename_i stopped
      exact ⟨rfl, same.stopped related stopped⟩
    · rename_i going
      obtain ⟨answer, sections, v₁, v₂, e₁, e₂, after⟩ := same.operate together
        (alike op.operator index) resolver frame op
        (same.taken related (eq_false_of_ne_true going))
      simp only [e₁, e₂]
      cases answer with
      | error => exact ⟨rfl, after⟩
      | ok =>
        have later := ih { frame with sections } (index + 1) after
        rwa [Nat.add_right_comm] at later

theorem execute (together : Lockstep host₁ host₂ Rel) (resolver : Resolver K R)
    (alike : Forms Rel forms₁ forms₂) (frame : Frame R) (index : Nat) (content : List Operation)
    {w₁ : ω₁} {w₂ : ω₂} (related : Rel w₁ w₂) :
    Alike Rel (execute host₁ resolver forms₁ frame index content w₁)
      (execute host₂ resolver forms₂ frame index content w₂) := by
  have sites (operator : String) (n : Nat) :
      SameSite host₁ host₂ Rel ⟨operator, n⟩ ⟨operator, n + 0⟩ := together.site ⟨operator, n⟩
  exact together.executeFrom resolver sites (fun operator n => alike ⟨operator, n⟩) frame index
    content related

theorem run (together : Lockstep host₁ host₂ Rel) (resolver : Resolver K R) (limit room : Nat) :
    Runs Rel (run host₁ resolver limit room) (Interpreter.run host₂ resolver limit room) := by
  induction room with
  | zero =>
    intro scope content w₁ w₂ related
    obtain ⟨frame, v₁, v₂, e₁, e₂, after⟩ := (together.openFrame resolver scope related).split
    simp only [Interpreter.run, e₁, e₂]
    exact together.execute resolver (fun site => tooDeep limit site site) frame 0 content after
  | succ room ih =>
    intro scope content w₁ w₂ related
    obtain ⟨frame, v₁, v₂, e₁, e₂, after⟩ := (together.openFrame resolver scope related).split
    simp only [Interpreter.run, e₁, e₂]
    exact together.execute resolver
      (fun site => (together.site site).runForm together ih (limit - room)) frame 0 content after

theorem formRunnerAt (together : Lockstep host₁ host₂ Rel) (resolver : Resolver K R)
    (limit room : Nat) {first second : Site} (sites : SameSite host₁ host₂ Rel first second) :
    FormsAt Rel first second (formRunner host₁ resolver limit room)
      (formRunner host₂ resolver limit room) := by
  cases room with
  | zero => exact tooDeep limit first second
  | succ room => exact sites.runForm together (together.run resolver limit room) (limit - room)

theorem formRunner (together : Lockstep host₁ host₂ Rel) (resolver : Resolver K R)
    (limit room : Nat) :
    Forms Rel (formRunner host₁ resolver limit room)
      (Interpreter.formRunner host₂ resolver limit room) :=
  fun site => together.formRunnerAt resolver limit room (together.site site)

end Lockstep

variable {ω : Type} (host : Host K R ω)

theorem logged_lockstep : Lockstep host.logged host fun w v => w.1 = v where
  features := by rintro _ _ rfl; rfl
  call := by rintro _ _ c rfl; exact ⟨rfl, rfl⟩
  warn := by rintro _ _ warning rfl; rfl
  offer := by rintro _ _ failure rfl; exact ⟨rfl, rfl⟩
  note := by rintro _ _ note rfl -; rfl
  cancelled := by rintro _ _ rfl; rfl

theorem process_logged [Scalar K] (resolver : Resolver K R) (limit : Nat) (scope : R)
    (content : List Operation) (w : ω) (log : Log K R) :
    Alike (fun w v => w.1 = v) (process host.logged resolver limit scope content (w, log))
      (process host resolver limit scope content w) :=
  (logged_lockstep host).run resolver limit limit scope content (w, log) w rfl

/-- A property of worlds that no request to the host breaks. -/
structure Kept (Inv : ω → Prop) : Prop where
  call {w : ω} (c : Callback K R) : Inv w → Inv (host.call c w).2
  warn {w : ω} (warning : Warning) : Inv w → Inv (host.warn warning w)
  offer {w : ω} (failure : Failure) : Inv w → Inv (host.offer failure w).2
  note {w : ω} (note : Note) : Inv w → Timely (host.cancelled w) note → Inv (host.note note w)

namespace Kept

variable {host} {Inv : ω → Prop} (kept : Kept host Inv)
include kept

theorem lockstep : Lockstep host host fun w v => w = v ∧ Inv w where
  features := by rintro _ _ ⟨rfl, -⟩; rfl
  call := by rintro _ _ c ⟨rfl, holds⟩; exact ⟨rfl, rfl, kept.call c holds⟩
  warn := by rintro _ _ warning ⟨rfl, holds⟩; exact ⟨rfl, kept.warn warning holds⟩
  offer := by rintro _ _ failure ⟨rfl, holds⟩; exact ⟨rfl, rfl, kept.offer failure holds⟩
  note := by rintro _ _ note ⟨rfl, holds⟩ timely; exact ⟨rfl, kept.note note holds timely⟩
  cancelled := by rintro _ _ ⟨rfl, -⟩; rfl

variable [Scalar K] (resolver : Resolver K R) (limit room : Nat)

theorem operate (frame : Frame R) (site : Site) (op : Operation) {w : ω} (holds : Inv w) :
    Inv (operate host resolver (formRunner host resolver limit room) frame site op w).2.2 := by
  have related : w = w ∧ Inv w := ⟨rfl, holds⟩
  obtain ⟨answer, sections, v₁, v₂, same, -, -, after⟩ := kept.lockstep.operate resolver
    (kept.lockstep.formRunner resolver limit room) frame site op related
  rw [same]
  exact after

theorem execute (frame : Frame R) (index : Nat) (content : List Operation) {w : ω} (holds : Inv w) :
    Inv (execute host resolver (formRunner host resolver limit room) frame index content w).2 :=
  (kept.lockstep.execute resolver (kept.lockstep.formRunner resolver limit room) frame index content
    ⟨rfl, holds⟩).2.2

theorem run (scope : R) (content : List Operation) {w : ω} (holds : Inv w) :
    Inv (run host resolver limit room scope content w).2 :=
  (kept.lockstep.run resolver limit room scope content w w ⟨rfl, holds⟩).2.2

end Kept
end PageMarks.Interpreter
